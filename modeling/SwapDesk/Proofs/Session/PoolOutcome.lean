import SwapDesk.Proofs.Session.CreatePool
import SwapDesk.Proofs.Session.Pools
import SwapDesk.Proofs.Session.Purchase
import SwapDesk.Session.Script

/-!
# Outcomes of creating a pool

The chain is asked for the pool once. What it tells, what the texts write and which calls the wallet
takes settle how the creation ends, and with which calls accepted.
-/

namespace SwapDesk

variable {σ ω : Type}

/-- The wallet accepts the calls, one after the other. -/
def Wallet.Accepts (wallet : Wallet ω) : List FunctionCall → ω → Prop
  | [], _ => True
  | call :: rest, w =>
    (wallet.submit call w).1 = .ok () ∧ wallet.Accepts rest (wallet.submit call w).2

private theorem Wallet.accepts_pair_iff {wallet : Wallet ω} {first second : FunctionCall} {w : ω} :
    wallet.Accepts [first, second] w ↔ (wallet.submit first w).1 = .ok () ∧
      (wallet.submit second (wallet.submit first w).2).1 = .ok () := by
  simp only [Accepts, and_true]

private theorem FunctionCall.fills_iff {call : FunctionCall} {amm : Amm} {token : Token}
    {a b c : Amount} :
    call.Fills amm token a b c ↔ call = amm.addLiquidity token.address a b c := by
  constructor
  · exact fun h => h.2.unique (amm.addLiquidity_fills token a b c).2
  · rintro rfl
    exact amm.addLiquidity_fills token a b c

namespace Session

variable {amm : Amm} {token : Token} {near mostTokens leastShares : String}

private theorem poolAmounts_eq_ok_iff {a b c : Amount} :
    poolAmounts near mostTokens leastShares = .ok (a, b, c) ↔
      Amount.Writes near a ∧ Amount.Writes mostTokens b ∧ Amount.Writes leastShares c := by
  simp only [← Amount.ofHuman_eq_ok_iff, poolAmounts, bind_eq_ok_iff]
  constructor
  · rintro ⟨_, ha, _, hb, _, hc, ⟨⟩⟩
    exact ⟨ha, hb, hc⟩
  · rintro ⟨ha, hb, hc⟩
    exact ⟨_, ha, _, hb, _, hc, rfl⟩

private theorem poolTold_eq_ok_iff {reply : Except ClientError Json} {told : Option Pool} :
    reply.bind (readPool "pool_info") = .ok told ↔ ∃ v, reply = .ok v ∧ v.Tells told := by
  cases reply with
  | error e => exact ⟨nofun, nofun⟩
  | ok v =>
    rw [show (Except.ok v).bind (readPool "pool_info") = readPool "pool_info" v from rfl,
      readPool_eq_ok_iff]
    constructor
    · exact fun h => ⟨v, rfl, h⟩
    · rintro ⟨_, ⟨⟩, h⟩
      exact h

/-! ## What settles the outcome -/

section Settled

variable {wallet : Wallet ω} {w : ω} {reply : Except ClientError Json}
  {result : Except ClientError Bool} {calls : List FunctionCall}

/-- There is a pool already. -/
def Found (reply : Except ClientError Json) : Prop := ∃ v pool, reply = .ok v ∧ v.Describes pool

theorem found_iff : Found reply ↔ ∃ pool, reply.bind (readPool "pool_info") = .ok (some pool) := by
  simp only [poolTold_eq_ok_iff]
  constructor
  · rintro ⟨v, pool, hreply, hpool⟩
    exact ⟨pool, v, hreply, .present hpool⟩
  · rintro ⟨pool, v, hreply, hpool | hpool⟩
    exact ⟨v, pool, hreply, hpool⟩

theorem absent_iff : reply.bind (readPool "pool_info") = .ok none ↔ reply = .ok .null := by
  rw [poolTold_eq_ok_iff]
  constructor
  · rintro ⟨_, hreply, ⟨⟩⟩
    exact hreply
  · exact fun hreply => ⟨_, hreply, .absent⟩

private theorem not_found_of_absent (h : reply.bind (readPool "pool_info") = .ok none) :
    ¬ Found reply := by
  rw [found_iff, h]
  rintro ⟨pool, ⟨⟩⟩

/-- There is no pool, the wallet accepts the call that creates it and does not sign out with that,
the texts write amounts, and the wallet accepts the call that adds these amounts. -/
structure Created (amm : Amm) (token : Token) (near mostTokens leastShares : String)
    (reply : Except ClientError Json) (wallet : Wallet ω) (w : ω) (opening filling : FunctionCall) :
    Prop where
  absent : reply = .ok .null
  stays : (wallet.account (wallet.submit opening w).2).isSome
  amounts : ∃ a b c, Amount.Writes near a ∧ Amount.Writes mostTokens b ∧
    Amount.Writes leastShares c ∧ filling.Fills amm token a b c
  accepted : wallet.Accepts [opening, filling] w

theorem created_iff {filling : FunctionCall} :
    Created amm token near mostTokens leastShares reply wallet w (amm.createPool token.address)
      filling ↔
    ∃ account, Opened amm token (reply.bind (readPool "pool_info")) wallet w (some account) ∧
      ∃ a b c, poolAmounts near mostTokens leastShares = .ok (a, b, c) ∧
        filling = amm.addLiquidity token.address a b c ∧
        (wallet.submit filling (wallet.submit (amm.createPool token.address) w).2).1 = .ok () := by
  simp only [poolAmounts_eq_ok_iff]
  constructor
  · rintro ⟨hnull, hstays, ⟨a, b, c, ha, hb, hc, hfills⟩, haccepts⟩
    obtain ⟨account, haccount⟩ := Option.isSome_iff_exists.mp hstays
    obtain ⟨hopened, hfilled⟩ := Wallet.accepts_pair_iff.mp haccepts
    exact ⟨account, ⟨absent_iff.mpr hnull, hopened, haccount⟩, a, b, c, ⟨ha, hb, hc⟩,
      FunctionCall.fills_iff.mp hfills, hfilled⟩
  · rintro ⟨account, ⟨hnull, hopened, haccount⟩, a, b, c, ⟨ha, hb, hc⟩, hfilling, hfilled⟩
    exact ⟨absent_iff.mp hnull, by rw [haccount]; rfl,
      ⟨a, b, c, ha, hb, hc, FunctionCall.fills_iff.mpr hfilling⟩,
      Wallet.accepts_pair_iff.mpr ⟨hopened, hfilled⟩⟩

variable (h : Ends amm token near mostTokens leastShares (reply.bind (readPool "pool_info")) wallet
  w result calls)
include h

private theorem Ends.eq_true_iff : result = .ok true ↔ Found reply := by
  constructor
  · rintro rfl
    cases h with
    | found hpool => exact found_iff.mpr ⟨_, hpool⟩
  · intro hfound
    cases h with
    | found => rfl
    | unread hunread =>
      rw [found_iff, hunread] at hfound
      obtain ⟨pool, ⟨⟩⟩ := hfound
    | refused hnone => exact absurd hfound (not_found_of_absent hnone)
    | signedOut hopened | malformed hopened | unfilled hopened | filled hopened =>
      exact absurd hfound (not_found_of_absent hopened.absent)

private theorem Ends.of_created {filling : FunctionCall}
    (hcreated : Created amm token near mostTokens leastShares reply wallet w
      (amm.createPool token.address) filling) :
    result = .ok false ∧ calls = [amm.createPool token.address, filling] := by
  obtain ⟨account, hopened, a, b, c, hamounts, rfl, hfilled⟩ := created_iff.mp hcreated
  exact (h.of_opened hopened).2 a b c hamounts hfilled

theorem Ends.eq_false_iff : result = .ok false ↔
    ∃ filling, Created amm token near mostTokens leastShares reply wallet w
      (amm.createPool token.address) filling := by
  constructor
  · rintro rfl
    cases h with
    | filled hopened hamounts haccepted =>
      exact ⟨_, created_iff.mpr ⟨_, hopened, _, _, _, hamounts, rfl, haccepted⟩⟩
  · rintro ⟨filling, hcreated⟩
    exact (h.of_created hcreated).1

private theorem Ends.calls_eq_nil
    (hreply : Found reply ∨ ∀ v told, reply = .ok v → ¬ v.Tells told) :
    calls = [] := by
  -- Calls are sent only after the chain has told that there is no pool.
  have hnone : reply.bind (readPool "pool_info") ≠ .ok none := by
    intro hnone
    rcases hreply with hfound | hunread
    · exact not_found_of_absent hnone hfound
    · obtain ⟨v, hv, htells⟩ := poolTold_eq_ok_iff.mp hnone
      exact hunread v _ hv htells
  cases h with
  | unread | found | refused => rfl
  | signedOut hopened | malformed hopened | unfilled hopened | filled hopened =>
    exact absurd hopened.absent hnone

private theorem Ends.of_failure (hfound : ¬ Found reply)
    (hcreated : ∀ filling, ¬ Created amm token near mostTokens leastShares reply wallet w
      (amm.createPool token.address) filling) :
    (∃ e, result = .error e) ∧ calls <+: [amm.createPool token.address] := by
  cases h with
  | unread | refused => exact ⟨⟨_, rfl⟩, List.nil_prefix⟩
  | signedOut | malformed | unfilled => exact ⟨⟨_, rfl⟩, List.prefix_rfl⟩
  | found hpool => exact absurd (found_iff.mpr ⟨_, hpool⟩) hfound
  | filled hopened hamounts haccepted =>
    exact absurd (created_iff.mpr ⟨_, hopened, _, _, _, hamounts, rfl, haccepted⟩) (hcreated _)

end Settled

/-- What the creation of a pool comes to for whoever is signed in. It asks the chain for the pool
and for nothing else. It finds one exactly if the reply describes it, and has sent nothing then. It
creates one exactly if the reply tells that there is none, all three texts write amounts and the
wallet accepts both calls, with somebody signed in between them, and these are then the calls
accepted. In all other cases it fails with at most the first of the two accepted, and with none if
the chain has told nothing of the pool. -/
theorem createPool_outcomes (amm : Amm) (account : String) (token : Token)
    (near mostTokens leastShares : String) (chain : Chain σ) (wallet : Wallet ω) (s : σ) (w : ω) :
    let outcome := (createPool ⟨amm, some account⟩ token near mostTokens leastShares).run
      chain wallet s w
    ∃ (view : ViewCall) (opening : FunctionCall),
      view.Asks amm "pool_info" [("token", .account token.address)] ∧ opening.Opens amm token ∧
      outcome.queries = [.view view] ∧
      let reply := (chain.view view s).1
      let created := Created amm token near mostTokens leastShares reply wallet w opening
      (outcome.result = .ok true ↔ Found reply) ∧ (Found reply → outcome.submitted = []) ∧
      (outcome.result = .ok false ↔ ∃ filling, created filling) ∧
      (∀ filling, created filling → outcome.submitted = [opening, filling]) ∧
      (¬ Found reply → (∀ filling, ¬ created filling) →
        (∃ e, outcome.result = .error e) ∧ outcome.submitted <+: [opening]) ∧
      ((∀ v told, reply = .ok v → ¬ v.Tells told) → outcome.submitted = []) := by
  intro outcome
  have hsigned : (Session.mk amm (some account)).account = some account := rfl
  obtain ⟨hqueries, hends⟩ :=
    ends_createPool chain wallet token near mostTokens leastShares hsigned s w
  rw [result_poolInfo] at hends
  exact ⟨_, _, amm.poolInfo_asks token, amm.createPool_opens token, hqueries, hends.eq_true_iff,
    fun hfound => hends.calls_eq_nil (.inl hfound), hends.eq_false_iff,
    fun filling hcreated => (hends.of_created hcreated).2, hends.of_failure,
    fun hunread => hends.calls_eq_nil (.inr hunread)⟩

/-- A pool that is described is found. One that is not there is created and seeded, or left empty by
a wallet that takes one call only or signs out after it. A refused view leaves everything as it
is. -/
theorem createPool_outcomes_seeded :
    let amm : Amm := ⟨"amm.testnet"⟩
    let alice : Option String := some "alice.testnet"
    let dai : Token := ⟨"DAI", .nep21, "dai.testnet"⟩
    let pool := Json.array [.string "1", .string "20", .string "0"]
    let opening := amm.createPool "dai.testnet"
    let filling := amm.addLiquidity "dai.testnet" ⟨10 ^ 24⟩ ⟨25 * 10 ^ 23⟩ .zero
    let outcome := (createPool ⟨amm, alice⟩ dai "1" "2.5" "0").run Script.chain
      (Script.wallet alice)
    let created := Created amm dai "1" "2.5" "0" (.ok .null) (Script.wallet alice)
    let leaving : Wallet (Option String) := ⟨id, fun _ _ => (.ok (), none)⟩
    let left := (createPool ⟨amm, alice⟩ dai "1" "2.5" "0").run Script.chain leaving
      [.value .null] alice
    (Found (.ok pool) ∧ (outcome [.value pool] none).result = .ok true ∧
      (outcome [.value pool] none).submitted = []) ∧
    (created none opening filling ∧ (outcome [.value .null] none).result = .ok false ∧
      (outcome [.value .null] none).submitted = [opening, filling]) ∧
    (¬ Found (.ok .null) ∧ (∀ call, ¬ created (some 1) opening call) ∧
      (∃ e, (outcome [.value .null] (some 1)).result = .error e) ∧
      (outcome [.value .null] (some 1)).submitted <+: [opening]) ∧
    ((∀ call, ¬ Created amm dai "1" "2.5" "0" (.ok .null) leaving alice opening call) ∧
      (∃ e, left.result = .error e) ∧ left.submitted <+: [opening]) ∧
    (outcome [.refusal "gone"] none).submitted = [] := by
  intro amm alice dai pool opening filling outcome created leaving left
  have hpool : Found (.ok pool) :=
    ⟨_, ⟨⟨1⟩, ⟨20⟩, .zero⟩, rfl, .listed (.cons ⟨_, rfl, by decide, by decide, rfl⟩
      (.cons ⟨_, rfl, by decide, by decide, rfl⟩
        (.cons ⟨_, rfl, by decide, by decide, rfl⟩ .nil)))⟩
  have hcreated : created none opening filling :=
    created_iff.mpr ⟨"alice.testnet", ⟨rfl, rfl, rfl⟩, _, _, _, rfl, rfl, rfl⟩
  have hempty : ¬ Found (.ok .null) := not_found_of_absent rfl
  have hone : ∀ call, ¬ created (some 1) opening call := fun _ h => nomatch h.accepted.2.1
  have hgone : ∀ call, ¬ Created amm dai "1" "2.5" "0" (.ok .null) leaving alice opening call :=
    fun _ h => nomatch h.stays
  have hopening : ∀ {call : FunctionCall}, call.Opens amm dai → call = opening :=
    fun h => h.2.unique (amm.createPool_opens dai).2
  have houtcomes := createPool_outcomes amm "alice.testnet" dai "1" "2.5" "0" Script.chain
    (Script.wallet alice)
  refine ⟨⟨hpool, ?_⟩, ⟨hcreated, ?_⟩, ⟨hempty, hone, ?_⟩, ⟨hgone, ?_⟩, ?_⟩
  · obtain ⟨_, _, -, -, hasked, hfound, hnothing, -⟩ := houtcomes [.value pool] none
    cases hasked
    exact ⟨hfound.mpr hpool, hnothing hpool⟩
  · obtain ⟨_, _, -, hopens, hasked, -, -, hfalse, hsubmitted, -⟩ :=
      houtcomes [.value .null] none
    cases hasked
    cases hopening hopens
    exact ⟨hfalse.mpr ⟨_, hcreated⟩, hsubmitted _ hcreated⟩
  · obtain ⟨_, _, -, hopens, hasked, -, -, -, -, hfailed, -⟩ :=
      houtcomes [.value .null] (some 1)
    cases hasked
    cases hopening hopens
    exact hfailed hempty hone
  · obtain ⟨_, _, -, hopens, hasked, -, -, -, -, hfailed, -⟩ :=
      createPool_outcomes amm "alice.testnet" dai "1" "2.5" "0" Script.chain leaving
        [.value .null] alice
    cases hasked
    cases hopening hopens
    exact hfailed hempty hgone
  · obtain ⟨_, _, -, -, hasked, -, -, -, -, -, hnothing⟩ := houtcomes [.refusal "gone"] none
    cases hasked
    exact hnothing nofun

end Session

end SwapDesk
