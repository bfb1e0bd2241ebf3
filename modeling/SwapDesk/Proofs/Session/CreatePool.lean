import SwapDesk.Proofs.Session.Dialog
import SwapDesk.Session.Script

/-!
# Creating a pool

A pool is created with one call and filled with another. Between the two the wallet is asked again
who is signed in and the three amounts are read, so that a text that is no amount is found when the
wallet may have taken the first call already.
-/

namespace SwapDesk.Session

variable {σ ω : Type} (chain : Chain σ) (wallet : Wallet ω)

private theorem run_poolInfo {session : Session} {token : String} {reply : Except ClientError Json}
    {s s' : σ} (h : chain.view (session.amm.poolInfo token) s = (reply, s')) (w : ω) :
    (session.poolInfo token).run chain wallet s w =
      ⟨reply.bind (readPool "pool_info"),
        [.asked (.view (session.amm.poolInfo token)) reply.isOk], s', w⟩ := by
  rw [poolInfo, Dialog.run_bind, Dialog.run_view chain wallet h]
  cases reply with
  | error e => rfl
  | ok value =>
    rw [Outcome.andThen_ok, Dialog.run_lift]
    rfl

/-! ## Amounts -/

def poolAmounts (near mostTokens leastShares : String) :
    Except AmountError (Amount × Amount × Amount) := do
  let near ← Amount.ofHuman near
  let mostTokens ← Amount.ofHuman mostTokens
  let leastShares ← Amount.ofHuman leastShares
  return (near, mostTokens, leastShares)

def Malformed (near mostTokens leastShares : String) : Prop :=
  ∃ text ∈ [near, mostTokens, leastShares], ∃ e, Amount.ofHuman text = .error e

variable {session : Session} {token : Token} {near mostTokens leastShares : String}

theorem malformed_iff :
    Malformed near mostTokens leastShares ↔
      ∃ e, poolAmounts near mostTokens leastShares = .error e := by
  simp only [Malformed, List.mem_cons, List.not_mem_nil, or_false, exists_eq_or_imp,
    exists_eq_left]
  rw [poolAmounts]
  cases hn : Amount.ofHuman near with
  | error e => simp [bind, Except.bind]
  | ok nearAmount =>
    cases hm : Amount.ofHuman mostTokens with
    | error e => simp [bind, Except.bind]
    | ok mostAmount =>
      cases Amount.ofHuman leastShares <;> simp [bind, Except.bind, pure, Except.pure]

private theorem run_addLiquidity {account : String} (h : session.account = some account) (s : σ)
    (w : ω) :
    (session.addLiquidity token near mostTokens leastShares).run chain wallet s w =
      match poolAmounts near mostTokens leastShares with
      | .ok (near, mostTokens, leastShares) =>
        (send (session.amm.addLiquidity token.address near mostTokens leastShares)).run
          chain wallet s w
      | .error e => ⟨.error (.amount e), [], s, w⟩ := by
  rw [addLiquidity, run_signedIn_bind, h, poolAmounts]
  dsimp only
  rw [run_typed_bind]
  cases Amount.ofHuman near with
  | error e => rfl
  | ok nearAmount =>
    dsimp only
    rw [run_typed_bind]
    cases Amount.ofHuman mostTokens with
    | error e => rfl
    | ok mostAmount =>
      dsimp only
      rw [run_typed_bind]
      cases Amount.ofHuman leastShares <;> rfl

/-! ## Ways to end -/

theorem result_poolInfo (session : Session) (token : String) (s : σ) (w : ω) :
    ((session.poolInfo token).run chain wallet s w).result =
      (chain.view (session.amm.poolInfo token) s).1.bind (readPool "pool_info") := by
  rw [run_poolInfo chain wallet rfl]

private def afterPool (session : Session) (token : Token) (near mostTokens leastShares : String) :
    Option Pool → Dialog Bool
  | some _ => return true
  | none => do
    let account ← Dialog.submit (session.amm.createPool token.address)
    let _ ← addLiquidity { session with account } token near mostTokens leastShares
    return false

private theorem createPool_eq :
    session.createPool token near mostTokens leastShares =
      session.signedIn >>= fun _ => session.poolInfo token.address >>=
        session.afterPool token near mostTokens leastShares := rfl

private theorem run_afterPool_none {answer : Except ClientError Unit} {w w' : ω}
    (hsubmit : wallet.submit (session.amm.createPool token.address) w = (answer, w')) (s : σ) :
    (session.afterPool token near mostTokens leastShares none).run chain wallet s w =
      (Outcome.mk answer [.asked (.submit (session.amm.createPool token.address)) answer.isOk] s
        w').andThen fun _ s w =>
          ((addLiquidity { session with account := wallet.account w' } token near mostTokens
            leastShares).run chain wallet s w).andThen fun _ s w => ⟨.ok false, [], s, w⟩ := by
  rw [afterPool, Dialog.run_bind, Dialog.run_submit chain wallet hsubmit]
  cases answer with
  | error e => rfl
  | ok =>
    change Outcome.andThen ⟨.ok (wallet.account w'), _, s, w'⟩ _ = _
    rw [Outcome.andThen_ok, Outcome.andThen_ok, Dialog.run_bind]
    rfl

section Ends

variable (amm : Amm) (token : Token) (near mostTokens leastShares : String)
  (told : Except ClientError (Option Pool)) (wallet : Wallet ω) (w : ω)

/-- There is no pool of the token yet and the wallet accepts the call that creates it. This account
is signed in then. -/
structure Opened (account : Option String) : Prop where
  absent : told = .ok none
  accepted : (wallet.submit (amm.createPool token.address) w).1 = .ok ()
  account : wallet.account (wallet.submit (amm.createPool token.address) w).2 = account

/-- The ways in which the creation of a pool ends once the chain has told of it, each with its
result and the calls that the wallet has accepted. -/
inductive Ends : Except ClientError Bool → List FunctionCall → Prop
  | unread {e : ClientError} : told = .error e → Ends (.error e) []
  | found {pool : Pool} : told = .ok (some pool) → Ends (.ok true) []
  | refused {e : ClientError} : told = .ok none →
      (wallet.submit (amm.createPool token.address) w).1 = .error e → Ends (.error e) []
  | signedOut : Opened amm token told wallet w none →
      Ends (.error .notSignedIn) [amm.createPool token.address]
  | malformed {account : String} {e : AmountError} :
      Opened amm token told wallet w (some account) →
      poolAmounts near mostTokens leastShares = .error e →
      Ends (.error (.amount e)) [amm.createPool token.address]
  | unfilled {account : String} {a b c : Amount} {e : ClientError} :
      Opened amm token told wallet w (some account) →
      poolAmounts near mostTokens leastShares = .ok (a, b, c) →
      (wallet.submit (amm.addLiquidity token.address a b c)
        (wallet.submit (amm.createPool token.address) w).2).1 = .error e →
      Ends (.error e) [amm.createPool token.address]
  | filled {account : String} {a b c : Amount} :
      Opened amm token told wallet w (some account) →
      poolAmounts near mostTokens leastShares = .ok (a, b, c) →
      (wallet.submit (amm.addLiquidity token.address a b c)
        (wallet.submit (amm.createPool token.address) w).2).1 = .ok () →
      Ends (.ok false) [amm.createPool token.address, amm.addLiquidity token.address a b c]

end Ends

/-- Whoever is signed in asks the chain for the pool and for nothing else, and the creation ends in
one of the ways there are. -/
theorem ends_createPool (token : Token) (near mostTokens leastShares : String) {account : String}
    (h : session.account = some account) (s : σ) (w : ω) :
    let outcome := (session.createPool token near mostTokens leastShares).run chain wallet s w
    outcome.queries = [.view (session.amm.poolInfo token.address)] ∧
      Ends session.amm token near mostTokens leastShares
        ((session.poolInfo token.address).run chain wallet s w).result wallet w outcome.result
        outcome.submitted := by
  -- Each step of the run is told by the reply that it gets, and a refusal ends it there.
  rcases hview : chain.view (session.amm.poolInfo token.address) s with ⟨reply, s'⟩
  dsimp only
  rw [createPool_eq, run_signedIn_bind, h]
  dsimp only
  rw [Dialog.run_bind, run_poolInfo chain wallet hview w]
  cases hread : reply.bind (readPool "pool_info") with
  | error e => exact ⟨rfl, .unread rfl⟩
  | ok told =>
    rw [Outcome.andThen_ok]
    cases told with
    | some pool => exact ⟨rfl, .found rfl⟩
    | none =>
      rcases hopen : wallet.submit (session.amm.createPool token.address) w with ⟨answer, w'⟩
      rw [run_afterPool_none chain wallet hopen]
      cases answer with
      | error e => exact ⟨rfl, .refused rfl (by rw [hopen])⟩
      | ok =>
        have hopened : Opened session.amm token (.ok none) wallet w (wallet.account w') :=
          ⟨rfl, by rw [hopen], by rw [hopen]⟩
        rw [Outcome.andThen_ok]
        cases hstays : wallet.account w' with
        | none =>
          rw [hstays] at hopened
          exact ⟨rfl, .signedOut hopened⟩
        | some other =>
          rw [hstays] at hopened
          rw [run_addLiquidity chain wallet rfl]
          cases hamounts : poolAmounts near mostTokens leastShares with
          | error e => exact ⟨rfl, .malformed hopened hamounts⟩
          | ok amounts =>
            obtain ⟨a, b, c⟩ := amounts
            rcases hfill : wallet.submit (session.amm.addLiquidity token.address a b c) w' with
              ⟨answer, w''⟩
            dsimp only
            rw [run_send chain wallet hfill]
            cases answer with
            | error e => exact ⟨rfl, .unfilled hopened hamounts (by rw [hopen, hfill])⟩
            | ok => exact ⟨rfl, .filled hopened hamounts (by rw [hopen, hfill])⟩

/-! ## Amounts that are read too late -/

/-- The account is signed in, there is no pool of the token yet, and the wallet accepts the call
that creates it and does not sign out with that. -/
structure Opens (session : Session) (token : Token) (chain : Chain σ) (wallet : Wallet ω) (s : σ)
    (w : ω) : Prop where
  signedIn : session.account.isSome
  absent : ((session.poolInfo token.address).run chain wallet s w).result = .ok none
  accepted : (wallet.submit (session.amm.createPool token.address) w).1 = .ok ()
  stays : (wallet.account (wallet.submit (session.amm.createPool token.address) w).2).isSome

variable {chain wallet}

private theorem opens_iff {account : String} (h : session.account = some account) {s : σ} {w : ω} :
    session.Opens token chain wallet s w ↔ ∃ other, Opened session.amm token
      ((session.poolInfo token.address).run chain wallet s w).result wallet w (some other) := by
  constructor
  · rintro ⟨-, habsent, haccepted, hstays⟩
    obtain ⟨other, hother⟩ := Option.isSome_iff_exists.mp hstays
    exact ⟨other, habsent, haccepted, hother⟩
  · rintro ⟨other, habsent, haccepted, hother⟩
    exact ⟨by rw [h]; rfl, habsent, haccepted, by rw [hother]; rfl⟩

private theorem submitted_createPool_of_not_opens {s : σ} {w : ω} {e : AmountError}
    (h : ¬ session.Opens token chain wallet s w)
    (he : ((session.createPool token near mostTokens leastShares).run chain wallet s w).result =
      .error (.amount e)) :
    ((session.createPool token near mostTokens leastShares).run chain wallet s w).submitted =
      [] := by
  cases hsigned : session.account with
  | none =>
    rw [createPool_eq, run_signedIn_bind, hsigned]
    rfl
  | some account =>
    rw [opens_iff hsigned, not_exists] at h
    obtain ⟨-, hends⟩ :=
      ends_createPool chain wallet token near mostTokens leastShares hsigned s w
    rw [he] at hends
    generalize ((session.createPool token near mostTokens leastShares).run chain wallet s
      w).submitted = calls at hends
    cases hends with
    | unread | refused => rfl
    | malformed hopened | unfilled hopened => exact absurd hopened (h _)

/-- Once the pool is opened, the amounts and the reply to the second call settle the rest. -/
theorem Ends.of_opened {amm : Amm} {told : Except ClientError (Option Pool)} {w : ω}
    {result : Except ClientError Bool} {calls : List FunctionCall} {account : String}
    (h : Ends amm token near mostTokens leastShares told wallet w result calls)
    (hopened : Opened amm token told wallet w (some account)) :
    (∀ e, poolAmounts near mostTokens leastShares = .error e →
      result = .error (.amount e) ∧ calls = [amm.createPool token.address]) ∧
    ∀ a b c, poolAmounts near mostTokens leastShares = .ok (a, b, c) →
      (wallet.submit (amm.addLiquidity token.address a b c)
        (wallet.submit (amm.createPool token.address) w).2).1 = .ok () →
      result = .ok false ∧
        calls = [amm.createPool token.address, amm.addLiquidity token.address a b c] := by
  obtain ⟨habsent, haccepted, haccount⟩ := hopened
  cases h with
  | unread htold | found htold =>
    rw [habsent] at htold
    cases htold
  | refused _ hrefused =>
    rw [haccepted] at hrefused
    contradiction
  | signedOut hout =>
    rw [hout.account] at haccount
    contradiction
  | malformed _ hmalformed =>
    rw [hmalformed]
    refine ⟨?_, nofun⟩
    rintro e ⟨⟩
    exact ⟨rfl, rfl⟩
  | unfilled _ hamounts hrefused =>
    rw [hamounts]
    refine ⟨nofun, ?_⟩
    rintro a b c ⟨⟩ hfilled
    rw [hfilled] at hrefused
    contradiction
  | filled _ hamounts =>
    rw [hamounts]
    refine ⟨nofun, ?_⟩
    rintro a b c ⟨⟩ -
    exact ⟨rfl, rfl⟩

private theorem createPool_refused {s : σ} {w : ω} {e : AmountError}
    (h : session.Opens token chain wallet s w)
    (he : poolAmounts near mostTokens leastShares = .error e) :
    ((session.createPool token near mostTokens leastShares).run chain wallet s w).result =
        .error (.amount e) ∧
      ((session.createPool token near mostTokens leastShares).run chain wallet s w).submitted =
        [session.amm.createPool token.address] := by
  obtain ⟨account, hsigned⟩ := Option.isSome_iff_exists.mp h.signedIn
  obtain ⟨other, hopened⟩ := (opens_iff hsigned).mp h
  obtain ⟨-, hends⟩ := ends_createPool chain wallet token near mostTokens leastShares hsigned s w
  exact (hends.of_opened hopened).1 e he

/-- When nothing is sent before the amounts are read. A text that is no amount is refused with
nothing sent exactly if the account is not signed in, the chain has the pool or does not tell, or
the wallet refuses to create it or signs out with that. Otherwise the pool is always created, and it
stays empty. -/
theorem createPool_validates_exactly (session : Session) (token : Token)
    (near mostTokens leastShares : String) (chain : Chain σ) (wallet : Wallet ω) (s : σ) (w : ω) :
    let outcome := (session.createPool token near mostTokens leastShares).run chain wallet s w
    ((Malformed near mostTokens leastShares →
        ∀ e, outcome.result = .error (.amount e) → outcome.submitted = []) ↔
      ¬ (session.Opens token chain wallet s w ∧ Malformed near mostTokens leastShares)) ∧
    (session.Opens token chain wallet s w →
      ∀ e, poolAmounts near mostTokens leastShares = .error e →
        outcome.result = .error (.amount e) ∧
          outcome.submitted = [session.amm.createPool token.address]) := by
  refine ⟨⟨?_, ?_⟩, fun hopen e he => createPool_refused hopen he⟩
  · rintro hfirst ⟨hopen, hbad⟩
    obtain ⟨e, he⟩ := malformed_iff.mp hbad
    obtain ⟨hresult, hsubmitted⟩ := createPool_refused hopen he
    rw [hfirst hbad e hresult] at hsubmitted
    contradiction
  · intro hnot hbad e he
    exact submitted_createPool_of_not_opens (fun hopen => hnot ⟨hopen, hbad⟩) he

/-- An amount with a comma is refused with the call that creates the pool accepted. -/
theorem createPool_halfDone :
    let session : Session := ⟨⟨"amm.testnet"⟩, some "alice.testnet"⟩
    let outcome := (session.createPool ⟨"DAI", .nep21, "dai.testnet"⟩ "1,5" "1" "0").run
      Script.chain (Script.wallet session.account) [.value .null] none
    Malformed "1,5" "1" "0" ∧ (∃ e, outcome.result = .error (.amount e)) ∧
      outcome.submitted = [session.amm.createPool "dai.testnet"] :=
  ⟨⟨"1,5", by simp, _, rfl⟩, ⟨_, rfl⟩, rfl⟩

end SwapDesk.Session
