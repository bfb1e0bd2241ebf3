import SwapDesk.Proofs.Session.Amounts

/-!
# Purchases on the command line

A purchase goes in stages: its limit is found, the allowance is looked up, and the swap is sent. A
stage that fails ends it. What each stage finds is said without the dialog that looks for it, and
so is the call that a purchase has signed. The allowance decides on a warning and on nothing else.
-/

namespace SwapDesk

variable {σ ω : Type}

/-! ## Calls are told by what is said of them -/

private theorem Argument.is_iff {arg : Argument} {value : Json} :
    arg.Is value ↔ value = arg.json := by
  constructor
  · cases arg with
    | account name => exact id
    | amount a =>
      rintro ⟨digits, rfl, hcanonical, hvalue⟩
      have hdigits : a.digits = digits := by rw [Amount.digits, ← hvalue, hcanonical.digits_value]
      rw [Argument.json, Amount.json, Amount.text, hdigits]
  · rintro rfl
    exact arg.is_json

private theorem fields_eq {args : List (String × Argument)} {fields : List (String × Json)}
    (h : List.Forall₂ (fun arg field => field.1 = arg.1 ∧ arg.2.Is field.2) args fields) :
    fields = args.map fun arg => (arg.1, arg.2.json) := by
  induction h with
  | nil => rfl
  | cons hfield _ ih => rw [List.map_cons, ← ih, ← hfield.1, ← Argument.is_iff.mp hfield.2]

theorem FunctionCall.Invokes.unique {contract method : String} {args : List (String × Argument)}
    {deposit : Nat} {a b : FunctionCall} (ha : a.Invokes contract method args deposit)
    (hb : b.Invokes contract method args deposit) : a = b := by
  obtain ⟨_, ha', hfields⟩ := ha.args
  obtain ⟨_, hb', hfields'⟩ := hb.args
  have hargs : a.args = b.args := by rw [ha', hb', fields_eq hfields, fields_eq hfields']
  have hdeposit : a.deposit = b.deposit := by
    rw [Amount.mk.injEq, ha.deposit, hb.deposit]
  have hcontract := ha.contract.trans hb.contract.symm
  have hmethod := ha.method.trans hb.method.symm
  have hgas := ha.gas.trans hb.gas.symm
  cases a
  cases b
  rw [FunctionCall.mk.injEq]
  exact ⟨hcontract, hmethod, hargs, hgas, hdeposit⟩

theorem ViewCall.Asks.unique {amm : Amm} {method : String} {args : List (String × Argument)}
    {a b : ViewCall} (ha : a.Asks amm method args) (hb : b.Asks amm method args) : a = b := by
  obtain ⟨_, ha', hfields⟩ := ha.args
  obtain ⟨_, hb', hfields'⟩ := hb.args
  have hargs : a.args = b.args := by rw [ha', hb', fields_eq hfields, fields_eq hfields']
  have hcontract := ha.contract.trans hb.contract.symm
  have hmethod := ha.method.trans hb.method.symm
  cases a
  cases b
  rw [ViewCall.mk.injEq]
  exact ⟨hcontract, hmethod, hargs⟩

variable {amm : Amm} {source target : Token} {bought most : Amount}

private theorem FunctionCall.buys_iff {call : FunctionCall} :
    call.Buys amm source target bought most ↔
      ∃ route, Route.between source target = .ok route ∧
        call = amm.swapExactOut route bought most := by
  constructor
  · intro h
    have hbuilt : ∀ {route}, Route.between source target = .ok route →
        (amm.swapExactOut route bought most).Buys amm source target bought most :=
      fun hroute => amm.swapExactOut_buys hroute bought most
    -- Kinds without a route leave nothing that is said of the call.
    rw [Route.between]
    cases hs : source.kind <;> cases ht : target.kind <;>
      simp only [Buys, Route.between, hs, ht] at h hbuilt
    all_goals exact ⟨_, rfl, h.2.unique (hbuilt rfl).2⟩
  · rintro ⟨route, hroute, rfl⟩
    exact amm.swapExactOut_buys hroute bought most

private theorem ViewCall.pricesPurchase_iff {call : ViewCall} :
    call.PricesPurchase amm source target bought ↔
      ∃ route, Route.between source target = .ok route ∧ call = amm.priceOut route bought := by
  constructor
  · intro h
    have hbuilt : ∀ {route}, Route.between source target = .ok route →
        (amm.priceOut route bought).PricesPurchase amm source target bought :=
      fun hroute => amm.priceOut_pricesPurchase hroute bought
    rw [Route.between]
    cases hs : source.kind <;> cases ht : target.kind <;>
      simp only [PricesPurchase, Route.between, hs, ht] at h hbuilt
    all_goals exact ⟨_, rfl, h.unique (hbuilt rfl)⟩
  · rintro ⟨route, hroute, rfl⟩
    exact amm.priceOut_pricesPurchase hroute bought

/-! ## Stages -/

def Amm.allowanceView (amm : Amm) (token : Token) (owner : String) : ViewCall :=
  ⟨token.address, "get_allowance",
    .object [("escrow_account_id", .string amm.contract), ("owner_id", .string owner)]⟩

namespace Program

open Session

/-- What is asked on the way to a purchase: the price of the amount, unless a limit is given, and
the allowance on what is paid with. -/
inductive Consults (amm : Amm) (account : Option String) (source target : Token) (amount : String) :
    Option String → Request → Prop
  | price {bought : Amount} {call : ViewCall} : Amount.Writes amount bought → 0 < bought.units →
      call.PricesPurchase amm source target bought →
      Consults amm account source target amount none (.view call)
  | allowance {owner : String} (most : Option String) : source.kind = .nep21 →
      account = some owner →
      Consults amm account source target amount most (.view (amm.allowanceView source owner))

/-- The limit of a purchase as it is found on the chain in one state, which goes on in another: it
is given as a count of units, or it is nothing for nothing, or the reply to the question for the
price says it. -/
inductive FindsLimit (amm : Amm) (source target : Token) (amount : String) (chain : Chain σ) :
    Option String → σ → Amount → σ → Prop
  | given {text : String} {limit : Amount} (s : σ) : limit.Counts text →
      FindsLimit amm source target amount chain (some text) s limit s
  | nothing (s : σ) : Amount.Writes amount .zero →
      FindsLimit amm source target amount chain none s .zero s
  | quoted {bought limit : Amount} {call : ViewCall} {value : Json} {s s' : σ} :
      Amount.Writes amount bought → 0 < bought.units →
      call.PricesPurchase amm source target bought → chain.view call s = (.ok value, s') →
      value.States limit → FindsLimit amm source target amount chain none s limit s'

/-- The allowance as the chain reports it. Only a token with a contract has one. -/
inductive ReportsAllowance (amm : Amm) (account : Option String) (token : Token)
    (chain : Chain σ) : σ → Option Amount → σ → Prop
  | exempt (s : σ) : token.kind ≠ .nep21 → ReportsAllowance amm account token chain s none s
  | reported {owner : String} {allowed : Amount} {value : Json} {s s' : σ} :
      token.kind = .nep21 → account = some owner →
      chain.view (amm.allowanceView token owner) s = (.ok value, s') → value.States allowed →
      ReportsAllowance amm account token chain s (some allowed) s'

/-- The limit is found, and then the allowance is reported. -/
def Checks (amm : Amm) (account : Option String) (source target : Token) (amount : String)
    (most : Option String) (chain : Chain σ) (s : σ) (limit : Amount) (reported : Option Amount) :
    Prop :=
  ∃ s' s'', FindsLimit amm source target amount chain most s limit s' ∧
    ReportsAllowance amm account source chain s' reported s''

variable (amm : Amm) (account : Option String) (source target : Token) (amount : String)
  (most : Option String) (chain : Chain σ) (wallet : Wallet ω) (s : σ) (w : ω)

/-- Nothing but what a purchase consults has passed. -/
def Consulted (events : List Event) : Prop :=
  ∀ event ∈ events, ∃ request granted,
    event = .asked request granted ∧ Consults amm account source target amount most request

variable {amm source target amount chain s} in
private theorem findsLimit_none_iff {limit : Amount} {s' : σ} :
    FindsLimit amm source target amount chain none s limit s' ↔
      ∃ bought, Amount.ofHuman amount = .ok bought ∧
        (bought.isZero ∧ limit = .zero ∧ s = s' ∨
          bought.isZero = false ∧ ∃ route value, Route.between source target = .ok route ∧
            chain.view (amm.priceOut route bought) s = (.ok value, s') ∧ value.States limit) := by
  simp only [Amount.ofHuman_eq_ok_iff, Amount.isZero_iff, Amount.isZero_eq_false_iff]
  constructor
  · rintro (_ | ⟨_, hzero⟩ | ⟨hamount, hpos, hprice, hview, hlimit⟩)
    · exact ⟨.zero, hzero, .inl ⟨rfl, rfl, rfl⟩⟩
    · obtain ⟨route, hroute, rfl⟩ := ViewCall.pricesPurchase_iff.mp hprice
      exact ⟨_, hamount, .inr ⟨hpos, route, _, hroute, hview, hlimit⟩⟩
  · rintro ⟨bought, hamount, ⟨rfl, rfl, rfl⟩ | ⟨hpos, route, value, hroute, hview, hlimit⟩⟩
    · exact .nothing s hamount
    · exact .quoted hamount hpos (amm.priceOut_pricesPurchase hroute bought) hview hlimit

theorem run_swapLimit :
    ∃ result events s', (swapLimit ⟨amm, account⟩ source target amount most).run chain wallet s w =
        ⟨result, events, s', w⟩ ∧
      Consulted amm account source target amount most events ∧
      ∀ limit s'', FindsLimit amm source target amount chain most s limit s'' ↔
        result = .ok limit ∧ s' = s'' := by
  cases most with
  | some text =>
    refine ⟨_, _, _, Dialog.run_lift chain wallet _ s w, nofun, ?_⟩
    intro limit s''
    constructor
    · rintro ⟨_, hlimit⟩
      rw [Amount.ofText_eq_ok_iff_counts.mpr hlimit]
      exact ⟨rfl, rfl⟩
    · rintro ⟨hresult, rfl⟩
      cases hread : Amount.ofText text with
      | error e =>
        rw [hread] at hresult
        contradiction
      | ok a =>
        rw [hread] at hresult
        cases hresult
        exact .given s (Amount.ofText_eq_ok_iff_counts.mp hread)
  | none =>
    simp only [swapLimit, quoteFromOut_eq_quote, quote_eq, findsLimit_none_iff]
    cases hamount : Amount.ofHuman amount with
    | error e => exact ⟨.error (.amount e), [], s, rfl, nofun, by simp⟩
    | ok bought =>
      cases hzero : bought.isZero with
      | true =>
        simp only [hzero, if_true]
        exact ⟨.ok .zero, [], s, rfl, nofun, by simp [hzero, eq_comm (a := Amount.zero)]⟩
      | false =>
        simp only [hzero, Bool.false_eq_true, if_false]
        cases hroute : Route.between source target with
        | error e => exact ⟨.error e, [], s, rfl, nofun, by simp [hzero]⟩
        | ok route =>
          rcases hview : chain.view (amm.priceOut route bought) s with ⟨reply, s'⟩
          have hprice := amm.priceOut_pricesPurchase hroute bought
          refine ⟨_, _, s', run_viewAmount hview wallet w, ?_, ?_⟩
          · intro event hevent
            rw [List.mem_singleton.mp hevent]
            exact ⟨_, _, rfl, .price (Amount.ofHuman_eq_ok_iff.mp hamount)
              (Amount.isZero_eq_false_iff.mp hzero) hprice⟩
          · intro limit s''
            cases reply with
            | error e => simp [hzero, hview, Except.bind]
            | ok value =>
              simp [hzero, hview, Except.bind, readAmount_eq_ok_iff, and_comm]

variable {source} in
private theorem allowance_eq (h : source.kind = .nep21) :
    allowance ⟨amm, account⟩ source =
      match account with
      | some owner => viewAmount (amm.allowanceView source owner)
      | none => .fail .notSignedIn := by
  rw [allowance, signedIn_bind]
  cases account with
  | none => rfl
  | some owner =>
    simp only [Amm.getAllowance, Amm.contractOf, h]
    rfl

variable {amm account source chain s} in
private theorem reportsAllowance_iff (h : source.kind = .nep21) {reported : Option Amount}
    {s' : σ} :
    ReportsAllowance amm account source chain s reported s' ↔
      ∃ owner value allowed, account = some owner ∧
        chain.view (amm.allowanceView source owner) s = (.ok value, s') ∧
        value.States allowed ∧ reported = some allowed := by
  constructor
  · rintro (⟨_, hkind⟩ | ⟨-, howner, hview, hallowed⟩)
    · contradiction
    · exact ⟨_, _, _, howner, hview, hallowed, rfl⟩
  · rintro ⟨owner, value, allowed, howner, hview, hallowed, rfl⟩
    exact .reported h howner hview hallowed

theorem run_needsApproval (limit : Amount) :
    ∃ result events s', (needsApproval ⟨amm, account⟩ source limit).run chain wallet s w =
        ⟨result, events, s', w⟩ ∧
      Consulted amm account source target amount most events ∧
      ∀ short s'', (∃ reported, ReportsAllowance amm account source chain s reported s'' ∧
          short = reported.any (· < limit)) ↔ result = .ok short ∧ s' = s'' := by
  rw [needsApproval]
  split
  · next hkind =>
    rw [Dialog.run_bind, allowance_eq amm account hkind]
    simp only [reportsAllowance_iff hkind]
    cases account with
    | none => exact ⟨.error .notSignedIn, [], s, rfl, List.forall_mem_nil _, by simp⟩
    | some owner =>
      rcases hview : chain.view (amm.allowanceView source owner) s with ⟨reply, s'⟩
      simp only [run_viewAmount hview]
      have hconsulted : Consulted amm (some owner) source target amount most
          [.asked (.view (amm.allowanceView source owner)) reply.isOk] := by
        intro event hevent
        rw [List.mem_singleton.mp hevent]
        exact ⟨_, _, rfl, .allowance most hkind rfl⟩
      cases reply with
      | error e => exact ⟨.error e, _, s', rfl, hconsulted, by simp [hview]⟩
      | ok value =>
        simp only [Except.bind, ← readAmount_eq_ok_iff (amm.allowanceView source owner).method]
        cases hread : readAmount (amm.allowanceView source owner).method value with
        | error e => exact ⟨.error e, _, s', rfl, hconsulted, by simp [hview, hread]⟩
        | ok allowed =>
          refine ⟨.ok (decide (allowed < limit)), _, s', rfl, hconsulted, ?_⟩
          simp [hview, hread, and_comm, eq_comm]
  · next hkind =>
    refine ⟨.ok false, [], s, rfl, List.forall_mem_nil _, ?_⟩
    intro short s''
    constructor
    · rintro ⟨_, _ | ⟨hnep21, -⟩, rfl⟩
      · exact ⟨rfl, rfl⟩
      · contradiction
    · rintro ⟨hshort, rfl⟩
      cases hshort
      exact ⟨none, .exempt s hkind, rfl⟩

/-- The warning of a purchase, if what is reported of the allowance is below the limit. -/
def warning (limit : Amount) (reported : Option Amount) : List Event :=
  if reported.any (· < limit) then [.told (.approveFirst source.symbol)] else []

variable {amm account source target amount most chain s} in
/-- Once the checks are through, a purchase is the swap for the limit that was found, and a warning
may come before it. -/
theorem run_swapOut_of_checks {limit : Amount} {reported : Option Amount}
    (h : Checks amm account source target amount most chain s limit reported) :
    ∃ views s', Consulted amm account source target amount most views ∧
      (swapOut ⟨amm, account⟩ source target amount most).run chain wallet s w =
        let swap := (swapFromOut ⟨amm, account⟩ source target limit amount).run chain wallet s' w
        { swap with events := views ++ (warning source limit reported ++ swap.events) } := by
  obtain ⟨s', s'', hlimit, hreported⟩ := h
  obtain ⟨_, views, found, hrun, hviews, hfinds⟩ :=
    run_swapLimit amm account source target amount most chain wallet s w
  obtain ⟨rfl, rfl⟩ := (hfinds limit s').mp hlimit
  obtain ⟨_, views', asked, hrun', hviews', hshort⟩ :=
    run_needsApproval amm account source target amount most chain wallet found w limit
  obtain ⟨rfl, rfl⟩ := (hshort _ s'').mp ⟨reported, hreported, rfl⟩
  refine ⟨views ++ views', asked, List.forall_mem_append.mpr ⟨hviews, hviews'⟩, ?_⟩
  rw [swapOut_eq, Dialog.run_bind, hrun, Outcome.andThen_ok, swapWithin, Dialog.run_bind, hrun',
    Outcome.andThen_ok, warning]
  cases reported.any (· < limit) with
  | false => exact congrArg (Outcome.mk _ · _ _) (List.append_assoc views views' _).symm
  | true => exact congrArg (Outcome.mk _ · _ _) (List.append_assoc views views' _).symm

theorem run_swapOut_of_not_checks
    (h : ∀ limit reported,
      ¬ Checks amm account source target amount most chain s limit reported) :
    ∃ e views s', Consulted amm account source target amount most views ∧
      (swapOut ⟨amm, account⟩ source target amount most).run chain wallet s w =
        ⟨.error e, views, s', w⟩ := by
  obtain ⟨result, views, s', hrun, hviews, hfinds⟩ :=
    run_swapLimit amm account source target amount most chain wallet s w
  rw [swapOut_eq, Dialog.run_bind, hrun]
  cases result with
  | error e => exact ⟨e, views, s', hviews, rfl⟩
  | ok limit =>
    obtain ⟨result, views', s'', hrun', hviews', hshort⟩ :=
      run_needsApproval amm account source target amount most chain wallet s' w limit
    rw [Outcome.andThen_ok, swapWithin, Dialog.run_bind, hrun']
    cases result with
    | error e => exact ⟨e, _, s'', List.forall_mem_append.mpr ⟨hviews, hviews'⟩, rfl⟩
    | ok short =>
      obtain ⟨reported, hreported, -⟩ := (hshort short s'').mpr ⟨rfl, rfl⟩
      exact absurd ⟨s', s'', (hfinds limit s').mpr ⟨rfl, rfl⟩, hreported⟩ (h limit reported)

/-! ## What is signed -/

/-- Somebody is signed in, and the call buys what the text writes, which is above zero, for at most
the limit. -/
def Swaps (limit : Amount) (call : FunctionCall) : Prop :=
  account.isSome ∧ ∃ bought, Amount.Writes amount bought ∧ 0 < bought.units ∧
    call.Buys amm source target bought limit

private theorem send_injective : Function.Injective send := by
  intro a b h
  injection h with hrequest
  injection hrequest

private theorem fail_ne_send (e : ClientError) (call : FunctionCall) : .fail e ≠ send call := by
  intro h
  contradiction

variable {amm account source target amount} in
theorem swapFromOut_eq_send_iff {limit : Amount} {call : FunctionCall} :
    swapFromOut ⟨amm, account⟩ source target limit amount = send call ↔
      Swaps amm account source target amount limit call := by
  constructor
  · intro h
    obtain ⟨other, hother, hsend⟩ | ⟨e, hfail⟩ :=
      sendsOne_swapFromOut ⟨amm, account⟩ source target limit amount
    · rw [hsend] at h
      obtain rfl := send_injective h
      cases hother with
      | @buy _ _ _ _ bought _ haccount hroute hbought hpos =>
        exact ⟨haccount, bought, Amount.ofHuman_eq_ok_iff.mp hbought,
          Amount.isZero_eq_false_iff.mp hpos, amm.swapExactOut_buys hroute bought limit⟩
    · exact absurd (hfail.symm.trans h) (fail_ne_send e call)
  · rintro ⟨haccount, bought, hbought, hpos, hbuys⟩
    obtain ⟨route, hroute, rfl⟩ := FunctionCall.buys_iff.mp hbuys
    exact swapFromOut_eq_send haccount hroute (Amount.ofHuman_eq_ok_iff.mpr hbought)
      (Amount.isZero_eq_false_iff.mpr hpos) limit

private theorem swapFromOut_cases (limit : Amount) :
    (∃ call, swapFromOut ⟨amm, account⟩ source target limit amount = send call) ∨
      ∃ e, swapFromOut ⟨amm, account⟩ source target limit amount = .fail e :=
  (sendsOne_swapFromOut ⟨amm, account⟩ source target limit amount).imp_left
    fun ⟨call, _, hsend⟩ => ⟨call, hsend⟩

private theorem run_send_dryRun (call : FunctionCall) (kept : List FunctionCall) :
    (send call).run chain (DryRun.wallet account) s kept =
      ⟨.ok call, [.asked (.submit call) true], s, kept ++ [call]⟩ := rfl

variable {amm account source target amount most} in
theorem Consulted.nothing {α : Type} {views : List Event}
    (h : Consulted amm account source target amount most views) (result : Except ClientError α) :
    let outcome : Outcome σ ω α := ⟨result, views, s, w⟩
    outcome.submitted = [] ∧ outcome.notices = [] ∧
      ∀ request ∈ outcome.queries, Consults amm account source target amount most request := by
  intro outcome
  refine ⟨?_, ?_, ?_⟩
  · rw [List.eq_nil_iff_forall_not_mem]
    intro call hcall
    obtain ⟨_, _, heq, hconsults⟩ := h _ (Outcome.mem_submitted.mp hcall)
    cases heq
    cases hconsults
  · rw [List.eq_nil_iff_forall_not_mem]
    intro notice hnotice
    obtain ⟨event, hmem, hsome⟩ := List.mem_filterMap.mp hnotice
    obtain ⟨_, _, rfl, -⟩ := h _ hmem
    contradiction
  · intro request hrequest
    obtain ⟨granted, hmem⟩ := Outcome.asked_of_mem_queries hrequest
    obtain ⟨_, _, heq, hconsults⟩ := h _ hmem
    cases heq
    exact hconsults

variable {amm account source target amount} in
theorem Swaps.unique {limit : Amount} {a b : FunctionCall}
    (ha : Swaps amm account source target amount limit a)
    (hb : Swaps amm account source target amount limit b) : a = b := by
  rw [← swapFromOut_eq_send_iff] at ha hb
  exact send_injective (ha.symm.trans hb)

variable {amm account source target amount most chain s} in
private theorem swapOut_of_checks (kept : List FunctionCall) {limit : Amount}
    {reported : Option Amount}
    (h : Checks amm account source target amount most chain s limit reported) :
    let outcome :=
      (swapOut ⟨amm, account⟩ source target amount most).run chain (DryRun.wallet account) s kept
    outcome.notices =
        (if reported.any (· < limit) then [.approveFirst source.symbol] else []) ∧
      (∀ request ∈ outcome.queries, Consults amm account source target amount most request) ∧
      ((∃ call, Swaps amm account source target amount limit call ∧ outcome.submitted = [call] ∧
          outcome.wallet = kept ++ [call]) ∨
        (∀ call, ¬ Swaps amm account source target amount limit call) ∧ outcome.submitted = [] ∧
          outcome.wallet = kept) := by
  intro outcome
  obtain ⟨views, s', hviews, hrun⟩ := run_swapOut_of_checks (DryRun.wallet account) kept h
  obtain ⟨hsubmitted, hnotices, hqueries⟩ :=
    hviews.nothing s' kept (.error .notSignedIn : Except ClientError Unit)
  simp only [Outcome.submitted, Outcome.notices, Outcome.queries] at hsubmitted hnotices hqueries
  simp only [← swapFromOut_eq_send_iff, outcome, hrun, warning, Outcome.submitted,
    Outcome.notices, Outcome.queries, List.filterMap_append, hsubmitted, hnotices, List.nil_append,
    List.mem_append]
  obtain ⟨call, hsend⟩ | ⟨e, hfail⟩ := swapFromOut_cases amm account source target amount limit
  · rw [hsend, run_send_dryRun]
    refine ⟨by split <;> rfl, ?_, .inl ⟨call, rfl, by split <;> rfl, rfl⟩⟩
    rintro request (hview | hwarned | hsent)
    · exact hqueries request hview
    · split at hwarned <;> cases hwarned
    · cases hsent
  · rw [hfail]
    refine ⟨by split <;> rfl, ?_, .inr ⟨fail_ne_send e, by split <;> rfl, rfl⟩⟩
    rintro request (hview | hwarned | hsent)
    · exact hqueries request hview
    · split at hwarned <;> cases hwarned
    · cases hsent

variable {amm account source target amount most chain s} in
private theorem submitted_swapOut_iff (kept : List FunctionCall) {limit : Amount}
    {reported : Option Amount}
    (h : Checks amm account source target amount most chain s limit reported)
    (call : FunctionCall) :
    ((swapOut ⟨amm, account⟩ source target amount most).run
        chain (DryRun.wallet account) s kept).submitted = [call] ↔
      Swaps amm account source target amount limit call := by
  obtain ⟨-, -, ⟨other, hswaps, hsubmitted, -⟩ | ⟨hnone, hsubmitted, -⟩⟩ := swapOut_of_checks kept h
  · rw [hsubmitted, List.singleton_inj]
    exact ⟨fun heq => heq ▸ hswaps, fun hcall => hswaps.unique hcall⟩
  · rw [hsubmitted]
    exact ⟨nofun, fun hcall => absurd hcall (hnone call)⟩

variable {amm account source target amount most chain s} in
private theorem notices_swapOut_iff (kept : List FunctionCall) {limit : Amount}
    {reported : Option Amount}
    (h : Checks amm account source target amount most chain s limit reported) :
    ((swapOut ⟨amm, account⟩ source target amount most).run
        chain (DryRun.wallet account) s kept).notices = [.approveFirst source.symbol] ↔
      ∃ allowed, reported = some allowed ∧ allowed.units < limit.units := by
  obtain ⟨hnotices, -⟩ := swapOut_of_checks kept h
  rw [hnotices]
  cases reported with
  | none => simp
  | some allowed =>
    have hshort : allowed < limit ↔ allowed.units < limit.units := Iff.rfl
    simp [← hshort]

private theorem swapOut_of_not_checks (kept : List FunctionCall)
    (h : ∀ limit reported,
      ¬ Checks amm account source target amount most chain s limit reported) :
    let outcome :=
      (swapOut ⟨amm, account⟩ source target amount most).run chain (DryRun.wallet account) s kept
    outcome.submitted = [] ∧ outcome.wallet = kept ∧ outcome.notices = [] ∧
      ∀ request ∈ outcome.queries, Consults amm account source target amount most request := by
  intro outcome
  obtain ⟨e, views, s', hviews, hrun⟩ :=
    run_swapOut_of_not_checks amm account source target amount most chain (DryRun.wallet account) s
      kept h
  obtain ⟨hsubmitted, hnotices, hqueries⟩ :=
    hviews.nothing s' kept (.error e : Except ClientError FunctionCall)
  rw [← hrun] at hsubmitted hnotices hqueries
  exact ⟨hsubmitted, congrArg Outcome.wallet hrun, hnotices, hqueries⟩

/-- A purchase on the command line goes through three stages. Its limit is found: as it is given,
or as what the reply to the question for the price of just that amount says, or as nothing for
nothing. The allowance is reported, if what is paid with has one. Then one call is signed if
somebody is signed in, the tokens have a route and the amount is above zero, and the call buys just
that amount for at most the limit. If any of this is missing nothing is signed. Nothing else is
asked, and no price if a limit is given. A warning is told exactly if the allowance that is reported
is below the limit, and what is signed is the same whatever is reported. -/
theorem purchase_in_stages (amm : Amm) (account : Option String) (source target amount : String)
    (most : Option String) (chain : Chain σ) (s : σ) (kept : List FunctionCall) :
    let paid := Token.ofName source
    let wanted := Token.ofName target
    let checks := Checks amm account paid wanted amount most chain s
    let swaps := Swaps amm account paid wanted amount
    let outcome := (dialog ⟨amm, account⟩ (.swapOut source target amount most)).run
      chain (DryRun.wallet account) s kept
    (∀ call, outcome.submitted = [call] ↔
      ∃ limit reported, checks limit reported ∧ swaps limit call) ∧
    (outcome.submitted = [] ∨ ∃ call, outcome.submitted = [call]) ∧
    outcome.wallet = kept ++ outcome.submitted ∧
    (∀ request ∈ outcome.queries, Consults amm account paid wanted amount most request) ∧
    (outcome.notices = [.approveFirst paid.symbol] ↔
      ∃ limit allowed, checks limit (some allowed) ∧ allowed.units < limit.units) ∧
    (outcome.notices = [] ∨ outcome.notices = [.approveFirst paid.symbol]) ∧
    ∀ limit reported, checks limit reported →
      ∀ call, outcome.submitted = [call] ↔ swaps limit call := by
  intro paid wanted checks swaps outcome
  let bought :=
    (swapOut ⟨amm, account⟩ paid wanted amount most).run chain (DryRun.wallet account) s kept
  have hsubmits : ∀ limit reported, checks limit reported →
      ∀ call, bought.submitted = [call] ↔ swaps limit call :=
    fun _ _ hchecks => submitted_swapOut_iff kept hchecks
  have hrun : outcome =
      ⟨bought.result.map fun _ => .fine, bought.events, bought.chain, bought.wallet⟩ :=
    Dialog.run_map ..
  rw [hrun]
  change (∀ call, bought.submitted = [call] ↔ _) ∧
    (bought.submitted = [] ∨ ∃ call, bought.submitted = [call]) ∧
    bought.wallet = kept ++ bought.submitted ∧ (∀ request ∈ bought.queries, _) ∧
    (bought.notices = _ ↔ _) ∧
    (bought.notices = [] ∨ bought.notices = [.approveFirst paid.symbol]) ∧
    ∀ limit reported, checks limit reported → ∀ call, bought.submitted = [call] ↔ _
  by_cases hchecked : ∃ limit reported, checks limit reported
  · obtain ⟨limit, reported, hchecks⟩ := hchecked
    obtain ⟨hnotices, hqueries, hends⟩ := swapOut_of_checks kept hchecks
    refine ⟨?_, ?_, ?_, hqueries, ?_, ?_, hsubmits⟩
    · intro call
      constructor
      · exact fun hcall => ⟨limit, reported, hchecks, (hsubmits _ _ hchecks call).mp hcall⟩
      · exact fun ⟨_, _, hother, hswaps⟩ => (hsubmits _ _ hother call).mpr hswaps
    · obtain ⟨call, -, hsubmitted, -⟩ | ⟨-, hsubmitted, -⟩ := hends
      · exact .inr ⟨call, hsubmitted⟩
      · exact .inl hsubmitted
    · obtain ⟨call, -, hsubmitted, hwallet⟩ | ⟨-, hsubmitted, hwallet⟩ := hends
      · exact hwallet.trans (congrArg (kept ++ ·) hsubmitted.symm)
      · exact hwallet.trans (by rw [hsubmitted, List.append_nil])
    · constructor
      · intro htold
        obtain ⟨allowed, rfl, hshort⟩ := (notices_swapOut_iff kept hchecks).mp htold
        exact ⟨limit, allowed, hchecks, hshort⟩
      · exact fun ⟨_, allowed, hother, hshort⟩ =>
          (notices_swapOut_iff kept hother).mpr ⟨allowed, rfl, hshort⟩
    · rw [hnotices]
      split
      · exact .inr rfl
      · exact .inl rfl
  · have hnone : ∀ limit reported, ¬ checks limit reported := by simpa using hchecked
    obtain ⟨hsubmitted, hwallet, hnotices, hqueries⟩ := swapOut_of_not_checks
      amm account paid wanted amount most chain s kept hnone
    refine ⟨?_, .inl hsubmitted, ?_, hqueries, ?_, .inl hnotices, hsubmits⟩
    · intro call
      rw [hsubmitted]
      exact ⟨nofun, fun ⟨limit, reported, hchecks, _⟩ => absurd hchecks (hnone limit reported)⟩
    · rw [hsubmitted, List.append_nil]
      exact hwallet
    · rw [hnotices]
      exact ⟨nofun, fun ⟨limit, allowed, hchecks, _⟩ => absurd hchecks (hnone limit _)⟩

/-- Two NEAR are bought for at most the 500 units that they are said to cost, while the allowance
on the token is 10. -/
theorem purchase_in_stages_short :
    let amm : Amm := ⟨"amm.testnet"⟩
    let dai := Token.ofName "dai.testnet"
    let near := Token.ofName "near"
    let replies : List Script.Reply := [.value (.string "500"), .value (.string "10")]
    let call := amm.swapExactOut (.tokenToNear "dai.testnet") ⟨2 * 10 ^ 24⟩ ⟨500⟩
    let outcome := (dialog ⟨amm, some "bob.testnet"⟩ (.swapOut "dai.testnet" "near" "2" none)).run
      Script.chain (DryRun.wallet (some "bob.testnet")) replies []
    Checks amm (some "bob.testnet") dai near "2" none Script.chain replies ⟨500⟩ (some ⟨10⟩) ∧
      Swaps amm (some "bob.testnet") dai near "2" ⟨500⟩ call ∧ outcome.submitted = [call] ∧
      outcome.notices = [.approveFirst "DAI"] ∧
      .view (amm.allowanceView dai "bob.testnet") ∈ outcome.queries ∧
      Consults amm (some "bob.testnet") dai near "2" none
        (.view (amm.allowanceView dai "bob.testnet")) := by
  intro amm dai near replies call outcome
  have hamount : Amount.Writes "2" ⟨2 * 10 ^ 24⟩ := Amount.ofHuman_eq_ok_iff.mp rfl
  have hroute : Route.between dai near = .ok (.tokenToNear "dai.testnet") := rfl
  have hlimit : Amount.Counts ⟨500⟩ "500" := ⟨by decide, by decide, rfl⟩
  have hallowed : Amount.Counts ⟨10⟩ "10" := ⟨by decide, by decide, rfl⟩
  have hprice := amm.priceOut_pricesPurchase hroute ⟨2 * 10 ^ 24⟩
  have hchecks : Checks amm (some "bob.testnet") dai near "2" none Script.chain replies ⟨500⟩
      (some ⟨10⟩) :=
    ⟨_, _, .quoted hamount (by decide) hprice rfl (.text hlimit),
      .reported rfl rfl rfl (.text hallowed)⟩
  have hswaps : Swaps amm (some "bob.testnet") dai near "2" ⟨500⟩ call :=
    ⟨rfl, _, hamount, by decide, amm.swapExactOut_buys hroute _ _⟩
  have hasked : .view (amm.allowanceView dai "bob.testnet") ∈ outcome.queries := .tail _ (.head _)
  obtain ⟨-, -, -, hqueries, hnotices, -, hsubmits⟩ := purchase_in_stages amm (some "bob.testnet")
    "dai.testnet" "near" "2" none Script.chain replies []
  exact ⟨hchecks, hswaps, (hsubmits _ _ hchecks call).mpr hswaps,
    hnotices.mpr ⟨_, _, hchecks, by decide⟩, hasked, hqueries _ hasked⟩

end Program

end SwapDesk
