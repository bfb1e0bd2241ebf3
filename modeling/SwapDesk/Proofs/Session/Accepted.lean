import Mathlib.Data.List.Basic
import SwapDesk.Proofs.Session.Operation
import SwapDesk.Session.Script

/-!
# What the wallet accepts

An order gives back a call exactly if the wallet has accepted that call and no other, and a query
does not reach the wallet. So the calls that the wallet accepts in a run are those that the
operations of the run give back, in their order.
-/

namespace SwapDesk

variable {σ ω : Type}

/-- One allowed call is accepted and given back, or there is an error and nothing accepted. -/
def Outcome.AllOrNothing (allowed : FunctionCall → Prop) (outcome : Outcome σ ω FunctionCall) :
    Prop :=
  (∃ call, allowed call ∧ outcome.result = .ok call ∧ outcome.submitted = [call]) ∨
    ∃ e, outcome.result = .error e ∧ outcome.submitted = []

theorem Outcome.AllOrNothing.mono {allowed other : FunctionCall → Prop}
    {outcome : Outcome σ ω FunctionCall} (h : outcome.AllOrNothing allowed)
    (himp : ∀ call, allowed call → other call) : outcome.AllOrNothing other := by
  obtain ⟨call, hcall, hresult, hsubmitted⟩ | hnothing := h
  · exact .inl ⟨call, himp call hcall, hresult, hsubmitted⟩
  · exact .inr hnothing

namespace Session

variable {allowed : FunctionCall → Prop}

theorem SendsOne.run {dialog : Dialog FunctionCall} (h : SendsOne allowed dialog)
    (chain : Chain σ) (wallet : Wallet ω) (s : σ) (w : ω) :
    (dialog.run chain wallet s w).AllOrNothing allowed ∧
      (dialog.run chain wallet s w).queries = [] := by
  obtain ⟨call, hcall, rfl⟩ | ⟨e, rfl⟩ := h
  · rcases hsubmit : wallet.submit call w with ⟨answer, w'⟩
    rw [run_send chain wallet hsubmit]
    cases answer with
    | ok => exact ⟨.inl ⟨call, hcall, rfl, rfl⟩, rfl⟩
    | error e => exact ⟨.inr ⟨e, rfl, rfl⟩, rfl⟩
  · exact ⟨.inr ⟨e, rfl, rfl⟩, rfl⟩

theorem allOrNothing_bind {α : Type} {dialog : Dialog α} {next : α → Dialog FunctionCall}
    {chain : Chain σ} {wallet : Wallet ω} {s : σ} {w : ω}
    (hreads : dialog.Asks (Request.Sends fun _ => False))
    (hnext : ∀ a s' w', (dialog.run chain wallet s w).result = .ok a →
      ((next a).run chain wallet s' w').AllOrNothing allowed) :
    ((dialog >>= next).run chain wallet s w).AllOrNothing allowed := by
  have hnone := Dialog.submitted_of_reads hreads chain wallet s w
  rw [Dialog.run_bind]
  rcases hrun : dialog.run chain wallet s w with ⟨e | a, events, s', w'⟩
  · rw [hrun] at hnone
    exact .inr ⟨e, rfl, hnone⟩
  · rw [hrun] at hnone
    have hsubmitted := Outcome.submitted_andThen (Outcome.mk (.ok a) events s' w')
      fun a => (next a).run chain wallet
    rw [hnone, List.nil_append] at hsubmitted
    rw [Outcome.AllOrNothing, hsubmitted]
    exact hnext a s' w' (by rw [hrun])

end Session

namespace Operation

variable (chain : Chain σ) (wallet : Wallet ω)

/-- The calls that an operation accounts for. The creation of a pool gives back none of its calls
and accounts for all that the wallet has accepted. -/
def returned (operation : Operation) (outcome : Outcome σ ω Answer) : List FunctionCall :=
  match operation.role, outcome.result with
  | .creation, _ => outcome.submitted
  | .order, .ok (.call call) => [call]
  | _, _ => []

/-- An order and its outcome: a call and nothing else but this call accepted, or an error and
nothing accepted. The chain is not asked. -/
theorem order_outcome {operation : Operation} (h : operation.role = .order) (session : Session)
    (s : σ) (w : ω) :
    let outcome := (operation.dialog session).run chain wallet s w
    ((∃ call, outcome.result = .ok (.call call) ∧ outcome.submitted = [call]) ∨
      ∃ e, outcome.result = .error e ∧ outcome.submitted = []) ∧
    outcome.queries = [] := by
  obtain ⟨order, horder, hdialog⟩ := dialog_of_order h session
  obtain ⟨hends, hqueries⟩ := horder.run chain wallet s w
  dsimp only
  rw [hdialog, Dialog.run_map]
  refine ⟨?_, hqueries⟩
  obtain ⟨call, -, hresult, hsubmitted⟩ | ⟨e, hresult, hsubmitted⟩ := hends
  · dsimp only
    rw [hresult]
    exact .inl ⟨call, rfl, hsubmitted⟩
  · dsimp only
    rw [hresult]
    exact .inr ⟨e, rfl, hsubmitted⟩

private theorem not_submits_of_query {operation : Operation} (h : operation.role = .query)
    (session : Session) (s : σ) (w : ω) (call : FunctionCall) (granted : Bool) :
    .asked (.submit call) granted ∉ ((operation.dialog session).run chain wallet s w).events :=
  fun hmem => (sends_of_reads (reads_of_query h) fun _ => False).run hmem

private theorem submitted_eq_returned (operation : Operation) (session : Session) (s : σ) (w : ω) :
    ((operation.dialog session).run chain wallet s w).submitted =
      operation.returned ((operation.dialog session).run chain wallet s w) := by
  rw [returned]
  cases hrole : operation.role with
  | query =>
    exact Dialog.submitted_of_reads (sends_of_reads (reads_of_query hrole) _) chain wallet s w
  | order =>
    obtain ⟨⟨call, hresult, hsubmitted⟩ | ⟨e, hresult, hsubmitted⟩, -⟩ :=
      order_outcome chain wallet hrole session s w
    · rw [hresult, hsubmitted]
    · rw [hresult, hsubmitted]
  | creation => rfl

end Operation

namespace Turn

theorem submitted_eq_nil_iff {amm : Amm} {chain : Chain σ} {wallet : Wallet ω} {turns : List Turn}
    {s : σ} {w : ω} {played : Turn × Outcome σ ω Answer}
    (h : played ∈ runAll chain wallet amm turns s w) (hrole : played.1.operation.role = .order) :
    played.2.submitted = [] ↔ ∃ e, played.2.result = .error e := by
  obtain ⟨s', w', hrun⟩ := exists_of_mem_runAll h
  obtain ⟨hends, -⟩ :=
    Operation.order_outcome chain wallet hrole ⟨amm, played.1.account⟩ s' w'
  rw [hrun, Turn.run]
  obtain ⟨call, hresult, hsubmitted⟩ | ⟨e, hresult, hsubmitted⟩ := hends
  · rw [hresult, hsubmitted]
    exact ⟨nofun, nofun⟩
  · rw [hresult, hsubmitted]
    exact ⟨fun _ => ⟨e, rfl⟩, fun _ => rfl⟩

/-- Orders are all or nothing. An order gives back a call exactly if that call is what the wallet
has accepted, an order that fails has had nothing accepted, and no order asks the chain. A query
puts no call to the wallet. The calls accepted in a run are those that its operations account
for, one after the other. -/
theorem accepted_exactly_returned (amm : Amm) (chain : Chain σ) (wallet : Wallet ω) :
    (∀ (session : Session) (operation : Operation) (s : σ) (w : ω), operation.role = .order →
      let outcome := (operation.dialog session).run chain wallet s w
      (∀ call, outcome.result = .ok (.call call) ↔ outcome.submitted = [call]) ∧
      (∀ e, outcome.result = .error e → outcome.submitted = []) ∧ outcome.queries = []) ∧
    (∀ (session : Session) (operation : Operation) (s : σ) (w : ω), operation.role = .query →
      ∀ call granted,
        .asked (.submit call) granted ∉
          ((operation.dialog session).run chain wallet s w).events) ∧
    ∀ (turns : List Turn) (s : σ) (w : ω),
      let played := runAll chain wallet amm turns s w
      (played.flatMap fun p => p.2.submitted) =
        played.flatMap fun p => p.1.operation.returned p.2 := by
  refine ⟨?_, ?_, ?_⟩
  · intro session operation s w hrole
    obtain ⟨hends, hqueries⟩ := Operation.order_outcome chain wallet hrole session s w
    obtain ⟨call, hresult, hsubmitted⟩ | ⟨e, hresult, hsubmitted⟩ := hends
    · dsimp only
      rw [hresult, hsubmitted]
      refine ⟨fun other => ?_, nofun, hqueries⟩
      simp only [Except.ok.injEq, Answer.call.injEq, List.cons.injEq, and_true]
    · dsimp only
      rw [hresult, hsubmitted]
      exact ⟨fun _ => ⟨nofun, nofun⟩, fun _ _ => rfl, hqueries⟩
  · intro session operation s w hrole
    exact Operation.not_submits_of_query chain wallet hrole session s w
  · intro turns s w
    apply List.flatMap_congr
    intro played hplayed
    obtain ⟨s', w', hrun⟩ := exists_of_mem_runAll hplayed
    rw [hrun]
    exact Operation.submitted_eq_returned ..

/-- A sale that the wallet refuses. -/
theorem accepted_exactly_returned_refused :
    let sale : Operation := .swapFromIn .near ⟨"DAI", .nep21, "dai.testnet"⟩ "1" "2"
    let session : Session := ⟨⟨"amm.testnet"⟩, some "alice.testnet"⟩
    let outcome := (sale.dialog session).run Script.chain (Script.wallet session.account) []
      (some 0)
    sale.role = .order ∧
      outcome.result = .error (.wallet "refused swap_near_to_token_exact_in") ∧
      outcome.submitted = [] := by
  refine ⟨rfl, rfl, ?_⟩
  exact ((accepted_exactly_returned ⟨"amm.testnet"⟩ Script.chain (Script.wallet _)).1
    _ _ _ _ rfl).2.1 _ rfl

end Turn

end SwapDesk
