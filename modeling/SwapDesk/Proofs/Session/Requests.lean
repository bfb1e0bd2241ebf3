import SwapDesk.Proofs.Session.Dialog

/-!
# Requests of a dialog

What a dialog may ask for, whatever it is answered. Its runs ask for nothing else, so that a
condition on all requests of a dialog holds of the calls that the wallet accepts.
-/

namespace SwapDesk

variable {σ ω α β : Type}

/-- A condition on the calls that are sent. Reading the chain is free. -/
def Request.Sends (allowed : FunctionCall → Prop) : Request → Prop
  | .submit call => allowed call
  | _ => True

namespace Outcome

theorem mem_submitted {outcome : Outcome σ ω α} {call : FunctionCall} :
    call ∈ outcome.submitted ↔ .asked (.submit call) true ∈ outcome.events := by
  rw [submitted, List.mem_filterMap]
  constructor
  · rintro ⟨event, hmem, hsome⟩
    split at hsome
    · cases hsome
      exact hmem
    · contradiction
  · exact fun hmem => ⟨_, hmem, rfl⟩

theorem asked_of_mem_queries {outcome : Outcome σ ω α} {request : Request}
    (h : request ∈ outcome.queries) : ∃ granted, .asked request granted ∈ outcome.events := by
  obtain ⟨event, hmem, hsome⟩ := List.mem_filterMap.mp h
  split at hsome
  · contradiction
  · cases hsome
    exact ⟨_, hmem⟩
  · contradiction

theorem submit_not_mem_queries (outcome : Outcome σ ω α) (call : FunctionCall) :
    .submit call ∉ outcome.queries := by
  intro hmem
  obtain ⟨event, -, hsome⟩ := List.mem_filterMap.mp hmem
  cases event with
  | told notice => contradiction
  | asked request granted => cases request <;> cases hsome

@[simp]
theorem submitted_andThen (outcome : Outcome σ ω α) (next : α → σ → ω → Outcome σ ω β) :
    (outcome.andThen next).submitted = outcome.submitted ++
      match outcome.result with
      | .ok a => (next a outcome.chain outcome.wallet).submitted
      | .error _ => [] := by
  obtain ⟨result, events, s, w⟩ := outcome
  cases result with
  | ok a => exact List.filterMap_append
  | error e => exact (List.append_nil _).symm

end Outcome

namespace Dialog

variable {allowed : Request → Prop} {dialog : Dialog α} {next : α → Dialog β}

/-- Each request that the dialog can come to is allowed. -/
def Asks (allowed : Request → Prop) : Dialog α → Prop
  | done _ => True
  | fail _ => True
  | tell _ next => next.Asks allowed
  | ask request next => allowed request ∧ ∀ reply, (next reply).Asks allowed

theorem Asks.mono (h : dialog.Asks allowed) {other : Request → Prop}
    (himp : ∀ request, allowed request → other request) : dialog.Asks other := by
  induction dialog with
  | done a => trivial
  | fail e => trivial
  | tell notice rest ih => exact ih h
  | ask request rest ih => exact ⟨himp request h.1, fun reply => ih reply (h.2 reply)⟩

theorem asks_lift (result : Except ClientError α) : (liftM result : Dialog α).Asks allowed := by
  cases result <;> trivial

theorem asks_view {call : ViewCall} (h : allowed (.view call)) : (view call).Asks allowed :=
  ⟨h, fun _ => trivial⟩

theorem asks_balance {account : String} (h : allowed (.balance account)) :
    (balance account).Asks allowed :=
  ⟨h, fun _ => trivial⟩

theorem asks_submit {call : FunctionCall} (h : allowed (.submit call)) :
    (submit call).Asks allowed :=
  ⟨h, fun _ => trivial⟩

theorem Asks.bind (h : dialog.Asks allowed) (hnext : ∀ a, (next a).Asks allowed) :
    (dialog >>= next).Asks allowed := by
  induction dialog with
  | done a => exact hnext a
  | fail e => trivial
  | tell notice rest ih => exact ih h
  | ask request rest ih => exact ⟨h.1, fun reply => ih reply (h.2 reply)⟩

theorem asks_lift_bind {result : Except ClientError α} {next : α → Dialog β}
    (h : ∀ a, result = .ok a → (next a).Asks allowed) :
    (liftM result >>= next : Dialog β).Asks allowed := by
  rw [lift_bind]
  cases hresult : result with
  | error e => trivial
  | ok a => exact h a hresult

theorem Asks.run (h : dialog.Asks allowed) {chain : Chain σ} {wallet : Wallet ω} {s : σ} {w : ω}
    {request : Request} {granted : Bool}
    (hmem : .asked request granted ∈ (dialog.run chain wallet s w).events) : allowed request := by
  induction dialog generalizing s w with
  | done a => cases hmem
  | fail e => cases hmem
  | tell notice rest ih =>
    rcases List.mem_cons.mp hmem with heq | hrest
    · cases heq
    · exact ih h hrest
  | ask asked rest ih =>
    rw [run_ask] at hmem
    split at hmem <;> rcases List.mem_cons.mp hmem with heq | hrest
    · cases heq
      exact h.1
    · exact ih _ (h.2 _) hrest
    · cases heq
      exact h.1
    · cases hrest

theorem submitted_of_asks {allowed : FunctionCall → Prop}
    (h : dialog.Asks (Request.Sends allowed)) {chain : Chain σ} {wallet : Wallet ω} {s : σ} {w : ω}
    {call : FunctionCall} (hcall : call ∈ (dialog.run chain wallet s w).submitted) :
    allowed call :=
  h.run (Outcome.mem_submitted.mp hcall)

theorem submitted_of_reads (h : dialog.Asks (Request.Sends fun _ => False)) (chain : Chain σ)
    (wallet : Wallet ω) (s : σ) (w : ω) : (dialog.run chain wallet s w).submitted = [] :=
  List.eq_nil_iff_forall_not_mem.mpr fun _ hcall => submitted_of_asks h hcall

end Dialog

end SwapDesk
