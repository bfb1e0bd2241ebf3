import SwapDesk.Proofs.Form.Allowances
import SwapDesk.Proofs.Form.Parts

/-!
# The status of a swap

A swap is not ready until an action says otherwise, and it loses its status when a currency is
picked for one of its sides, when the sides change places and when the amounts are cleared. No
other action changes its currencies. So whatever a swap is said to be ready for, or busy with, is
about the two currencies that it has now.
-/

namespace SwapDesk.Form

/-- What tells the two currencies of the swap from all others. -/
def pair (form : Form) :
    (String × Option TokenKind × UInt64 × String) ×
      (String × Option TokenKind × UInt64 × String) :=
  (form.swap.input.identity, form.swap.output.identity)

namespace Action

/-- The action says that this is the status of the swap. -/
def Asserts (status : SwapStatus) : Action → Prop
  | setReady => status = .ready
  | setStatus asserted _ _ => status = asserted
  | _ => False

/-- The action changes the currencies of the swap or clears its amounts. -/
def Unsettles (action : Action) : Prop :=
  action.picksSide ∨ action = .switchSides ∨ action = .clearSwap

/-- The status that an action gives to the swap, if it gives one at all. -/
def status? : Action → Option SwapStatus
  | setReady => some .ready
  | setStatus status _ _ => some status
  | pick leg _ => if leg.inPool then none else some .notReady
  | switchSides | clearSwap => some .notReady
  | _ => none

variable {action : Action} {status : SwapStatus}

private theorem status?_eq_some_iff (h : status ≠ .notReady) :
    action.status? = some status ↔ action.Asserts status := by
  cases action with
  | setReady | setStatus => simp [status?, Asserts, eq_comm]
  | pick leg => cases leg <;> simp [status?, Asserts, Leg.inPool, h.symm]
  | _ => simp [status?, Asserts, h.symm]

private theorem status?_eq_none_iff :
    action.status? = none ↔ ¬ action.Unsettles ∧ ∀ status, ¬ action.Asserts status := by
  cases action with
  | pick leg => cases leg <;> simp [status?, Unsettles, Asserts, picksSide, Leg.inPool]
  | _ => simp [status?, Unsettles, Asserts, picksSide]

end Action

variable {action : Action} {actions : List Action} {status : SwapStatus}

theorem status_update (form : Form) (action : Action) :
    (form.update action).swap.status = action.status?.getD form.swap.status := by
  cases action with
  | setAmount leg | pick leg => cases leg <;> rfl
  | _ => rfl

private theorem Action.Asserts.not_unsettles (h : action.Asserts status) : ¬ action.Unsettles := by
  cases action with
  | setReady | setStatus => simp [Action.Unsettles, Action.picksSide]
  | _ => contradiction

private theorem status_of_unsettles (h : action.Unsettles) (form : Form) :
    (form.update action).swap.status = .notReady := by
  obtain hpick | rfl | rfl := h
  · cases action with
    | pick leg =>
      cases leg with
      | swapIn | swapOut => rfl
      | pool1 | pool2 => contradiction
    | _ => contradiction
  · rfl
  · rfl

theorem pair_update (form : Form) (h : ¬ action.Unsettles) :
    (form.update action).pair = form.pair := by
  cases action with
  | setBalance index balance => simp [pair, Form.update]
  | setAmount leg => cases leg <;> rfl
  | pick leg =>
    cases leg with
    | swapIn | swapOut => exact absurd (.inl rfl) h
    | pool1 | pool2 => rfl
  | switchSides => exact absurd (.inr (.inl rfl)) h
  | _ => rfl

/-! ## Runs -/

theorem pair_updates (form : Form) (h : ∀ action ∈ actions, ¬ action.Unsettles) :
    (form.updates actions).pair = form.pair :=
  view_updates_of_silent pair form fun action hmem before => pair_update before (h action hmem)

/-- In the run the status was said to be this one, while the swap had the currencies it has in
the end, and since then nothing has been said of the status, no currency has been picked for the
swap, its sides have not changed places and its amounts have not been cleared. -/
def Stands (actions : List Action) (status : SwapStatus) : Prop :=
  ∃ before action after, actions = before ++ action :: after ∧ action.Asserts status ∧
    (initial.updates before).pair = (initial.updates actions).pair ∧
    ∀ later ∈ after, ¬ later.Unsettles ∧ ∀ other, ¬ later.Asserts other

private theorem stands_iff (h : status ≠ .notReady) :
    Stands actions status ↔ lastSet? Action.status? actions = some status := by
  rw [lastSet?_eq_some_iff]
  constructor
  · rintro ⟨before, action, after, hrun, hasserts, -, hquiet⟩
    refine ⟨before, action, after, hrun, (Action.status?_eq_some_iff h).mpr hasserts, ?_⟩
    exact fun later hlater => Action.status?_eq_none_iff.mpr (hquiet later hlater)
  · rintro ⟨before, action, after, rfl, hset, hnone⟩
    have hasserts : action.Asserts status := (Action.status?_eq_some_iff h).mp hset
    have hquiet : ∀ later ∈ after, ¬ later.Unsettles ∧ ∀ other, ¬ later.Asserts other :=
      fun later hlater => Action.status?_eq_none_iff.mp (hnone later hlater)
    refine ⟨before, action, after, rfl, hasserts, ?_, hquiet⟩
    -- Neither the action that gives the status nor any later one touches the two currencies.
    rw [updates_append]
    apply (pair_updates _ _).symm
    rw [List.forall_mem_cons]
    exact ⟨hasserts.not_unsettles, fun later hlater => (hquiet later hlater).1⟩

/-- When a swap has a status other than that of a swap that is not ready. An action of the run has
said so, while the swap had the currencies it has now, and nothing since then has said otherwise
or unsettled the swap. An action that changes anything that tells one currency of the swap from
others leaves the swap not ready, whatever form it is taken on. -/
theorem status_stands_for_pair (actions : List Action) :
    (∀ status, status ≠ .notReady →
      ((initial.updates actions).swap.status = status ↔ Stands actions status)) ∧
    ∀ (form : Form) (action : Action), (form.update action).pair ≠ form.pair →
      (form.update action).swap.status = .notReady := by
  constructor
  · intro status h
    have hlast : (initial.updates actions).swap.status =
        (lastSet? Action.status? actions).getD .notReady :=
      view_updates (fun form => form.swap.status) initial status_update
    rw [stands_iff h, hlast]
    cases lastSet? Action.status? actions with
    | none => simp [h.symm]
    | some last => simp
  · intro form action hchanged
    by_contra hstatus
    apply hchanged
    exact pair_update form fun hunsettles => hstatus (status_of_unsettles hunsettles form)

/-- A currency is picked for the input and the swap is said to be ready; then a balance becomes
known and a currency is picked for the pool. -/
def readied : List Action :=
  [.pick .swapIn ⟨"DAI", .nep21, 3, "dai.testnet", none⟩, .setReady, .setBalance 3 ⟨5⟩,
    .pick .pool1 ⟨"NEAR", .native, 0, "", none⟩]

/-- The swap is ready for the currency picked, but not once the sides change places. -/
theorem status_stands_for_pair_readied :
    (initial.updates readied).swap.status = .ready ∧ Stands readied .ready ∧
    ((initial.updates readied).update .switchSides).pair ≠ (initial.updates readied).pair ∧
    ((initial.updates readied).update .switchSides).swap.status = .notReady := by
  have hready : (initial.updates readied).swap.status = .ready := rfl
  have hchanged : ((initial.updates readied).update .switchSides).pair ≠
      (initial.updates readied).pair := by decide
  obtain ⟨hstands, hreset⟩ := status_stands_for_pair readied
  exact ⟨hready, (hstands .ready (by decide)).mp hready, hchanged, hreset _ _ hchanged⟩

end SwapDesk.Form
