import SwapDesk.Proofs.Form.Run

/-!
# The parts of a form

A form has a swap, a pool and a picker, and each of them ends a run as if only the actions that
concern it had been taken. What is done to the fields of the pool is never seen in the swap, and
what is done to the swap never in the pool; only the picker closes for a currency of either.
-/

namespace SwapDesk

def Leg.inPool : Leg → Bool
  | swapIn | swapOut => false
  | pool1 | pool2 => true

namespace Form

namespace Action

/-- An amount is set or a currency picked for a field of the pool. -/
def onPool : Action → Bool
  | setAmount leg _ _ | pick leg _ => leg.inPool
  | _ => false

/-- A currency is picked for any field, or the picker is opened or closed. -/
def onPicker : Action → Bool
  | pick .. | togglePicker | togglePickerFor _ => true
  | _ => false

/-- A currency is picked for a side of the swap. -/
def picksSide : Action → Bool
  | pick leg _ => !leg.inPool
  | _ => false

end Action

variable {α : Type} {view : Form → α} {counts : Action → Bool}

/-- Only some of the actions change what is seen of a form, and what an action makes of this
depends on nothing that is not seen. -/
structure Unwinds (view : Form → α) (counts : Action → Bool) : Prop where
  silent : ∀ form action, counts action = false → view (form.update action) = view form
  consistent : ∀ form other action, view form = view other →
    view (form.update action) = view (other.update action)

/-- From forms that look alike, a run and its actions that count end in forms that look alike. -/
theorem Unwinds.updates (h : Unwinds view counts) {form other : Form}
    (hseen : view form = view other) (actions : List Action) :
    view (form.updates actions) = view (other.updates (actions.filter counts)) := by
  -- On the actions, for all pairs of forms: where one is left out, only the first form moves.
  induction actions generalizing form other with
  | nil => exact hseen
  | cons action actions ih =>
    cases hcounts : counts action with
    | true =>
      rw [List.filter_cons_of_pos hcounts]
      exact ih (h.consistent form other action hseen)
    | false =>
      rw [List.filter_cons_of_neg (by simp [hcounts])]
      exact ih ((h.silent form action hcounts).trans hseen)

private theorem unwinds_pool : Unwinds Form.pool Action.onPool where
  silent form action hcounts := by
    cases action with
    | setAmount leg | pick leg =>
      cases leg with
      | swapIn | swapOut => rfl
      | pool1 | pool2 => contradiction
    | _ => rfl
  consistent form other action hseen := by
    obtain ⟨swap, pool, picker⟩ := form
    obtain ⟨swap', pool', picker'⟩ := other
    obtain rfl : pool = pool' := hseen
    cases action with
    | setAmount leg | pick leg => cases leg <;> rfl
    | _ => rfl

private theorem unwinds_swap : Unwinds Form.swap fun action => !action.onPool where
  silent form action hcounts := by
    cases action with
    | setAmount leg | pick leg =>
      cases leg with
      | swapIn | swapOut => contradiction
      | pool1 | pool2 => rfl
    | _ => contradiction
  consistent form other action hseen := by
    obtain ⟨swap, pool, picker⟩ := form
    obtain ⟨swap', pool', picker'⟩ := other
    obtain rfl : swap = swap' := hseen
    cases action with
    | setAmount leg | pick leg => cases leg <;> rfl
    | _ => rfl

private theorem unwinds_picker : Unwinds Form.picker Action.onPicker where
  silent form action hcounts := by
    cases action with
    | setAmount leg => cases leg <;> rfl
    | pick | togglePicker | togglePickerFor => contradiction
    | _ => rfl
  consistent form other action hseen := by
    obtain ⟨swap, pool, picker⟩ := form
    obtain ⟨swap', pool', picker'⟩ := other
    obtain rfl : picker = picker' := hseen
    cases action with
    | setAmount leg | pick leg => cases leg <;> rfl
    | _ => rfl

/-- The parts of a form are independent of each other, whatever form a run starts from. Its pool
ends as after the actions on the pool alone, its swap as after all the other actions alone, and
its picker as after the actions alone that pick a currency, whichever field it is for, or open or
close the picker. -/
theorem parts_independent (form : Form) (actions : List Action) :
    (form.updates actions).pool = (form.updates (actions.filter Action.onPool)).pool ∧
    (form.updates actions).swap =
      (form.updates (actions.filter fun action => !action.onPool)).swap ∧
    (form.updates actions).picker = (form.updates (actions.filter Action.onPicker)).picker :=
  ⟨unwinds_pool.updates rfl actions, unwinds_swap.updates rfl actions,
    unwinds_picker.updates rfl actions⟩

end Form

end SwapDesk
