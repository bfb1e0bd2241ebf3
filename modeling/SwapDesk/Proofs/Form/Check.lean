import Mathlib.Tactic.SplitIfs
import SwapDesk.Form.Check

/-!
# When a swap can be submitted

The checks of a swap one by one, as conditions on its fields and on the two amounts.
-/

namespace SwapDesk.SwapForm

variable {swap : SwapForm} {signedIn : Bool} {input output : Amount}

theorem check_fst_eq_ready_iff :
    (swap.check signedIn input output).1 = .ready ↔ swap.fault? signedIn input output = none := by
  rw [check]
  cases swap.fault? signedIn input output with
  | none => exact ⟨fun _ => rfl, fun _ => rfl⟩
  | some fault => exact ⟨nofun, nofun⟩

theorem check_eq_notReady_iff {fault : SwapFault} :
    swap.check signedIn input output = (.notReady, some fault) ↔
      swap.fault? signedIn input output = some fault := by
  rw [check]
  cases swap.fault? signedIn input output with
  | none => exact ⟨nofun, nofun⟩
  | some other =>
    simp only [Prod.mk.injEq, Option.some.injEq, true_and]

/-- The balance of the input is known and below the amount. -/
def Exceeds (swap : SwapForm) (input : Amount) : Prop :=
  ∃ balance, swap.input.balance = some balance ∧ balance < input

private theorem any_balance_iff :
    (swap.input.balance.any fun balance => decide (balance < input)) = true ↔
      swap.Exceeds input := by
  simp only [Option.any_eq_true, decide_eq_true_eq, Exceeds]

theorem fault?_eq_none_iff :
    swap.fault? signedIn input output = none ↔
      swap.input.index ≠ swap.output.index ∧ signedIn ∧ ¬ swap.Exceeds input ∧
        input.isZero = false ∧ output.isZero = false := by
  rw [fault?, ← any_balance_iff]
  split_ifs <;> simp_all

theorem fault?_eq_insufficientBalance_iff :
    swap.fault? signedIn input output = some .insufficientBalance ↔
      swap.input.index ≠ swap.output.index ∧ signedIn ∧ swap.Exceeds input := by
  rw [fault?, ← any_balance_iff]
  split_ifs <;> simp_all

theorem start_eq_ok_iff {action : Form.Action} :
    swap.start = .ok action ↔
      (swap.input.isValid ∧ swap.output.isValid) ∧
        action = .setStatus .swapping none swap.output.balance := by
  rw [start, ← Bool.and_eq_true]
  split
  · next h => simp only [h, Except.ok.injEq, true_and, eq_comm]
  · next h => simp only [h, reduceCtorEq, false_and]

end SwapDesk.SwapForm
