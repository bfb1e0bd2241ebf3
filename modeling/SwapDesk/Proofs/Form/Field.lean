import SwapDesk.Form.Basic

/-!
# Balances that are noted in a field

A balance that becomes known changes the balance of a field and nothing else of it.
-/

namespace SwapDesk.CurrencyField

variable (index : UInt64) (balance : Amount) (field : CurrencyField)

theorem noteBalance_eq :
    field.noteBalance index balance =
      { field with balance := if field.index = index then some balance else field.balance } := by
  rw [noteBalance]
  split <;> rfl

@[simp]
theorem noteBalance_amount : (field.noteBalance index balance).amount = field.amount := by
  rw [noteBalance_eq]

@[simp]
theorem noteBalance_isValid : (field.noteBalance index balance).isValid = field.isValid := by
  rw [noteBalance_eq]

theorem noteBalance_comm {other : UInt64} (h : index ≠ other) (later : Amount) :
    (field.noteBalance index balance).noteBalance other later =
      (field.noteBalance other later).noteBalance index balance := by
  simp only [noteBalance_eq]
  by_cases hindex : field.index = index
  · have hother : field.index ≠ other := fun hfield => h (hindex.symm.trans hfield)
    simp only [if_neg hother]
  · simp only [if_neg hindex]

end SwapDesk.CurrencyField
