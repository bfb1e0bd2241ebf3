import Mathlib.Algebra.Ring.Parity
import SwapDesk.Proofs.Form.Allowances

/-!
# Sides that change places

When the sides of a swap change places, each takes along its currency, its allowance and its
balance. Only the amounts that were typed are lost on the way: two changes are a clearing of the
swap, after which the mark for an approval is set anew.
-/

namespace SwapDesk

/-- The other side of the swap. A field of the pool is its own opposite. -/
def Leg.opposite : Leg → Leg
  | swapIn => swapOut
  | swapOut => swapIn
  | leg => leg

theorem Leg.opposite_involutive : Function.Involutive Leg.opposite := by
  intro leg
  cases leg <;> rfl

/-- All that a field shows but the amount that is typed in it. -/
def CurrencyField.holding (field : CurrencyField) :
    (String × Option TokenKind × UInt64 × String) × Option Amount × Option Amount :=
  (field.identity, field.allowance, field.balance)

namespace Form

variable (form : Form)

theorem holding_switchSides (leg : Leg) :
    ((form.update .switchSides).field leg).holding = (form.field leg.opposite).holding := by
  cases leg <;> rfl

/-! ## Runs -/

/-- The form after the sides have changed places so many times. -/
def switches (n : ℕ) : Form :=
  form.updates (List.replicate n .switchSides)

private theorem switches_succ (n : ℕ) :
    form.switches (n + 1) = (form.update .switchSides).switches n :=
  rfl

theorem holding_switches (n : ℕ) (leg : Leg) :
    ((form.switches n).field leg).holding = (form.field (Leg.opposite^[n] leg)).holding := by
  -- On the number of changes, for all forms: the first change is made on the form itself.
  induction n generalizing form with
  | zero => rfl
  | succ n ih =>
    rw [switches_succ, ih, holding_switchSides, Function.iterate_succ_apply']

private theorem view_switches {α : Type} (view : Form → α)
    (h : ∀ before : Form, view (before.update .switchSides) = view before) (n : ℕ) :
    view (form.switches n) = view form := by
  apply view_updates_of_silent
  intro action haction
  rw [List.eq_of_mem_replicate haction]
  exact h

/-- When the sides change places twice, the form is as after a clearing of the swap and a mark for
an approval by the kind of the input. However often they change, nothing that a side shows of its
currency is lost or mixed up: after an even number of changes every field has what it had, and
after an odd number the two sides have what the other had. The pool, the picker and the balance
noted before a swap stay as they are. -/
theorem switches_keep_holdings :
    (form.update .switchSides).update .switchSides =
        (form.update .clearSwap).update (.setApproval (form.swap.input.kind = some .nep21)) ∧
      ∀ n,
        (Even n → ∀ leg, ((form.switches n).field leg).holding = (form.field leg).holding) ∧
        (Odd n → ∀ leg,
          ((form.switches n).field leg).holding = (form.field leg.opposite).holding) ∧
        (form.switches n).pool = form.pool ∧ (form.switches n).picker = form.picker ∧
        (form.switches n).swap.previous = form.swap.previous := by
  -- Both two-step runs compute to one form, field by field.
  refine ⟨rfl, fun n => ⟨?_, ?_, ?_⟩⟩
  · intro heven leg
    rw [holding_switches, Leg.opposite_involutive.iterate_even heven, id]
  · intro hodd leg
    rw [holding_switches, Leg.opposite_involutive.iterate_odd hodd]
  · exact ⟨form.view_switches Form.pool (fun _ => rfl) n,
      form.view_switches Form.picker (fun _ => rfl) n,
      form.view_switches (fun form => form.swap.previous) (fun _ => rfl) n⟩

/-- A token with an allowance is sold for NEAR, with both amounts typed, and the sides change
places two and three times. -/
theorem switches_keep_holdings_typed :
    let dai : CurrencyField :=
      ⟨"7", "DAI", some .nep21, 3, "dai.testnet", true, some ⟨9⟩, some ⟨20⟩⟩
    let near : CurrencyField := ⟨"5", "NEAR", some .native, 0, "", true, none, some ⟨4⟩⟩
    let form : Form := ⟨⟨dai, near, none, false, .ready, some ⟨4⟩⟩, initial.pool, ⟨true, none⟩⟩
    Even 2 ∧ Odd 3 ∧ ((form.switches 2).field .swapIn).holding = dai.holding ∧
      ((form.switches 3).field .swapIn).holding = near.holding ∧
      ((form.switches 3).field .swapOut).holding = dai.holding ∧
      (form.switches 3).swap.previous = some ⟨4⟩ := by
  intro dai near form
  have heven : Even 2 := by decide
  have hodd : Odd 3 := by decide
  obtain ⟨-, hswitches⟩ := switches_keep_holdings form
  obtain ⟨hback, -⟩ := hswitches 2
  obtain ⟨-, hexchanged, -, -, hprevious⟩ := hswitches 3
  exact ⟨heven, hodd, hback heven .swapIn, hexchanged hodd .swapIn, hexchanged hodd .swapOut,
    hprevious⟩

end Form

end SwapDesk
