import SwapDesk.Proofs.Amount.Scale
import SwapDesk.Proofs.Decimal.Shortest

/-!
# Units and whole tokens

Counts of units can be shown in whole tokens and scaled back, and texts in whole tokens can be
scaled and shown again. In both directions the number stays the same.
-/

namespace SwapDesk.Decimal

theorem scale_pointed_full {y : List Char} (hy : IsDigits y) :
    scale (pointed .full y) = .ok (unitsText (value y)) := by
  have h := denotes_pointed_full hy
  rw [scale_eq_ok_iff, h.trim]
  refine ⟨_, h, value y, ?_, rfl⟩
  exact div_mul_cancel₀ _ (pow_ne_zero _ (by norm_num))

/-- Showing units and scaling lose and invent nothing. Units shown with all places scale back to
the same count, which does not depend on the zeros in front of them. A text that scales is shown
with all places, without needless zeros before the point, and writes the same number as before. -/
theorem scale_pointed_inverse (y h : List Char) :
    (IsDigits y →
      (∃ units, scale (pointed .full y) = .ok units ∧ canonical units = canonical y) ∧
        pointed .full y = pointed .full (canonical y)) ∧
    ∀ units, scale h = .ok units →
      ∃ whole fraction q, pointed .full units = whole ++ '.' :: fraction ∧
        IsCanonical whole ∧ IsDigits fraction ∧ fraction.length = places ∧
        Denotes (Text.trim h) q ∧ Denotes (pointed .full units) q := by
  constructor
  · intro hy
    refine ⟨⟨_, scale_pointed_full hy, ?_⟩, ?_⟩
    · rw [canonical_eq_digits (isDigits_unitsText _), value_unitsText, canonical_eq_digits hy]
    · rw [canonical_eq_digits hy, pointed_full hy, pointed_full (isDigits_digits _), value_digits]
  · intro units hu
    obtain ⟨q, hq, n, hn, rfl⟩ := (scale_eq_ok_iff h units).mp hu
    have hd := isDigits_unitsText n
    refine ⟨_, _, q, pointed_full hd, isCanonical_digits _, isDigits_fractionText _,
      length_fractionText _, hq, ?_⟩
    have hp := denotes_pointed_full hd
    rw [value_unitsText, ← hn, mul_div_cancel_right₀ _ (pow_ne_zero _ (by norm_num))] at hp
    exact hp

/-- Seven units with zeros in front of them, and one and a half tokens between blanks. -/
theorem scale_pointed_inverse_padded :
    IsDigits ['0', '0', '7'] ∧
    scale [' ', '0', '1', '.', '5', ' '] = .ok ('1' :: '5' :: List.replicate 23 '0') ∧
    (∃ units, scale (pointed .full ['0', '0', '7']) = .ok units ∧ canonical units = ['7']) ∧
    pointed .full ['0', '0', '7'] = pointed .full ['7'] ∧
    ∃ whole fraction q, pointed .full ('1' :: '5' :: List.replicate 23 '0') =
        whole ++ '.' :: fraction ∧
      IsCanonical whole ∧ IsDigits fraction ∧ fraction.length = places ∧
      Denotes ['0', '1', '.', '5'] q ∧
      Denotes (pointed .full ('1' :: '5' :: List.replicate 23 '0')) q := by
  have hy : IsDigits ['0', '0', '7'] := by decide
  have hh : scale [' ', '0', '1', '.', '5', ' '] = .ok ('1' :: '5' :: List.replicate 23 '0') := rfl
  obtain ⟨shown, scaled⟩ :=
    scale_pointed_inverse ['0', '0', '7'] [' ', '0', '1', '.', '5', ' ']
  exact ⟨hy, hh, (shown hy).1, (shown hy).2, scaled _ hh⟩

end SwapDesk.Decimal

/-! ## Shortest texts -/

namespace SwapDesk.Amount

private theorem writes_display (a : Amount) : Writes a.display a := by
  have h := Decimal.denotes_shortest (Decimal.isDigits_digits a.units)
  rw [Decimal.value_digits] at h
  refine ⟨a.units / 10 ^ Decimal.places, ?_, div_mul_cancel₀ _ (pow_ne_zero _ (by norm_num))⟩
  rw [display, String.toList_ofList, digits, h.trim]
  exact h

theorem ofHuman_display (a : Amount) : ofHuman a.display = .ok a :=
  ofHuman_eq_ok_iff.mpr a.writes_display

end SwapDesk.Amount
