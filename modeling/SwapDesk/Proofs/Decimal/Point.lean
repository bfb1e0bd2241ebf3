import SwapDesk.Proofs.Decimal.Number

/-!
# Texts with a point, by their numbers

A text in whole tokens shows the quotient and the remainder of the count of units by a whole
token, or the first digits of this remainder. The zeros in front of the count make no difference.
-/

namespace SwapDesk.Decimal

/-- All places of the fraction of a count of units. -/
def fractionText (n : Nat) : List Char := padLeft places (digits (n % 10 ^ places))

theorem length_fractionText (n : Nat) : (fractionText n).length = places := by
  have hlt : n % 10 ^ places < 10 ^ places := Nat.mod_lt _ (Nat.pow_pos (by decide))
  have hle := (Nat.length_toDigits_le_iff (by decide) (by decide)).mpr hlt
  rw [fractionText, length_padLeft, digits]
  omega

theorem isDigits_fractionText (n : Nat) : IsDigits (fractionText n) := by
  simp [fractionText, isDigits_digits]

@[simp]
theorem value_fractionText (n : Nat) : value (fractionText n) = n % 10 ^ places := by
  simp [fractionText]

private theorem split_value {y : List Char} (hy : IsDigits y) (hl : places ≤ y.length) :
    canonical (y.take (y.length - places)) = digits (value y / 10 ^ places) ∧
      y.drop (y.length - places) = fractionText (value y) := by
  have hlen : y.length - (y.length - places) = places := Nat.sub_sub_self hl
  constructor
  · rw [canonical_eq_digits (hy.sublist (List.take_sublist ..)), value_take hy, hlen]
  · apply eq_of_value_eq (hy.sublist (List.drop_sublist ..)) (isDigits_fractionText _)
    · rw [List.length_drop, hlen, length_fractionText]
    · rw [value_fractionText, value_drop hy, hlen]

/-! ## The digits that are shown -/

/-- A point and a fraction, or nothing when the fraction is empty. -/
def afterPoint (fraction : List Char) : List Char :=
  if fraction = [] then [] else '.' :: fraction

theorem denotes_afterPoint {a b : List Char} (ha : IsDigits a) (hb : IsDigits b) :
    Denotes (a ++ afterPoint b) (value a + value b / 10 ^ b.length) := by
  rw [afterPoint]
  split
  · next hnil =>
    have h := Denotes.whole ha
    simpa [hnil] using h
  · exact .pointed ha hb

theorem Precision.fractionDigits_le (precision : Precision) :
    precision.fractionDigits ≤ places := by
  cases precision with
  | full => exact Nat.le_refl _
  | truncated n => exact Nat.min_le_right ..

/-- The digits of the fraction that are shown. -/
def shownFraction (precision : Precision) (n : Nat) : List Char :=
  (fractionText n).take precision.fractionDigits

theorem isDigits_shownFraction (precision : Precision) (n : Nat) :
    IsDigits (shownFraction precision n) :=
  (isDigits_fractionText n).sublist (List.take_sublist ..)

theorem length_shownFraction (precision : Precision) (n : Nat) :
    (shownFraction precision n).length = precision.fractionDigits := by
  rw [shownFraction, List.length_take, length_fractionText]
  exact Nat.min_eq_left precision.fractionDigits_le

private theorem shownFraction_full (n : Nat) : shownFraction .full n = fractionText n :=
  List.take_of_length_le (length_fractionText n).le

private theorem value_digits_fractionText (n : Nat) :
    value (digits (n / 10 ^ places) ++ fractionText n) = n := by
  rw [value_append, value_digits, value_fractionText, length_fractionText, Nat.div_add_mod']

private theorem value_digits_shownFraction (precision : Precision) (n : Nat) :
    value (digits (n / 10 ^ places) ++ shownFraction precision n) =
      n / 10 ^ (places - precision.fractionDigits) := by
  have hall : IsDigits (digits (n / 10 ^ places) ++ fractionText n) := by
    simp [isDigits_digits, isDigits_fractionText]
  have h := value_take hall ((digits (n / 10 ^ places)).length + precision.fractionDigits)
  rwa [List.take_length_add_append, value_digits_fractionText, List.length_append,
    length_fractionText, Nat.add_sub_add_left] at h

theorem pointed_eq {y : List Char} (hy : IsDigits y) (precision : Precision) :
    pointed precision y =
      digits (value y / 10 ^ places) ++ afterPoint (shownFraction precision (value y)) := by
  have hl : places ≤ (padLeft (places + 1) y).length := by
    rw [length_padLeft]
    omega
  obtain ⟨hw, hf⟩ := split_value ((isDigits_padLeft (places + 1) y).mpr hy) hl
  have hlength := length_shownFraction precision (value y)
  rw [value_padLeft] at hw hf
  rw [shownFraction] at hlength ⊢
  simp only [pointed, hw, hf]
  cases hk : precision.fractionDigits with
  | zero => simp [afterPoint]
  | succ n =>
    rw [hk] at hlength
    rw [afterPoint, if_neg (List.ne_nil_of_length_eq_add_one hlength)]

theorem denotes_pointed {y : List Char} (hy : IsDigits y) (precision : Precision) :
    Denotes (pointed precision y)
      ((value y / 10 ^ (places - precision.fractionDigits) : Nat) /
        10 ^ precision.fractionDigits) := by
  have h := denotes_afterPoint (isDigits_digits (value y / 10 ^ places))
    (isDigits_shownFraction precision (value y))
  rw [value_add_div, value_digits_shownFraction, length_shownFraction] at h
  rwa [pointed_eq hy]

/-! ## All places -/

theorem pointed_full {y : List Char} (hy : IsDigits y) :
    pointed .full y = digits (value y / 10 ^ places) ++ '.' :: fractionText (value y) := by
  have hne : fractionText (value y) ≠ [] :=
    List.ne_nil_of_length_eq_add_one (length_fractionText (value y))
  rw [pointed_eq hy, shownFraction_full, afterPoint, if_neg hne]

theorem denotes_pointed_full {y : List Char} (hy : IsDigits y) :
    Denotes (pointed .full y) (value y / 10 ^ places) := by
  have h := denotes_pointed hy .full
  rwa [Precision.fractionDigits, Nat.sub_self, Nat.pow_zero, Nat.div_one] at h

end SwapDesk.Decimal
