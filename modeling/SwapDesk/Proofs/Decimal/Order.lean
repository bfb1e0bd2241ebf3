import SwapDesk.Proofs.Decimal.Digits

/-!
# Digit strings in order

Digit strings are compared by the length of what is left without the zeros in front, and then
from the left. That is the order of the numbers they denote.
-/

namespace SwapDesk.Decimal

variable {a b : List Char}

private theorem byteLength_eq_length (ha : IsDigits a) : byteLength a = a.length := by
  induction a with
  | nil => rfl
  | cons c a ih =>
    rw [isDigits_cons] at ha
    have hc := digit_toNat ha.1
    have hsize : c.utf8Size = 1 := by
      rw [Char.utf8Size_eq_one_iff, UInt32.le_iff_toNat_le]
      exact hc.2.trans (by decide)
    rw [byteLength, List.foldr_cons, ← byteLength, ih ha.2, hsize, List.length_cons, Nat.add_comm]

theorem value_cons (c : Char) (s : List Char) :
    value (c :: s) = (c.toNat - 48) * 10 ^ s.length + value s := by
  rw [← List.singleton_append, value_append, value_singleton]

private theorem compare_digit {c d : Char} (hc : c.isDigit) (hd : d.isDigit) :
    compare c d = compare (c.toNat - 48) (d.toNat - 48) := by
  have hc := digit_toNat hc
  have hd := digit_toNat hd
  have hlt : c < d ↔ c.toNat - 48 < d.toNat - 48 := by
    change c.toNat < d.toNat ↔ _
    omega
  have heq : c = d ↔ c.toNat - 48 = d.toNat - 48 := by
    rw [← Char.toNat_inj]
    omega
  change compareOfLessAndEq c d = compareOfLessAndEq _ _
  simp only [compareOfLessAndEq, hlt, heq]

private theorem compare_place {m n r s k : Nat} (hr : r < k) (hs : s < k) :
    compare (m * k + r) (n * k + s) = (compare m n).then (compare r s) := by
  rcases Nat.lt_trichotomy m n with h | rfl | h
  · have hle : (m + 1) * k ≤ n * k := Nat.mul_le_mul_right k h
    rw [Nat.succ_mul] at hle
    rw [Nat.compare_eq_lt.mpr h, Nat.compare_eq_lt.mpr (by omega)]
    rfl
  · rw [Nat.compare_eq_eq.mpr rfl, Ordering.eq_then]
    rcases Nat.lt_trichotomy r s with h | rfl | h
    · rw [Nat.compare_eq_lt.mpr h, Nat.compare_eq_lt.mpr (by omega)]
    · rw [Nat.compare_eq_eq.mpr rfl, Nat.compare_eq_eq.mpr rfl]
    · rw [Nat.compare_eq_gt.mpr h, Nat.compare_eq_gt.mpr (by omega)]
  · have hle : (n + 1) * k ≤ m * k := Nat.mul_le_mul_right k h
    rw [Nat.succ_mul] at hle
    rw [Nat.compare_eq_gt.mpr h, Nat.compare_eq_gt.mpr (by omega)]
    rfl

/-- Digit strings of one length are in the order of their numbers. -/
theorem compare_eq_compare_value (ha : IsDigits a) (hb : IsDigits b) (hl : a.length = b.length) :
    compare a b = compare (value a) (value b) := by
  induction a generalizing b with
  | nil =>
    rw [List.length_eq_zero_iff.mp hl.symm]
    rfl
  | cons c a ih =>
    cases b with
    | nil => contradiction
    | cons d b =>
      rw [isDigits_cons] at ha hb
      rw [List.length_cons, List.length_cons, Nat.add_right_cancel_iff] at hl
      have hra := value_lt a ha.2
      have hrb := value_lt b hb.2
      rw [hl] at hra
      rw [List.compare_cons_cons, ih ha.2 hb.2 hl, compare_digit ha.1 hb.1, value_cons, value_cons,
        hl, compare_place hra hrb]

private theorem value_lt_of_length_lt (ha : IsDigits a) (hb : IsDigits b) (hh : b.head? ≠ some '0')
    (hl : a.length < b.length) : value a < value b := by
  cases b with
  | nil => contradiction
  | cons d b =>
    rw [isDigits_cons] at hb
    have hd := digit_toNat hb.1
    have hne : d.toNat ≠ 48 := fun h => hh (congrArg some (Char.toNat_inj.mp h))
    calc value a < 10 ^ a.length := value_lt a ha
      _ ≤ 10 ^ b.length := Nat.pow_le_pow_right (by decide) (Nat.le_of_lt_succ hl)
      _ ≤ (d.toNat - 48) * 10 ^ b.length := Nat.le_mul_of_pos_left _ (by omega)
      _ ≤ value (d :: b) := by rw [value_cons]; exact Nat.le_add_right ..

theorem compareDigits_eq_compare_value (ha : IsDigits a) (hb : IsDigits b) :
    compareDigits a b = compare (value a) (value b) := by
  have hda := ha.dropZeros
  have hdb := hb.dropZeros
  rw [compareDigits, byteLength_eq_length hda, byteLength_eq_length hdb, ← value_dropZeros a,
    ← value_dropZeros b]
  -- Without zeros in front a longer string is a greater number; only equal lengths need the digits.
  rcases Nat.lt_trichotomy (dropZeros a).length (dropZeros b).length with hl | hl | hl
  · have hlt := value_lt_of_length_lt hda hdb (head_dropZeros b) hl
    rw [Nat.compare_eq_lt.mpr hl, Nat.compare_eq_lt.mpr hlt]
    rfl
  · rw [Nat.compare_eq_eq.mpr hl, Ordering.eq_then, compare_eq_compare_value hda hdb hl]
  · have hlt := value_lt_of_length_lt hdb hda (head_dropZeros a) hl
    rw [Nat.compare_eq_gt.mpr hl, Nat.compare_eq_gt.mpr hlt]
    rfl

end SwapDesk.Decimal
