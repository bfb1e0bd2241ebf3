import Mathlib.Algebra.Order.Field.Rat
import Mathlib.Tactic.FieldSimp
import Mathlib.Tactic.Ring
import SwapDesk.Amount.Scale
import SwapDesk.Proofs.Decimal.Digits
import SwapDesk.Proofs.Text.Blank

/-!
# The number a decimal text writes

Digits with at most one point among them write a rational number. The number is fixed by the
text, and zeros at the end of the fraction do not change it.
-/

namespace SwapDesk.Decimal

/-- The text is digits, which a point and more digits may follow, and it writes the number.
Either run of digits may be empty, and an empty one counts as zero. -/
inductive Denotes : List Char → ℚ → Prop
  | whole {a : List Char} : IsDigits a → Denotes a (value a)
  | pointed {a b : List Char} : IsDigits a → IsDigits b →
      Denotes (a ++ '.' :: b) (value a + value b / 10 ^ b.length)

theorem IsDigits.ne_point {a : List Char} (ha : IsDigits a) : ∀ c ∈ a, (c != '.') = true := by
  intro c hc
  have hd := ha c hc
  by_contra he
  have he : c = '.' := by simpa using he
  subst he
  exact absurd hd (by decide)

theorem parts_digits {a : List Char} (ha : IsDigits a) :
    wholePart a = a ∧ decimals a = [] := by
  constructor
  · exact List.takeWhile_eq_self_iff.mpr ha.ne_point
  · rw [decimals, List.dropWhile_eq_nil_iff.mpr ha.ne_point, List.drop_nil]

theorem parts_point {a : List Char} (b : List Char) (ha : IsDigits a) :
    wholePart (a ++ '.' :: b) = a ∧ decimals (a ++ '.' :: b) = b := by
  constructor
  · rw [wholePart, List.takeWhile_append_of_pos ha.ne_point]
    simp
  · rw [decimals, List.dropWhile_append_of_pos ha.ne_point]
    simp

theorem value_add_div (a b : List Char) :
    (value a + value b / 10 ^ b.length : ℚ) = value (a ++ b) / 10 ^ b.length := by
  rw [value_append]
  push_cast
  field_simp

theorem Denotes.of_digits {a b : List Char} {q : ℚ} {n : ℕ} (h : IsDigits (a ++ b))
    (hn : value (a ++ b) = n) (hq : q * 10 ^ b.length = n) : Denotes (a ++ '.' :: b) q := by
  obtain ⟨ha, hb⟩ := (isDigits_append a b).mp h
  have hnumber := value_add_div a b
  rw [hn, ← hq, mul_div_cancel_right₀ q (pow_ne_zero _ (by norm_num))] at hnumber
  exact hnumber ▸ .pointed ha hb

/-- Both parts of a decimal text are digits, and read as one digit string they are the number
times a power of ten. -/
theorem Denotes.parts {s : List Char} {q : ℚ} (h : Denotes s q) :
    IsDigits (wholePart s) ∧ IsDigits (decimals s) ∧
      q = value (wholePart s ++ decimals s) / 10 ^ (decimals s).length := by
  cases h with
  | whole ha =>
    obtain ⟨hw, hd⟩ := parts_digits ha
    rw [hw, hd]
    simp [ha]
  | @pointed a b ha hb =>
    obtain ⟨hw, hd⟩ := parts_point b ha
    rw [hw, hd]
    exact ⟨ha, hb, value_add_div a b⟩

theorem Denotes.unique {s : List Char} {p q : ℚ} (hp : Denotes s p) (hq : Denotes s q) : p = q :=
  hp.parts.2.2.trans hq.parts.2.2.symm

theorem denotes_cons (c : Char) (s : List Char) :
    (∃ q, Denotes (c :: s) q) ↔ (c.isDigit ∧ ∃ q, Denotes s q) ∨ (c = '.' ∧ IsDigits s) := by
  constructor
  · rintro ⟨q, h⟩
    generalize ht : c :: s = t at h
    cases h with
    | whole ha =>
      subst ht
      rw [isDigits_cons] at ha
      exact .inl ⟨ha.1, _, .whole ha.2⟩
    | @pointed a b ha hb =>
      cases a with
      | nil =>
        injection ht with hc hs
        exact .inr ⟨hc, hs ▸ hb⟩
      | cons d a =>
        injection ht with hc hs
        subst hc hs
        rw [isDigits_cons] at ha
        exact .inl ⟨ha.1, _, .pointed ha.2 hb⟩
  · rintro (⟨hc, q, h⟩ | ⟨rfl, hs⟩)
    · cases h with
      | whole ha => exact ⟨_, .whole ((isDigits_cons ..).mpr ⟨hc, ha⟩)⟩
      | @pointed a b ha hb =>
        exact ⟨_, .pointed (a := c :: a) ((isDigits_cons ..).mpr ⟨hc, ha⟩) hb⟩
    · exact ⟨_, .pointed (a := []) isDigits_nil hs⟩

private theorem digit_not_blank {c : Char} (hc : c.isDigit) : Text.isBlank c = false := by
  have hb := digit_toNat hc
  simp only [Text.isBlank]
  simp
  omega

theorem Denotes.digit_or_point {s : List Char} {q : ℚ} (h : Denotes s q) {c : Char} (hc : c ∈ s) :
    c.isDigit ∨ c = '.' := by
  cases h with
  | whole ha => exact .inl (ha c hc)
  | pointed ha hb =>
    rw [List.mem_append, List.mem_cons] at hc
    rcases hc with hc | hc | hc
    · exact .inl (ha c hc)
    · exact .inr hc
    · exact .inl (hb c hc)

theorem Denotes.trim {s : List Char} {q : ℚ} (h : Denotes s q) : Text.trim s = s := by
  apply Text.trim_of_no_blanks
  intro c hc
  rcases h.digit_or_point hc with hdigit | rfl
  · exact digit_not_blank hdigit
  · rfl

/-! ## Zeros at the end of the fraction -/

theorem decimals_eq_fractionPart (s : List Char) :
    ∃ n, decimals s = fractionPart s ++ List.replicate n '0' :=
  Text.dropEndWhile_zeros (decimals s)

theorem value_div_append_zeros (a b : List Char) (n : ℕ) :
    (value (a ++ (b ++ List.replicate n '0')) : ℚ) / 10 ^ (b ++ List.replicate n '0').length =
      value (a ++ b) / 10 ^ b.length := by
  rw [← List.append_assoc, value_append]
  simp only [value_replicate_zero, List.length_append, List.length_replicate]
  push_cast
  rw [pow_add]
  field_simp
  ring

theorem Denotes.trimmed {s : List Char} {q : ℚ} (h : Denotes s q) :
    IsDigits (fractionPart s) ∧
      q = value (wholePart s ++ fractionPart s) / 10 ^ (fractionPart s).length := by
  obtain ⟨hw, hd, hq⟩ := h.parts
  obtain ⟨n, hn⟩ := decimals_eq_fractionPart s
  rw [hn] at hd hq
  exact ⟨((isDigits_append ..).mp hd).1, hq.trans (value_div_append_zeros ..)⟩

theorem Denotes.value_mod_ten {s : List Char} {q : ℚ} (h : Denotes s q)
    (hne : fractionPart s ≠ []) : value (wholePart s ++ fractionPart s) % 10 ≠ 0 := by
  have hlast : ((fractionPart s).getLast hne == '0') = false := Text.getLast_dropEndWhile hne
  have hmod := Decimal.value_mod_ten (wholePart s ++ (fractionPart s).dropLast)
    (h.trimmed.1 _ (List.getLast_mem hne)) (by simpa using hlast)
  rwa [List.append_assoc, List.dropLast_append_getLast hne] at hmod

theorem Denotes.units {s : List Char} {q : ℚ} (h : Denotes s q) {p : Nat}
    (hp : (fractionPart s).length ≤ p) :
    q * 10 ^ p =
      (value (wholePart s ++ fractionPart s) * 10 ^ (p - (fractionPart s).length) : ℕ) := by
  obtain ⟨k, rfl⟩ := Nat.exists_eq_add_of_le hp
  rw [h.trimmed.2, Nat.add_sub_cancel_left, pow_add]
  push_cast
  field_simp

theorem Denotes.not_units {s : List Char} {q : ℚ} (h : Denotes s q) {p : Nat}
    (hp : p < (fractionPart s).length) (n : ℕ) : q * 10 ^ p ≠ n := by
  intro hn
  obtain ⟨k, hk⟩ := Nat.exists_eq_add_of_lt hp
  have hne : fractionPart s ≠ [] := by
    intro he
    simp [he] at hk
  -- The last digit of the fraction is not zero, so ten does not divide the digits.
  apply h.value_mod_ten hne
  have he : (value (wholePart s ++ fractionPart s) : ℚ) = (n * 10 ^ k * 10 : ℕ) := by
    rw [h.trimmed.2, hk, Nat.add_assoc, pow_add] at hn
    field_simp at hn
    push_cast
    rw [hn, pow_succ]
    ring
  rw [Nat.cast_inj.mp he, Nat.mul_mod_left]

end SwapDesk.Decimal
