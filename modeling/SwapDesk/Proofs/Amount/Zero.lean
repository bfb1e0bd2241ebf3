import SwapDesk.Proofs.Amount.Scale

/-!
# Spellings of zero

Zero is written by zeros that may have a point among them and blanks around them, however many
there are of each, and by no other text. The empty text is one of its spellings.
-/

namespace SwapDesk

namespace Text

private theorem exists_blanks (s : List Char) : ∃ before after, s = before ++ trim s ++ after ∧
    (∀ c ∈ before, isBlank c) ∧ ∀ c ∈ after, isBlank c := by
  obtain ⟨after, hafter, hblank⟩ := dropEndWhile_append isBlank (s.dropWhile isBlank)
  refine ⟨s.takeWhile isBlank, after, ?_, fun c hc => List.mem_takeWhile_imp hc, hblank⟩
  rw [List.append_assoc, trim, ← hafter, List.takeWhile_append_dropWhile]

private theorem trim_between_blanks {before after : List Char} (hbefore : ∀ c ∈ before, isBlank c)
    (hafter : ∀ c ∈ after, isBlank c) (s : List Char) :
    trim (before ++ s ++ after) = trim s := by
  rw [List.append_assoc, trim, List.dropWhile_append_of_pos hbefore, List.dropWhile_append]
  split
  · next hempty =>
    rw [List.dropWhile_eq_nil_iff.mpr hafter, trim, List.isEmpty_iff.mp hempty]
  · rw [dropEndWhile_append_of_forall _ hafter, trim]

end Text

namespace Decimal

/-- Zeros, or a point with zeros on either side of it. -/
inductive IsZeros : List Char → Prop
  | whole (m : ℕ) : IsZeros (List.replicate m '0')
  | pointed (m n : ℕ) : IsZeros (List.replicate m '0' ++ '.' :: List.replicate n '0')

private theorem eq_zeros_of_value_eq_zero {s : List Char} (hs : IsDigits s) (h : value s = 0) :
    ∃ n, s = List.replicate n '0' := by
  obtain ⟨n, hn⟩ := zeros_dropZeros s
  rw [(dropZeros_eq_nil_iff hs).mpr h, List.append_nil] at hn
  exact ⟨n, hn⟩

theorem denotes_zero_iff {s : List Char} : Denotes s 0 ↔ IsZeros s := by
  constructor
  · generalize hq : (0 : ℚ) = q
    intro h
    cases h with
    | whole ha =>
      obtain ⟨m, rfl⟩ := eq_zeros_of_value_eq_zero ha (Nat.cast_eq_zero.mp hq.symm)
      exact .whole m
    | @pointed a b ha hb =>
      -- Read as one digit string, both runs of digits denote zero.
      rw [value_add_div, eq_comm, div_eq_zero_iff, or_iff_left (pow_ne_zero _ (by norm_num)),
        Nat.cast_eq_zero] at hq
      obtain ⟨n, hn⟩ := eq_zeros_of_value_eq_zero ((isDigits_append a b).mpr ⟨ha, hb⟩) hq
      obtain ⟨-, hza, hzb⟩ := List.append_eq_replicate_iff.mp hn
      rw [hza, hzb]
      exact .pointed a.length b.length
  · rintro (m | ⟨m, n⟩)
    · simpa using Denotes.whole (isDigits_replicate_zero m)
    · simpa using Denotes.pointed (isDigits_replicate_zero m) (isDigits_replicate_zero n)

end Decimal

namespace Amount

/-- The text is zeros, with a point or without one, between blanks. None of these need be there. -/
def SpellsZero (text : String) : Prop :=
  ∃ before zeros after, text.toList = before ++ zeros ++ after ∧
    (∀ c ∈ before, Text.isBlank c) ∧ (∀ c ∈ after, Text.isBlank c) ∧ Decimal.IsZeros zeros

theorem writes_zero_iff {text : String} : Writes text .zero ↔ SpellsZero text := by
  have hnumber : ∀ q : ℚ, q * 10 ^ Decimal.places = zero.units ↔ q = 0 := by
    intro q
    have hpos : (10 : ℚ) ^ Decimal.places ≠ 0 := pow_ne_zero _ (by norm_num)
    rw [zero, Nat.cast_zero, mul_eq_zero, or_iff_left hpos]
  simp only [Writes, hnumber, exists_eq_right, Decimal.denotes_zero_iff]
  constructor
  · intro hzeros
    obtain ⟨before, after, htext, hbefore, hafter⟩ := Text.exists_blanks text.toList
    exact ⟨before, _, after, htext, hbefore, hafter, hzeros⟩
  · rintro ⟨before, zeros, after, htext, hbefore, hafter, hzeros⟩
    rw [htext, Text.trim_between_blanks hbefore hafter,
      (Decimal.denotes_zero_iff.mpr hzeros).trim]
    exact hzeros

end Amount

end SwapDesk
