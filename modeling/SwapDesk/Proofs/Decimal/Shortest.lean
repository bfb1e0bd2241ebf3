import SwapDesk.Proofs.Decimal.Point

/-!
# Shortest texts

The shortest text of a count of units shows the quotient by a whole token and, after a point, the
remainder without the zeros at its end. It writes the number that the text with all places writes.
-/

namespace SwapDesk.Decimal

/-! ## Zeros around a point -/

private theorem dropZeros_append_point (a b : List Char) :
    dropZeros (a ++ '.' :: b) = dropZeros a ++ '.' :: b := by
  induction a with
  | nil => rfl
  | cons c a ih =>
    by_cases hc : c = '0'
    · subst hc
      exact ih
    · have hc : (c == '0') = false := by simpa using hc
      simp [dropZeros, hc]

theorem trimZeros_append_point (a b : List Char) :
    trimZeros (a ++ '.' :: b) =
      if dropZeros a = [] ∧ Text.dropEndWhile (· == '0') b = [] then ['0']
      else dropZeros a ++ '.' :: Text.dropEndWhile (· == '0') b := by
  have hpoint : (a ++ '.' :: b).contains '.' = true := by simp
  rw [trimZeros, hpoint, dropZeros_append_point]
  simp only [if_true, Text.dropEndWhile_append_cons (p := (· == '0')) (c := '.') rfl]
  cases dropZeros a <;> simp

theorem dropZeros_digits {n : Nat} (h : n ≠ 0) : dropZeros (digits n) = digits n := by
  have hd := digits_value_eq_dropZeros (isDigits_digits n) (by rwa [value_digits])
  rw [value_digits] at hd
  exact hd.symm

/-! ## The shortest text -/

/-- The fraction of a count of units without the zeros at its end. -/
def shortFraction (n : Nat) : List Char := Text.dropEndWhile (· == '0') (fractionText n)

theorem fractionText_eq_shortFraction (n : Nat) :
    ∃ k, fractionText n = shortFraction n ++ List.replicate k '0' :=
  Text.dropEndWhile_zeros (fractionText n)

theorem isDigits_shortFraction (n : Nat) : IsDigits (shortFraction n) := by
  obtain ⟨k, hk⟩ := fractionText_eq_shortFraction n
  have hd := isDigits_fractionText n
  rw [hk, isDigits_append] at hd
  exact hd.1

private theorem headed_eq (n : Nat) (b : List Char) :
    (if (dropZeros (digits n) ++ '.' :: b).head? = some '.' then
        '0' :: (dropZeros (digits n) ++ '.' :: b)
      else dropZeros (digits n) ++ '.' :: b) = digits n ++ '.' :: b := by
  by_cases hn : n = 0
  · subst hn
    rfl
  · obtain ⟨c, rest, hc⟩ := List.exists_cons_of_ne_nil (Nat.toDigits_ne_nil (b := 10) (n := n))
    have hdigit : c.isDigit := isDigits_digits n c (by rw [digits, hc]; simp)
    have hpoint : c ≠ '.' := by
      rintro rfl
      exact absurd hdigit (by decide)
    rw [dropZeros_digits hn, digits, hc]
    simp [hpoint]

private theorem getLast?_append_point (a : List Char) {b : List Char} (hb : IsDigits b)
    (hne : b ≠ []) : (a ++ '.' :: b).getLast? ≠ some '.' := by
  rw [List.append_cons, List.getLast?_append_of_ne_nil _ hne]
  intro h
  have hpoint := hb _ (List.mem_of_getLast? h)
  exact absurd hpoint (by decide)

theorem shortest_eq {y : List Char} (hy : IsDigits y) :
    shortest y = digits (value y / 10 ^ places) ++ afterPoint (shortFraction (value y)) := by
  have hd := isDigits_shortFraction (value y)
  rw [shortest, pointed_full hy, trimZeros_append_point, ← shortFraction, afterPoint]
  generalize shortFraction (value y) = f at hd ⊢
  generalize value y / 10 ^ places = w
  by_cases hzero : dropZeros (digits w) = [] ∧ f = []
  · have hw := (dropZeros_eq_nil_iff (isDigits_digits w)).mp hzero.1
    rw [value_digits] at hw
    rw [if_pos hzero, hw, hzero.2]
    rfl
  · rw [if_neg hzero, headed_eq]
    by_cases hf : f = []
    · subst hf
      simp
    · rw [if_neg (getLast?_append_point _ hd hf), if_neg hf]

theorem denotes_shortest {y : List Char} (hy : IsDigits y) :
    Denotes (shortest y) (value y / 10 ^ places) := by
  have hwhole := isDigits_digits (value y / 10 ^ places)
  have hfull := denotes_pointed_full hy
  obtain ⟨k, hk⟩ := fractionText_eq_shortFraction (value y)
  rw [pointed_full hy] at hfull
  have hnumber := hfull.unique (.pointed hwhole (isDigits_fractionText _))
  -- The zeros at the end count for nothing.
  have hzeros := value_div_append_zeros [] (shortFraction (value y)) k
  rw [← hk, List.nil_append, List.nil_append] at hzeros
  rw [shortest_eq hy, hnumber, hzeros]
  exact denotes_afterPoint hwhole (isDigits_shortFraction _)

end SwapDesk.Decimal
