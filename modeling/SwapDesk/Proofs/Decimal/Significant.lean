import SwapDesk.Proofs.Decimal.Shortest

/-!
# Digits that count

A decimal text is told by the number it writes up to the zeros around its digits and a point with
nothing after it. Without these zeros, texts that both have a point or both have none are equal
exactly if they write one number, and taking the zeros off a second time changes no text at all.
-/

namespace SwapDesk.Decimal

variable {s t : List Char} {q : ℚ}

/-! ## Digits of a number -/

/-- With zeros up to enough places, what stands after the point is the remainder of the count of
units by a whole token, and what stands before it is the quotient. -/
private theorem Denotes.div_mod_units (h : Denotes s q) {p n : ℕ}
    (hp : (fractionPart s).length ≤ p) (hn : q * 10 ^ p = n) :
    n / 10 ^ p = value (wholePart s) ∧
      n % 10 ^ p =
        value (fractionPart s ++ List.replicate (p - (fractionPart s).length) '0') := by
  have hunits := h.units hp
  rw [hn, Nat.cast_inj] at hunits
  have hfilled := value_append (wholePart s ++ fractionPart s)
    (List.replicate (p - (fractionPart s).length) '0')
  rw [List.length_replicate, value_replicate_zero, Nat.add_zero, ← hunits,
    List.append_assoc] at hfilled
  have hdigits : IsDigits
      (fractionPart s ++ List.replicate (p - (fractionPart s).length) '0') := by
    simp [h.trimmed.1]
  have hsplit := value_append_div_mod (wholePart s) hdigits
  rwa [hfilled, List.length_append, List.length_replicate, Nat.add_sub_cancel' hp] at hsplit

/-- Texts of one number have the same digits, apart from zeros in front and at the end. -/
theorem Denotes.digits_unique (hs : Denotes s q) (ht : Denotes t q) :
    value (wholePart s) = value (wholePart t) ∧ fractionPart s = fractionPart t := by
  have hle := Nat.le_max_left (fractionPart s).length (fractionPart t).length
  have hle' := Nat.le_max_right (fractionPart s).length (fractionPart t).length
  generalize max (fractionPart s).length (fractionPart t).length = p at hle hle'
  obtain ⟨hwhole, hfraction⟩ := hs.div_mod_units hle (hs.units hle)
  obtain ⟨hwhole', hfraction'⟩ := ht.div_mod_units hle' (hs.units hle)
  refine ⟨hwhole.symm.trans hwhole', ?_⟩
  -- With zeros up to one length the fractions are equal, and neither ends in a zero of its own.
  have hfilled := eq_of_value_eq (by simp [hs.trimmed.1]) (by simp [ht.trimmed.1])
    (by simp only [List.length_append, List.length_replicate]; omega)
    (hfraction.symm.trans hfraction')
  have hkept : ∀ r n, Text.dropEndWhile (· == '0') (fractionPart r ++ List.replicate n '0') =
      fractionPart r := by
    intro r n
    rw [Text.dropEndWhile_append_of_forall _ (by simp), fractionPart,
      Text.dropEndWhile_dropEndWhile]
  rw [← hkept s, hfilled, hkept t]

private theorem dropZeros_eq_of_value_eq (hs : IsDigits s) (ht : IsDigits t)
    (h : value s = value t) :
    dropZeros s = dropZeros t := by
  by_cases hz : value s = 0
  · rw [(dropZeros_eq_nil_iff hs).mpr hz, (dropZeros_eq_nil_iff ht).mpr (h ▸ hz)]
  · rw [← digits_value_eq_dropZeros hs hz, ← digits_value_eq_dropZeros ht (h ▸ hz), h]

/-! ## Texts without needless zeros -/

theorem dropZeros_dropZeros (s : List Char) : dropZeros (dropZeros s) = dropZeros s :=
  List.dropWhile_idempotent ..

private theorem mem_of_mem_dropZeros {c : Char} (h : c ∈ dropZeros s) : c ∈ s :=
  (List.dropWhile_sublist _).subset h

private theorem trimZeros_of_no_point (h : '.' ∉ s) : trimZeros s = canonical s := by
  have hpoint : s.contains '.' = false := by simpa using h
  have hne : dropZeros s ≠ ['.'] := by
    intro he
    exact h (mem_of_mem_dropZeros (he ▸ List.mem_singleton_self _))
  rw [trimZeros, hpoint, canonical]
  cases hz : dropZeros s with
  | nil => rfl
  | cons c rest =>
    rw [hz] at hne
    simp [hne]

theorem canonical_canonical (s : List Char) : canonical (canonical s) = canonical s := by
  cases hz : dropZeros s with
  | nil =>
    rw [canonical, canonical, hz]
    rfl
  | cons c rest =>
    have hs : canonical s = dropZeros s := by rw [canonical, hz]
    rw [hs, canonical, dropZeros_dropZeros, hz]

private theorem mem_canonical {c : Char} (h : c ∈ canonical s) : c = '0' ∨ c ∈ s := by
  rw [canonical] at h
  split at h
  · exact .inl (List.mem_singleton.mp h)
  · next hz =>
    rw [← hz] at h
    exact .inr (mem_of_mem_dropZeros h)

theorem trimZeros_trimZeros (s : List Char) : trimZeros (trimZeros s) = trimZeros s := by
  by_cases hpoint : '.' ∈ s
  · obtain ⟨a, b, rfl⟩ := List.append_of_mem hpoint
    rw [trimZeros_append_point]
    split
    · rfl
    · next hne =>
      rw [trimZeros_append_point, dropZeros_dropZeros, Text.dropEndWhile_dropEndWhile, if_neg hne]
  · have hcanonical : '.' ∉ canonical s := by
      intro hmem
      rcases mem_canonical hmem with h | h
      · contradiction
      · exact hpoint h
    rw [trimZeros_of_no_point hpoint, trimZeros_of_no_point hcanonical, canonical_canonical]

/-! ## Decimal texts without needless zeros -/

theorem IsDigits.no_point (hs : IsDigits s) : '.' ∉ s :=
  fun hmem => absurd (hs.ne_point _ hmem) (by decide)

theorem fractionPart_of_no_point (h : '.' ∉ s) : fractionPart s = [] := by
  have hall : ∀ c ∈ s, (c != '.') = true := by
    intro c hc
    exact bne_iff_ne.mpr fun he => h (he ▸ hc)
  rw [fractionPart, decimals, List.dropWhile_eq_nil_iff.mpr hall]
  rfl

/-- Taking the zeros off a decimal text leaves its significant digits, and its point if it has one,
or a single zero. -/
theorem Denotes.trimZeros_eq (h : Denotes s q) :
    trimZeros s =
      if dropZeros (wholePart s) = [] ∧ fractionPart s = [] then ['0']
      else dropZeros (wholePart s) ++ if '.' ∈ s then '.' :: fractionPart s else [] := by
  cases h with
  | whole ha =>
    rw [trimZeros_of_no_point ha.no_point, fractionPart_of_no_point ha.no_point,
      (parts_digits ha).1, if_neg ha.no_point, List.append_nil, canonical]
    cases dropZeros s <;> simp
  | @pointed a b ha hb =>
    obtain ⟨hwhole, hdecimals⟩ := parts_point b ha
    rw [trimZeros_append_point, fractionPart, hwhole, hdecimals,
      if_pos (by simp : '.' ∈ a ++ '.' :: b)]

theorem denotes_trimZeros (h : Denotes s q) : Denotes (trimZeros s) q := by
  cases h with
  | whole ha =>
    have h := Denotes.whole (isDigits_digits (value s))
    rwa [value_digits, ← canonical_eq_digits ha, ← trimZeros_of_no_point ha.no_point] at h
  | @pointed a b ha hb =>
    obtain ⟨k, hk⟩ := Text.dropEndWhile_zeros b
    rw [trimZeros_append_point]
    generalize Text.dropEndWhile (· == '0') b = f at hk ⊢
    have hf : IsDigits f := by
      rw [hk, isDigits_append] at hb
      exact hb.1
    have hzeros := value_div_append_zeros [] f k
    rw [← hk, List.nil_append, List.nil_append] at hzeros
    rw [hzeros, ← value_dropZeros a]
    split
    · next hnil =>
      rw [hnil.1, hnil.2]
      have h := Denotes.whole (a := ['0']) (by decide)
      simpa [show value ['0'] = 0 from rfl] using h
    · exact .pointed ha.dropZeros hf

/-- Texts without needless zeros. Taking the zeros off twice is the same as taking them off once,
whatever the text. A decimal text stays one and keeps its number, and what is left of two decimal
texts that both have a point or both have none is the same exactly if they write one number. -/
theorem trimZeros_normal (s t : List Char) :
    trimZeros (trimZeros s) = trimZeros s ∧
    (∀ q, Denotes s q → Denotes (trimZeros s) q) ∧
    ∀ p q, Denotes s p → Denotes t q → ('.' ∈ s ↔ '.' ∈ t) →
      (trimZeros s = trimZeros t ↔ p = q) := by
  refine ⟨trimZeros_trimZeros s, fun q => denotes_trimZeros, ?_⟩
  intro p q hs ht hpoint
  constructor
  · intro h
    exact (h ▸ denotes_trimZeros hs).unique (denotes_trimZeros ht)
  · rintro rfl
    obtain ⟨hvalue, hfraction⟩ := hs.digits_unique ht
    have hwhole := dropZeros_eq_of_value_eq hs.parts.1 ht.parts.1 hvalue
    rw [hs.trimZeros_eq, ht.trimZeros_eq, hwhole, hfraction]
    simp only [hpoint]

/-- Seven and a half with zeros around it and without them, and a text that is no number. -/
theorem trimZeros_normal_spellings :
    let padded := ['0', '7', '.', '5', '0']
    let plain := ['7', '.', '5']
    Denotes padded (15 / 2) ∧ Denotes plain (15 / 2) ∧ ('.' ∈ padded ↔ '.' ∈ plain) ∧
      Denotes (trimZeros padded) (15 / 2) ∧ trimZeros padded = trimZeros plain ∧
      trimZeros (trimZeros ['0', 'é', '.', '0']) = ['é', '.'] := by
  intro padded plain
  have hpadded : Denotes padded (15 / 2) :=
    .of_digits (a := ['0', '7']) (b := ['5', '0']) (n := 750) (by decide) rfl (by norm_num)
  have hplain : Denotes plain (15 / 2) :=
    .of_digits (a := ['7']) (b := ['5']) (n := 75) (by decide) rfl (by norm_num)
  have hpoint : '.' ∈ padded ↔ '.' ∈ plain := by decide
  obtain ⟨-, hkeeps, hsame⟩ := trimZeros_normal padded plain
  obtain ⟨htwice, -⟩ := trimZeros_normal ['0', 'é', '.', '0'] plain
  exact ⟨hpadded, hplain, hpoint, hkeeps _ hpadded, (hsame _ _ hpadded hplain hpoint).mpr rfl,
    htwice⟩

end SwapDesk.Decimal
