import Mathlib.Tactic.NormNum
import SwapDesk.Amount.Basic
import SwapDesk.Proofs.Decimal.Significant

/-!
# Scaling is multiplication

The scan that drops the point accepts exactly the decimal texts whose number is a whole count of
units, and the digits it leaves are that count. Nothing is computed on the way. The zeros that are
taken off before the scan hide no fault, so that its result is told by the parts of the whole text.
-/

namespace SwapDesk.Decimal

/-! ## Texts without a fault -/

private theorem firstFault?_fraction (position : Nat) (s : List Char) :
    firstFault? true position s = none ↔ IsDigits s := by
  induction s generalizing position with
  | nil => simp [firstFault?]
  | cons c s ih =>
    by_cases hd : c.isDigit
    · simp [firstFault?, hd, ih]
    · by_cases hp : c = '.' <;> simp [firstFault?, hd, hp]

theorem firstFault?_eq_none_iff (position : Nat) (s : List Char) :
    firstFault? false position s = none ↔ ∃ q, Denotes s q := by
  induction s generalizing position with
  | nil =>
    simp only [firstFault?, true_iff]
    exact ⟨_, .whole isDigits_nil⟩
  | cons c s ih =>
    rw [denotes_cons, firstFault?]
    by_cases hd : c.isDigit
    · have hp : c ≠ '.' := by
        rintro rfl
        exact absurd hd (by decide)
      simp [hd, hp, ih (position + 1)]
    · by_cases hp : c = '.'
      · simp [hp, firstFault?_fraction]
      · simp [hd, hp]

/-! ## Scanning without needless zeros -/

private theorem firstFault?_zeros_append (pointed : Bool) (position n : Nat) (s : List Char) :
    firstFault? pointed position (List.replicate n '0' ++ s) =
      firstFault? pointed (position + n) s := by
  induction n generalizing position with
  | zero => rfl
  | succ n ih =>
    rw [List.replicate_succ, List.cons_append, firstFault?, if_pos (by decide), ih, Nat.add_assoc,
      Nat.add_comm 1 n]

private theorem firstFault?_append_zeros (pointed : Bool) (position n : Nat) (s : List Char) :
    firstFault? pointed position (s ++ List.replicate n '0') = firstFault? pointed position s := by
  induction s generalizing pointed position with
  | nil =>
    have hzeros := firstFault?_zeros_append pointed position n []
    rwa [List.append_nil] at hzeros
  | cons c s ih =>
    simp only [List.cons_append, firstFault?, ih]

/-- Zeros that are taken off hide no fault, and the leftmost one stays where it is in the whole
text. -/
private theorem firstFault?_trimZeros (text : List Char) :
    firstFault? false (text.takeWhile (· == '0')).length (trimZeros text) =
      firstFault? false 0 text := by
  have hleading :=
    firstFault?_zeros_append false 0 (text.takeWhile (· == '0')).length (dropZeros text)
  rw [zeros_append_dropZeros, Nat.zero_add] at hleading
  rw [hleading, trimZeros]
  generalize (text.takeWhile (· == '0')).length = position
  obtain ⟨n, hn⟩ := Text.dropEndWhile_zeros (dropZeros text)
  have hkept : firstFault? false position (if text.contains '.' then
      Text.dropEndWhile (· == '0') (dropZeros text) else dropZeros text) =
      firstFault? false position (dropZeros text) := by
    split
    · conv_rhs => rw [hn, firstFault?_append_zeros]
    · rfl
  rw [← hkept]
  generalize (if text.contains '.' then Text.dropEndWhile (· == '0') (dropZeros text)
    else dropZeros text) = kept
  split
  · next hnothing =>
    obtain rfl | rfl := hnothing <;> rfl
  · rfl

private theorem Denotes.trimZeros_parts {text : List Char} {q : ℚ} (h : Denotes text q) :
    decimals (trimZeros text) = fractionPart text ∧
      (trimZeros text).filter (· != '.') =
        if dropZeros (wholePart text) ++ fractionPart text = [] then ['0']
        else dropZeros (wholePart text) ++ fractionPart text := by
  have hfilter : ∀ {a : List Char}, IsDigits a → a.filter (· != '.') = a :=
    fun ha => List.filter_eq_self.mpr ha.ne_point
  have hwhole := h.parts.1.dropZeros
  have hfraction := h.trimmed.1
  rw [h.trimZeros_eq]
  simp only [List.append_eq_nil_iff]
  split
  · next hnil =>
    rw [hnil.2]
    exact ⟨rfl, rfl⟩
  · by_cases hpoint : '.' ∈ text
    · rw [if_pos hpoint, (parts_point _ hwhole).2, List.filter_append,
        List.filter_cons_of_neg (by decide), hfilter hwhole, hfilter hfraction]
      exact ⟨rfl, rfl⟩
    · rw [if_neg hpoint, fractionPart_of_no_point hpoint, List.append_nil, (parts_digits hwhole).2,
        hfilter hwhole]
      exact ⟨rfl, rfl⟩

/-- The scan of the text without needless zeros finds the parts of the whole text. -/
theorem scale_eq_scaleParts (s : List Char) : scale s = scaleParts s := by
  rw [scale, scaleParts]
  dsimp only
  rw [firstFault?_trimZeros]
  cases hfault : firstFault? false 0 (Text.trim s) with
  | some fault => rfl
  | none =>
    obtain ⟨q, hq⟩ := (firstFault?_eq_none_iff 0 _).mp hfault
    obtain ⟨hdecimals, hdigits⟩ := hq.trimZeros_parts
    dsimp only
    rw [hdecimals, hdigits]

/-! ## The digits that scaling leaves -/

/-- The digits of a count of units as scaling leaves them: at least one for every place, and one
more for nothing at all. -/
def unitsText (n : Nat) : List Char :=
  if n = 0 then List.replicate (places + 1) '0' else padLeft places (digits n)

@[simp]
theorem value_unitsText (n : Nat) : value (unitsText n) = n := by
  rw [unitsText]
  split
  · simp [*]
  · simp

theorem isDigits_unitsText (n : Nat) : IsDigits (unitsText n) := by
  rw [unitsText]
  split
  · exact isDigits_replicate_zero _
  · simp [isDigits_digits]

private theorem significant_value_ne_zero {s : List Char} {q : ℚ} (h : Denotes s q)
    (hz : dropZeros (wholePart s) ++ fractionPart s ≠ []) :
    value (wholePart s ++ fractionPart s) ≠ 0 := by
  intro hv
  by_cases hf : fractionPart s = []
  · rw [hf, List.append_nil] at hz hv
    exact hz ((dropZeros_eq_nil_iff h.parts.1).mpr hv)
  · exact h.value_mod_ten hf (by rw [hv])

private theorem significant_zeros {s : List Char} {q : ℚ} (h : Denotes s q)
    (hz : dropZeros (wholePart s) ++ fractionPart s ≠ [])
    (hp : (fractionPart s).length ≤ places) :
    dropZeros (wholePart s) ++ fractionPart s ++
        List.replicate (places - (fractionPart s).length) '0' =
      unitsText
        (value (wholePart s ++ fractionPart s) * 10 ^ (places - (fractionPart s).length)) := by
  generalize ht : dropZeros (wholePart s) ++ fractionPart s ++
    List.replicate (places - (fractionPart s).length) '0' = t
  have hdigits : IsDigits t := by
    rw [← ht]
    simp [h.parts.1.dropZeros, h.trimmed.1]
  have hvalue : value t =
      value (wholePart s ++ fractionPart s) * 10 ^ (places - (fractionPart s).length) := by
    rw [← ht, value_append]
    simp [value_append]
  have hne : value t ≠ 0 := by
    rw [hvalue]
    exact Nat.mul_ne_zero (significant_value_ne_zero h hz) (by simp)
  rw [← hvalue, unitsText, if_neg hne]
  by_cases hw : dropZeros (wholePart s) = []
  · have hl : t.length = places := by
      rw [← ht, hw]
      simp only [List.nil_append, List.length_append, List.length_replicate]
      omega
    rw [← hl, padLeft_digits_value hdigits hne]
  · have hl : places ≤ t.length := by
      rw [← ht]
      simp only [List.length_append, List.length_replicate]
      omega
    have hh : t.head? ≠ some '0' := by
      rw [← ht, List.append_assoc, List.head?_append_of_ne_nil _ hw]
      exact head_dropZeros _
    have ht0 : t ≠ [] := by
      rintro rfl
      exact hne value_nil
    rw [digits_value hdigits ht0 hh, padLeft_of_le hl]

private theorem scaled_eq_unitsText {s : List Char} {q : ℚ} (h : Denotes s q)
    (hp : (fractionPart s).length ≤ places) :
    (if dropZeros (wholePart s) ++ fractionPart s = [] then ['0']
      else dropZeros (wholePart s) ++ fractionPart s) ++
        List.replicate (places - (fractionPart s).length) '0' =
      unitsText
        (value (wholePart s ++ fractionPart s) * 10 ^ (places - (fractionPart s).length)) := by
  by_cases hz : dropZeros (wholePart s) ++ fractionPart s = []
  · have hf : fractionPart s = [] := (List.append_eq_nil_iff.mp hz).2
    have hv : value (wholePart s) = 0 :=
      (dropZeros_eq_nil_iff h.parts.1).mp (List.append_eq_nil_iff.mp hz).1
    rw [if_pos hz, hf]
    simp [hv, unitsText, List.replicate_succ]
  · rw [if_neg hz, significant_zeros h hz hp]

theorem scale_of_denotes {s : List Char} {q : ℚ} (h : Denotes (Text.trim s) q) (units : List Char) :
    scale s = .ok units ↔ ∃ n : ℕ, q * 10 ^ places = n ∧ units = unitsText n := by
  have hfault := (firstFault?_eq_none_iff 0 _).mpr ⟨q, h⟩
  rw [scale_eq_scaleParts, scaleParts]
  simp only [hfault]
  by_cases hp : (fractionPart (Text.trim s)).length ≤ places
  · rw [if_neg (Nat.not_lt.mpr hp), scaled_eq_unitsText h hp]
    constructor
    · rintro ⟨⟩
      exact ⟨_, h.units hp, rfl⟩
    · rintro ⟨n, hn, rfl⟩
      rw [h.units hp, Nat.cast_inj] at hn
      rw [hn]
  · rw [if_pos (Nat.lt_of_not_le hp)]
    constructor
    · rintro ⟨⟩
    · rintro ⟨n, hn, -⟩
      exact absurd hn (h.not_units (Nat.lt_of_not_le hp) n)

theorem denotes_of_scale {s units : List Char} (h : scale s = .ok units) :
    ∃ q, Denotes (Text.trim s) q := by
  rw [← firstFault?_eq_none_iff 0]
  by_contra hfault
  obtain ⟨fault, hf⟩ := Option.ne_none_iff_exists'.mp hfault
  simp [scale_eq_scaleParts, scaleParts, hf] at h

/-- Scaling succeeds exactly on the decimal texts that write a whole count of units, and gives
that count. -/
theorem scale_eq_ok_iff (s units : List Char) :
    scale s = .ok units ↔
      ∃ q, Denotes (Text.trim s) q ∧ ∃ n : ℕ, q * 10 ^ places = n ∧ units = unitsText n := by
  constructor
  · intro h
    obtain ⟨q, hq⟩ := denotes_of_scale h
    exact ⟨q, hq, (scale_of_denotes hq units).mp h⟩
  · rintro ⟨q, hq, hn⟩
    exact (scale_of_denotes hq units).mpr hn

/-- Scaling is exact multiplication: it succeeds exactly on the decimal texts that write a whole
count of units, it gives that count, and two accepted texts have one result exactly if they write
one number. -/
theorem scale_multiplies (s : List Char) :
    (∀ units, scale s = .ok units ↔
      ∃ q, Denotes (Text.trim s) q ∧ ∃ n : ℕ, q * 10 ^ places = n ∧ units = unitsText n) ∧
    ∀ t p q a b, Denotes (Text.trim s) p → Denotes (Text.trim t) q →
      scale s = .ok a → scale t = .ok b → (a = b ↔ p = q) := by
  refine ⟨scale_eq_ok_iff s, ?_⟩
  intro t p q a b hp hq ha hb
  obtain ⟨m, hm, rfl⟩ := (scale_of_denotes hp a).mp ha
  obtain ⟨n, hn, rfl⟩ := (scale_of_denotes hq b).mp hb
  constructor
  · intro h
    have hmn : m = n := by rw [← value_unitsText m, h, value_unitsText]
    have hpos : (10 : ℚ) ^ places ≠ 0 := pow_ne_zero _ (by norm_num)
    apply mul_right_cancel₀ hpos
    rw [hm, hn, hmn]
  · rintro rfl
    rw [Nat.cast_inj.mp (hm.symm.trans hn)]

/-- One and a half, with and without zeros that carry no value. -/
theorem scale_multiplies_spellings :
    Denotes (Text.trim [' ', '0', '1', '.', '5', '0']) (3 / 2) ∧
    Denotes (Text.trim ['1', '.', '5']) (3 / 2) ∧
    scale [' ', '0', '1', '.', '5', '0'] = .ok ('1' :: '5' :: List.replicate 23 '0') ∧
    scale ['1', '.', '5'] = .ok (unitsText 1500000000000000000000000) ∧
    ('1' :: '5' :: List.replicate 23 '0' = unitsText 1500000000000000000000000 ↔
      (3 / 2 : ℚ) = 3 / 2) := by
  have hp : Denotes ['0', '1', '.', '5', '0'] (3 / 2) := by
    have h := Denotes.pointed (a := ['0', '1']) (b := ['5', '0']) (by decide) (by decide)
    rw [show value ['0', '1'] = 1 from rfl, show value ['5', '0'] = 50 from rfl] at h
    norm_num at h
    exact h
  have hq : Denotes ['1', '.', '5'] (3 / 2) := by
    have h := Denotes.pointed (a := ['1']) (b := ['5']) (by decide) (by decide)
    rw [show value ['1'] = 1 from rfl, show value ['5'] = 5 from rfl] at h
    norm_num at h
    exact h
  exact ⟨hp, hq, rfl, rfl,
    (scale_multiplies [' ', '0', '1', '.', '5', '0']).2 ['1', '.', '5'] _ _ _ _ hp hq rfl rfl⟩

end SwapDesk.Decimal

/-! ## Amounts as they are typed -/

namespace SwapDesk.Amount

theorem isZero_iff {amount : Amount} : amount.isZero ↔ amount = zero := by
  obtain ⟨units⟩ := amount
  simp [isZero, zero]

theorem isZero_eq_false_iff {amount : Amount} : amount.isZero = false ↔ 0 < amount.units := by
  rw [isZero, beq_eq_false_iff_ne, Nat.pos_iff_ne_zero]

/-- The text writes the amount in whole tokens. -/
def Writes (text : String) (amount : Amount) : Prop :=
  ∃ q, Decimal.Denotes (Text.trim text.toList) q ∧ q * 10 ^ Decimal.places = amount.units

theorem ofHuman_eq_ok_iff {text : String} {amount : Amount} :
    ofHuman text = .ok amount ↔ Writes text amount := by
  rw [ofHuman]
  constructor
  · intro h
    cases hscale : Decimal.scale text.toList with
    | error e =>
      rw [hscale] at h
      contradiction
    | ok units =>
      rw [hscale] at h
      obtain ⟨q, hq, n, hn, rfl⟩ := (Decimal.scale_eq_ok_iff _ _).mp hscale
      cases h
      refine ⟨q, hq, ?_⟩
      simp only [Decimal.value_unitsText]
      exact hn
  · rintro ⟨q, hq, hn⟩
    rw [(Decimal.scale_eq_ok_iff _ _).mpr ⟨q, hq, amount.units, hn, rfl⟩]
    change Except.ok (Amount.mk _) = _
    rw [Decimal.value_unitsText]

end SwapDesk.Amount
