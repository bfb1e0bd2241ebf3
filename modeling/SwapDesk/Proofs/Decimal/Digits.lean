import Mathlib.Algebra.Group.Nat.Defs
import Mathlib.Data.List.Basic
import Mathlib.Data.List.Induction
import Mathlib.Data.List.TakeWhile
import SwapDesk.Decimal.Point

/-!
# Digit strings as numbers

The arithmetic of digit strings. A digit string without needless zeros is the decimal of the
number it denotes, so digit strings of one length are equal when their numbers are.
-/

namespace SwapDesk.Decimal

/-- A text of decimal digits only. It may be empty. -/
def IsDigits (s : List Char) : Prop := ∀ c ∈ s, c.isDigit

instance (s : List Char) : Decidable (IsDigits s) :=
  decidable_of_iff (s.all Char.isDigit) List.all_eq_true

@[simp]
theorem isDigits_nil : IsDigits [] := by simp [IsDigits]

@[simp]
theorem isDigits_cons (c : Char) (s : List Char) :
    IsDigits (c :: s) ↔ c.isDigit ∧ IsDigits s := by simp [IsDigits]

@[simp]
theorem isDigits_append (a b : List Char) : IsDigits (a ++ b) ↔ IsDigits a ∧ IsDigits b := by
  simp [IsDigits, or_imp, forall_and]

@[simp]
theorem isDigits_replicate_zero (n : Nat) : IsDigits (List.replicate n '0') := by
  intro c hc
  rw [(List.mem_replicate.mp hc).2]
  rfl

theorem isDigits_digits (n : Nat) : IsDigits (digits n) :=
  fun _ hc => Nat.isDigit_of_mem_toDigits (by decide) (by decide) hc

theorem IsDigits.sublist {a b : List Char} (hb : IsDigits b) (h : a.Sublist b) : IsDigits a :=
  fun c hc => hb c (h.subset hc)

/-! ## The number of a digit string -/

@[simp]
theorem value_nil : value [] = 0 := by simp [value]

theorem value_append (a b : List Char) : value (a ++ b) = value a * 10 ^ b.length + value b := by
  rw [value, Nat.ofDigitChars_append, Nat.ofDigitChars_eq_ofDigitChars_zero, Nat.mul_comm]
  rfl

theorem value_singleton (c : Char) : value [c] = c.toNat - 48 := by
  simp [value, Nat.ofDigitChars_cons]

@[simp]
theorem value_replicate_zero (n : Nat) : value (List.replicate n '0') = 0 := by
  simp [value]

@[simp]
theorem value_digits (n : Nat) : value (digits n) = n := by
  simp [value, digits]

theorem digit_toNat {c : Char} (hc : c.isDigit) : 48 ≤ c.toNat ∧ c.toNat ≤ 57 := by
  simp only [Char.isDigit, Bool.and_eq_true, decide_eq_true_eq] at hc
  exact ⟨UInt32.le_iff_toNat_le.mp hc.1, UInt32.le_iff_toNat_le.mp hc.2⟩

theorem value_lt (s : List Char) (hs : IsDigits s) : value s < 10 ^ s.length := by
  induction s using List.reverseRecOn with
  | nil => simp
  | append_singleton s c ih =>
    rw [isDigits_append, isDigits_cons] at hs
    have hc := digit_toNat hs.2.1
    have hs := ih hs.1
    rw [value_append, value_singleton, List.length_append, Nat.pow_add]
    simp only [List.length_singleton, Nat.pow_one]
    omega

theorem value_append_div_mod (a : List Char) {b : List Char} (hb : IsDigits b) :
    value (a ++ b) / 10 ^ b.length = value a ∧ value (a ++ b) % 10 ^ b.length = value b := by
  have hlt := value_lt b hb
  rw [value_append, Nat.mul_comm, Nat.mul_add_div (Nat.pow_pos (by decide)), Nat.div_eq_of_lt hlt,
    Nat.mul_add_mod, Nat.mod_eq_of_lt hlt]
  exact ⟨rfl, rfl⟩

theorem value_take {s : List Char} (hs : IsDigits s) (n : Nat) :
    value (s.take n) = value s / 10 ^ (s.length - n) := by
  have hrest : IsDigits (s.drop n) := hs.sublist (List.drop_sublist ..)
  have hdiv := (value_append_div_mod (s.take n) hrest).1
  rw [List.take_append_drop, List.length_drop] at hdiv
  exact hdiv.symm

theorem value_drop {s : List Char} (hs : IsDigits s) (n : Nat) :
    value (s.drop n) = value s % 10 ^ (s.length - n) := by
  have hrest : IsDigits (s.drop n) := hs.sublist (List.drop_sublist ..)
  have hmod := (value_append_div_mod (s.take n) hrest).2
  rw [List.take_append_drop, List.length_drop] at hmod
  exact hmod.symm

theorem value_mod_ten (s : List Char) {c : Char} (hc : c.isDigit) (hz : c ≠ '0') :
    value (s ++ [c]) % 10 ≠ 0 := by
  have hb := digit_toNat hc
  have hne : c.toNat ≠ 48 := fun h => hz (Char.toNat_inj.mp h)
  rw [value_append, value_singleton, List.length_singleton, Nat.pow_one]
  omega

/-! ## Zeros that a digit string starts with -/

theorem zeros_append_dropZeros (s : List Char) :
    List.replicate (s.takeWhile (· == '0')).length '0' ++ dropZeros s = s := by
  rw [← List.eq_replicate_of_mem (a := '0') (l := s.takeWhile (· == '0'))]
  · exact List.takeWhile_append_dropWhile
  · intro c hc
    simpa using List.mem_takeWhile_imp hc

theorem zeros_dropZeros (s : List Char) : ∃ n, s = List.replicate n '0' ++ dropZeros s :=
  ⟨_, (zeros_append_dropZeros s).symm⟩

@[simp]
theorem value_dropZeros (s : List Char) : value (dropZeros s) = value s := by
  obtain ⟨n, hn⟩ := zeros_dropZeros s
  conv_rhs => rw [hn, value_append]
  simp

theorem IsDigits.dropZeros {s : List Char} (hs : IsDigits s) : IsDigits (dropZeros s) :=
  hs.sublist (List.dropWhile_sublist _)

theorem head_dropZeros (s : List Char) : (dropZeros s).head? ≠ some '0' := by
  intro h
  have hd := List.head?_dropWhile_not (· == '0') s
  rw [dropZeros] at h
  simp [h] at hd

/-! ## The decimal of a number -/

private theorem digitChar_digit {c : Char} (hc : c.isDigit) : Nat.digitChar (c.toNat - 48) = c := by
  have hb := digit_toNat hc
  have hd : (Nat.digitChar (c.toNat - 48)).isDigit := by
    simp only [Nat.isDigit_digitChar, decide_eq_true_eq]
    omega
  have hd := digit_toNat hd
  have he := Nat.toNat_digitChar_sub_48_of_lt_ten (n := c.toNat - 48) (by omega)
  apply Char.toNat_inj.mp
  omega

theorem digits_value {s : List Char} (hs : IsDigits s) (hne : s ≠ []) (hh : s.head? ≠ some '0') :
    digits (value s) = s := by
  induction s using List.reverseRecOn with
  | nil => contradiction
  | append_singleton s c ih =>
    rw [isDigits_append, isDigits_cons] at hs
    have hc := digit_toNat hs.2.1
    have hlast : Nat.toDigits 10 (c.toNat - 48) = [c] := by
      rw [Nat.toDigits_of_lt_base (by omega), digitChar_digit hs.2.1]
    rw [value_append, value_singleton]
    by_cases hnil : s = []
    · subst hnil
      simpa [digits] using hlast
    · rw [List.head?_append_of_ne_nil _ hnil] at hh
      have ih := ih hs.1 hnil hh
      have hpos : 0 < value s := by
        by_contra hz
        rw [Nat.eq_zero_of_not_pos hz] at ih
        exact hh (by rw [← ih]; rfl)
      have happ := Nat.toDigits_append_toDigits (b := 10) (d := c.toNat - 48) (by decide) hpos
        (by omega)
      rw [hlast, ← digits, ih] at happ
      rw [happ, digits, List.length_singleton, Nat.pow_one, Nat.mul_comm]

theorem dropZeros_eq_nil_iff {s : List Char} (hs : IsDigits s) :
    dropZeros s = [] ↔ value s = 0 := by
  constructor
  · intro h
    rw [← value_dropZeros, h, value_nil]
  · intro h
    by_contra hne
    have hd := digits_value hs.dropZeros hne (head_dropZeros s)
    rw [value_dropZeros, h] at hd
    exact head_dropZeros s (by rw [← hd]; rfl)

theorem digits_value_eq_dropZeros {s : List Char} (hs : IsDigits s) (h : value s ≠ 0) :
    digits (value s) = dropZeros s := by
  have hne : dropZeros s ≠ [] := fun he => h ((dropZeros_eq_nil_iff hs).mp he)
  have hd := digits_value hs.dropZeros hne (head_dropZeros s)
  rwa [value_dropZeros] at hd

/-- The canonical text of a digit string is the decimal of its number. -/
theorem canonical_eq_digits {s : List Char} (hs : IsDigits s) : canonical s = digits (value s) := by
  have hz := dropZeros_eq_nil_iff hs
  rw [canonical]
  cases h : dropZeros s with
  | nil => rw [hz.mp h]; rfl
  | cons c rest =>
    have hne : value s ≠ 0 := fun hv => by rw [hz.mpr hv] at h; contradiction
    rw [digits_value_eq_dropZeros hs hne, h]

/-- Digits as a number is written: without leading zeros, apart from a single zero. -/
def IsCanonical (s : List Char) : Prop :=
  IsDigits s ∧ s ≠ [] ∧ (s.head? = some '0' → s = ['0'])

theorem isCanonical_digits (n : Nat) : IsCanonical (digits n) := by
  refine ⟨isDigits_digits n, Nat.toDigits_ne_nil, ?_⟩
  have hc := canonical_eq_digits (isDigits_digits n)
  rw [value_digits, canonical] at hc
  intro hh
  cases hz : dropZeros (digits n) with
  | nil =>
    rw [hz] at hc
    exact hc.symm
  | cons c rest =>
    have hd := head_dropZeros (digits n)
    rw [hz] at hc hd
    change c :: rest = digits n at hc
    rw [hc] at hd
    exact absurd hh hd

theorem IsCanonical.digits_value {s : List Char} (hs : IsCanonical s) : digits (value s) = s := by
  obtain ⟨hdigits, hne, hzero⟩ := hs
  by_cases hh : s.head? = some '0'
  · rw [hzero hh]
    rfl
  · exact Decimal.digits_value hdigits hne hh

/-! ## Digit strings of one length -/

@[simp]
theorem value_padLeft (n : Nat) (s : List Char) : value (padLeft n s) = value s := by
  simp [padLeft, value_append]

@[simp]
theorem isDigits_padLeft (n : Nat) (s : List Char) : IsDigits (padLeft n s) ↔ IsDigits s := by
  simp [padLeft]

theorem length_padLeft (n : Nat) (s : List Char) : (padLeft n s).length = max n s.length := by
  simp only [padLeft, List.length_append, List.length_replicate]
  omega

theorem padLeft_of_le {n : Nat} {s : List Char} (h : n ≤ s.length) : padLeft n s = s := by
  simp [padLeft, Nat.sub_eq_zero_of_le h]

theorem padLeft_digits_value {s : List Char} (hs : IsDigits s) (h : value s ≠ 0) :
    padLeft s.length (digits (value s)) = s := by
  obtain ⟨n, hn⟩ := zeros_dropZeros s
  have hl : s.length - (dropZeros s).length = n := by
    have := congrArg List.length hn
    simp only [List.length_append, List.length_replicate] at this
    omega
  rw [digits_value_eq_dropZeros hs h, padLeft, hl, ← hn]

theorem eq_of_value_eq {a b : List Char} (ha : IsDigits a) (hb : IsDigits b)
    (hl : a.length = b.length) (h : value a = value b) : a = b := by
  obtain ⟨m, hm⟩ := zeros_dropZeros a
  obtain ⟨n, hn⟩ := zeros_dropZeros b
  by_cases hz : value a = 0
  · have ha' := (dropZeros_eq_nil_iff ha).mpr hz
    have hb' := (dropZeros_eq_nil_iff hb).mpr (h ▸ hz)
    rw [ha', List.append_nil] at hm
    rw [hb', List.append_nil] at hn
    rw [hm, hn, List.length_replicate, List.length_replicate] at hl
    rw [hm, hn, hl]
  · rw [← padLeft_digits_value ha hz, ← padLeft_digits_value hb (h ▸ hz), hl, h]

end SwapDesk.Decimal
