import SwapDesk.Json.Parser
import SwapDesk.Json.Printer
import SwapDesk.Proofs.Decimal.Digits

/-!
# Integers in JSON

An integer of 64 bits is written exactly and reads back, if what follows it cannot go on with the
number.
-/

namespace SwapDesk.Json

open Decimal (IsDigits IsCanonical digits)

/-- The number is an integer of 64 bits, with a sign or without. -/
def Number.IsExact : Number → Prop
  | .int n => -(signedBound : Int) ≤ n ∧ n ≤ greatestNatural
  | .double _ => False

theorem natural?_eq_some_iff {v : Json} {n : Nat} :
    v.natural? = some n ↔ v = natural n ∧ n ≤ greatestNatural := by
  rw [natural?.eq_def, natural]
  split
  · next k =>
    simp only [number.injEq, Number.int.injEq]
    constructor
    · intro h
      split at h
      · cases h
        omega
      · contradiction
    · rintro ⟨rfl, hn⟩
      rw [if_pos (by omega), Int.toNat_natCast]
  · next hother =>
    refine ⟨nofun, ?_⟩
    rintro ⟨rfl, -⟩
    exact absurd rfl (hother n)

/-- A number that stands before the text ends there. -/
def EndsNumber (rest : List Char) : Prop :=
  ∀ c ∈ rest.head?, c.isDigit = false ∧ c ≠ '.' ∧ c ≠ 'e' ∧ c ≠ 'E'

theorem endsNumber_nil : EndsNumber [] := nofun

theorem endsNumber_cons {c : Char} {rest : List Char}
    (h : c.isDigit = false ∧ c ≠ '.' ∧ c ≠ 'e' ∧ c ≠ 'E') : EndsNumber (c :: rest) := by
  intro d hd
  cases hd
  exact h

theorem Number.IsExact.chars_eq_cons {n : Number} (hn : n.IsExact) :
    ∃ c t, n.chars = c :: t ∧ (c.isDigit ∨ c = '-') := by
  cases n with
  | double x => exact hn.elim
  | int k =>
    rw [Number.chars]
    split
    · exact ⟨'-', _, rfl, .inr rfl⟩
    · obtain ⟨hdigits, hne, -⟩ := Decimal.isCanonical_digits k.natAbs
      obtain ⟨c, t, ht⟩ := List.exists_cons_of_ne_nil hne
      exact ⟨c, t, ht, .inl (hdigits c (by rw [ht]; exact List.mem_cons_self ..))⟩

namespace Grammar

variable {s rest : List Char}

private theorem digitRun?_append (hs : IsDigits s) (hne : s ≠ []) (hrest : EndsNumber rest) :
    digitRun? (s ++ rest) = some (s, rest) := by
  have hstop : rest.takeWhile Char.isDigit = [] ∧ rest.dropWhile Char.isDigit = rest := by
    cases rest with
    | nil => exact ⟨rfl, rfl⟩
    | cons c rest => simp [(hrest c rfl).1]
  rw [digitRun?, List.takeWhile_append_of_pos hs, List.dropWhile_append_of_pos hs, hstop.1, hstop.2,
    List.append_nil]
  cases s with
  | nil => contradiction
  | cons c s => rfl

private theorem wholeRun?_append (hs : IsCanonical s) (hrest : EndsNumber rest) :
    wholeRun? (s ++ rest) = some (s, rest) := by
  obtain ⟨hdigits, hne, hzero⟩ := hs
  by_cases hh : s.head? = some '0'
  · rw [hzero hh]
    rfl
  · obtain ⟨c, t, rfl⟩ := List.exists_cons_of_ne_nil hne
    have hc : ∀ u, c :: t ++ rest ≠ '0' :: u := by
      intro u hu
      injection hu with hc
      exact hh (congrArg some hc)
    rw [wholeRun?.eq_2 _ hc, digitRun?_append hdigits hne hrest]

private theorem fractionRun?_of_endsNumber (hrest : EndsNumber rest) :
    fractionRun? rest = some ([], rest) := by
  cases rest with
  | nil => rfl
  | cons c rest =>
    have hc : ∀ u, c :: rest ≠ '.' :: u := by
      intro u hu
      injection hu with hc
      exact (hrest c rfl).2.1 hc
    rw [fractionRun?.eq_2 _ hc]

private theorem exponentRun?_of_endsNumber (hrest : EndsNumber rest) :
    exponentRun? rest = some (none, rest) := by
  cases rest with
  | nil => rfl
  | cons c rest =>
    obtain ⟨-, -, he, hE⟩ := hrest c rfl
    rw [exponentRun?.eq_def]
    dsimp only
    rw [if_neg (not_or.mpr ⟨he, hE⟩)]

def unsigned? (negative : Bool) (s : List Char) : Option (Option Number × List Char) := do
  let (whole, s) ← wholeRun? s
  let (fraction, s) ← fractionRun? s
  let (exponent, s) ← exponentRun? s
  let n := match fraction, exponent with
    | [], none => integer? negative whole
    | _, _ => (Double.ofDecimal? negative whole fraction (exponent.getD 0)).map .double
  some (n, s)

theorem number?_negative (s : List Char) : number? ('-' :: s) = unsigned? true s := rfl

theorem number?_of_no_sign (hs : ∀ t, s ≠ '-' :: t) : number? s = unsigned? false s :=
  number?.eq_2 s hs

private theorem unsigned?_append {negative : Bool} (hs : IsCanonical s) (hrest : EndsNumber rest) :
    unsigned? negative (s ++ rest) = some (integer? negative s, rest) := by
  simp only [unsigned?, wholeRun?_append hs hrest, fractionRun?_of_endsNumber hrest,
    exponentRun?_of_endsNumber hrest, Option.bind_eq_bind, Option.bind_some]

private theorem no_sign_digits (n : Nat) (rest t : List Char) : digits n ++ rest ≠ '-' :: t := by
  intro h
  obtain ⟨hdigits, hne, -⟩ := Decimal.isCanonical_digits n
  obtain ⟨c, u, hu⟩ := List.exists_cons_of_ne_nil hne
  rw [hu] at h
  injection h with hc
  exact absurd (hdigits c (by rw [hu]; exact List.mem_cons_self ..)) (by rw [hc]; decide)

theorem number?_chars {n : Number} (hn : n.IsExact) (hrest : EndsNumber rest) :
    number? (n.chars ++ rest) = some (some n, rest) := by
  cases n with
  | double x => exact hn.elim
  | int k =>
    have hcanonical := Decimal.isCanonical_digits k.natAbs
    have hvalue : Nat.ofDigitChars 10 (digits k.natAbs) 0 = k.natAbs := Decimal.value_digits _
    obtain ⟨hlow, hhigh⟩ := hn
    rw [Number.chars]
    -- Below zero the bound is that of integers with a sign, otherwise the greater one.
    split
    · next hneg =>
      change number? ('-' :: (digits k.natAbs ++ rest)) = _
      have hsize : 0 < k.natAbs ∧ k.natAbs ≤ signedBound := by omega
      have hk : -(k.natAbs : Int) = k := by omega
      rw [number?_negative, unsigned?_append hcanonical hrest, integer?, hvalue, if_pos rfl,
        if_pos hsize, hk]
    · next hpos =>
      change number? (digits k.natAbs ++ rest) = _
      have hsize : k.natAbs ≤ greatestNatural := by omega
      have hk : (k.natAbs : Int) = k := by omega
      rw [number?_of_no_sign (no_sign_digits _ rest), unsigned?_append hcanonical hrest, integer?,
        hvalue, if_neg Bool.false_ne_true, if_pos hsize, hk]

end Grammar

end SwapDesk.Json
