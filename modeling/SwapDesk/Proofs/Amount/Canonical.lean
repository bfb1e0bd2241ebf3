import SwapDesk.Json.Decode
import SwapDesk.Proofs.Amount.Scale
import SwapDesk.Proofs.Decimal.Order

/-!
# Amounts as texts

An amount can be kept as its digits. Every way to build one leaves digits without needless zeros,
and on such texts being equal, comparing equal and denoting one number are the same. So an amount
is its text, and amounts are in the order of their numbers.
-/

namespace SwapDesk

namespace Decimal

theorem isCanonical_canonical {s : List Char} (hs : IsDigits s) : IsCanonical (canonical s) := by
  rw [canonical_eq_digits hs]
  exact isCanonical_digits _

theorem IsCanonical.canonical_eq {s : List Char} (hs : IsCanonical s) : canonical s = s := by
  rw [canonical_eq_digits hs.1, hs.digits_value]

theorem IsCanonical.eq_zero_iff {s : List Char} (hs : IsCanonical s) : s = ['0'] ↔ value s = 0 := by
  constructor
  · rintro rfl
    rfl
  · intro h
    rw [← hs.digits_value, h]
    rfl

theorem IsCanonical.eq_iff {s t : List Char} (hs : IsCanonical s) (ht : IsCanonical t) :
    s = t ↔ value s = value t := by
  constructor
  · exact congrArg value
  · intro h
    rw [← hs.digits_value, h, ht.digits_value]

end Decimal

namespace Amount

open Decimal (IsDigits IsCanonical canonical compareDigits)

theorem isCanonical (a : Amount) : IsCanonical a.digits := Decimal.isCanonical_digits a.units

@[simp]
theorem value_eq_units (a : Amount) : Decimal.value a.digits = a.units :=
  Decimal.value_digits a.units

private theorem eq_iff_digits {x y : Amount} : x = y ↔ x.digits = y.digits := by
  rw [x.isCanonical.eq_iff y.isCanonical, value_eq_units, value_eq_units, mk.injEq]

private theorem eq_iff_text {x y : Amount} : x = y ↔ x.text = y.text := by
  rw [eq_iff_digits, text, text, String.ofList_inj]

theorem digits_eq_canonical_iff {a : Amount} {s : List Char} (hs : IsDigits s) :
    a.digits = canonical s ↔ a = ⟨Decimal.value s⟩ := by
  rw [Decimal.canonical_eq_digits hs, eq_iff_digits]
  rfl

/-! ## Building amounts -/

theorem ofText_eq_ok_iff {s : String} {a : Amount} :
    ofText s = .ok a ↔ IsDigits (Text.trim s.toList) ∧ Text.trim s.toList ≠ [] ∧
      a.digits = canonical (Text.trim s.toList) := by
  rw [ofText]
  generalize Text.trim s.toList = t
  dsimp only
  by_cases hne : t = []
  · rw [if_pos hne]
    exact ⟨nofun, fun h => absurd hne h.2.1⟩
  · rw [if_neg hne]
    by_cases hdigits : IsDigits t
    · rw [List.dropWhile_eq_nil_iff.mpr hdigits, digits_eq_canonical_iff hdigits, Except.ok.injEq]
      exact ⟨fun h => ⟨hdigits, hne, h.symm⟩, fun h => h.2.2.symm⟩
    · have hdrop : t.dropWhile Char.isDigit ≠ [] :=
        fun h => hdigits (List.dropWhile_eq_nil_iff.mp h)
      obtain ⟨c, rest, hrest⟩ := List.exists_cons_of_ne_nil hdrop
      rw [hrest]
      exact ⟨nofun, fun h => absurd h.1 hdigits⟩

theorem ofHuman_eq_ok_iff_digits {s : String} {a : Amount} :
    ofHuman s = .ok a ↔ ∃ units, Decimal.scale s.toList = .ok units ∧
      a.digits = canonical units := by
  rw [ofHuman]
  cases hscale : Decimal.scale s.toList with
  | error e =>
    constructor
    · intro h
      cases h
    · rintro ⟨units, h, -⟩
      cases h
  | ok units =>
    obtain ⟨_, _, n, _, rfl⟩ := (Decimal.scale_eq_ok_iff _ _).mp hscale
    simp only [Except.map, Except.ok.injEq, exists_eq_left',
      digits_eq_canonical_iff (Decimal.isDigits_unitsText n)]
    exact eq_comm

theorem amount_eq_ok_iff {document : Json.Written} {a : Amount} :
    document.amount = .ok a ↔ ∃ s, document = .string s ∧ ofText s = .ok a := by
  cases document with
  | string s =>
    simp only [Json.Written.amount, Json.Written.string.injEq, exists_eq_left']
    cases ofText s <;> simp [Except.mapError]
  | _ => exact ⟨nofun, nofun⟩

/-- The digits that an amount is built with, if it is kept as digits: what is read or scaled goes
without the zeros in front, and a number of 128 bits is written out. -/
inductive Built : List Char → Prop
  | read {s : List Char} : IsDigits (Text.trim s) → Text.trim s ≠ [] →
      Built (canonical (Text.trim s))
  | scaled {s units : List Char} : Decimal.scale s = .ok units → Built (canonical units)
  | counted {n : Nat} : n < 2 ^ 128 → Built (Decimal.digits n)
  | zero : Built ['0']

theorem Built.isCanonical {t : List Char} (h : Built t) : IsCanonical t := by
  cases h with
  | read hdigits _ => exact Decimal.isCanonical_canonical hdigits
  | scaled hscale =>
    obtain ⟨_, _, n, _, rfl⟩ := (Decimal.scale_eq_ok_iff _ _).mp hscale
    exact Decimal.isCanonical_canonical (Decimal.isDigits_unitsText n)
  | counted => exact Decimal.isCanonical_digits _
  | zero => exact Decimal.isCanonical_digits 0

private theorem trim_digits (a : Amount) : Text.trim a.digits = a.digits :=
  (Decimal.Denotes.whole a.isCanonical.1).trim

private theorem built_digits (a : Amount) : Built a.digits := by
  have h := Built.read (s := a.digits)
  rw [trim_digits, a.isCanonical.canonical_eq] at h
  exact h a.isCanonical.1 a.isCanonical.2.1

theorem built_iff {t : List Char} : Built t ↔ ∃ a : Amount, a.digits = t := by
  constructor
  · exact fun h => ⟨⟨Decimal.value t⟩, h.isCanonical.digits_value⟩
  · rintro ⟨a, rfl⟩
    exact a.built_digits

theorem ofText_text (a : Amount) : ofText a.text = .ok a := by
  rw [ofText_eq_ok_iff, text, String.toList_ofList, trim_digits, a.isCanonical.canonical_eq]
  exact ⟨a.isCanonical.1, a.isCanonical.2.1, rfl⟩

theorem compareDigits_digits (x y : Amount) :
    compareDigits x.digits y.digits = compare x.units y.units := by
  rw [Decimal.compareDigits_eq_compare_value x.isCanonical.1 y.isCanonical.1, value_eq_units,
    value_eq_units]

private theorem eq_iff_compareDigits {x y : Amount} :
    x = y ↔ compareDigits x.digits y.digits = .eq := by
  rw [compareDigits_digits, Nat.compare_eq_eq, mk.injEq]

private theorem lt_iff_compareDigits {x y : Amount} :
    x < y ↔ compareDigits x.digits y.digits = .lt := by
  rw [compareDigits_digits, Nat.compare_eq_lt]
  rfl

private theorem le_iff_compareDigits {x y : Amount} :
    x ≤ y ↔ compareDigits x.digits y.digits ≠ .gt := by
  rw [compareDigits_digits, Nat.compare_ne_gt]
  rfl

private theorem isZero_iff_digits {a : Amount} : a.isZero ↔ a.digits = ['0'] := by
  rw [a.isCanonical.eq_zero_iff, value_eq_units, isZero, beq_iff_eq]

/-- Digit strings are in the order of their numbers. Amounts are the digits that can be built,
each from the digits that are read, scaled or found in a document, and these are canonical. So
equal amounts, equal texts, texts that compare equal and equal numbers are the same, amounts are
in the order of their numbers, zero is the text of one zero, and a text reads back. -/
theorem canonical_order (x y : Amount) :
    (∀ a b, IsDigits a → IsDigits b →
      compareDigits a b = compare (Decimal.value a) (Decimal.value b)) ∧
    (∀ t, Built t ↔ ∃ a : Amount, a.digits = t) ∧ IsCanonical x.digits ∧
    (∀ s, ofText s = .ok x → x.digits = canonical (Text.trim s.toList)) ∧
    (∀ s, ofHuman s = .ok x →
      ∃ units, Decimal.scale s.toList = .ok units ∧ x.digits = canonical units) ∧
    (∀ document : Json.Written, document.amount = .ok x →
      ∃ s, document = .string s ∧ ofText s = .ok x) ∧
    zero.digits = ['0'] ∧
    (x = y ↔ x.text = y.text) ∧ (x = y ↔ compareDigits x.digits y.digits = .eq) ∧
    (x = y ↔ x.units = y.units) ∧
    compare x y = compareDigits x.digits y.digits ∧
    compareDigits x.digits y.digits = compare x.units y.units ∧
    (x < y ↔ compareDigits x.digits y.digits = .lt) ∧
    (x ≤ y ↔ compareDigits x.digits y.digits ≠ .gt) ∧
    (x.isZero ↔ x.digits = ['0']) ∧ (x.isZero ↔ x.units = 0) ∧
    ofText x.text = .ok x := by
  refine ⟨fun a b => Decimal.compareDigits_eq_compare_value, fun t => built_iff, x.isCanonical,
    ?_, ?_, ?_, rfl, eq_iff_text, eq_iff_compareDigits, ?_, ?_, compareDigits_digits x y,
    lt_iff_compareDigits, le_iff_compareDigits, isZero_iff_digits, beq_iff_eq, ofText_text x⟩
  · exact fun s h => (ofText_eq_ok_iff.mp h).2.2
  · exact fun s => ofHuman_eq_ok_iff_digits.mp
  · exact fun document => amount_eq_ok_iff.mp
  · rw [mk.injEq]
  · rw [compareDigits_digits]
    rfl

/-- Nine with zeros in front of it, read in units, in whole tokens and in a document, and ten. -/
theorem canonical_order_padded :
    IsDigits ['0', '0', '9'] ∧ IsDigits ['1', '0'] ∧
    compareDigits ['0', '0', '9'] ['1', '0'] = .lt ∧
    ofText " 009" = .ok ⟨9⟩ ∧ (⟨9⟩ : Amount).digits = ['9'] ∧
    ofHuman "0.000000000000000000000009" = .ok ⟨9⟩ ∧
    (∃ units, Decimal.scale "0.000000000000000000000009".toList = .ok units ∧
      (⟨9⟩ : Amount).digits = canonical units) ∧
    (Json.Written.string "9").amount = .ok ⟨9⟩ ∧
    (∃ s, Json.Written.string "9" = .string s ∧ ofText s = .ok ⟨9⟩) ∧
    compareDigits (⟨9⟩ : Amount).digits (⟨10⟩ : Amount).digits ≠ .eq := by
  have ha : IsDigits ['0', '0', '9'] := by decide
  have hb : IsDigits ['1', '0'] := by decide
  have hread : ofText " 009" = .ok ⟨9⟩ := by rfl
  have hscaled : ofHuman "0.000000000000000000000009" = .ok ⟨9⟩ := by rfl
  have hfound : (Json.Written.string "9").amount = .ok ⟨9⟩ := by rfl
  obtain ⟨order, -, -, read, scaled, found, -, -, equal, -⟩ := canonical_order ⟨9⟩ ⟨10⟩
  exact ⟨ha, hb, order _ _ ha hb, hread, read _ hread, hscaled, scaled _ hscaled, hfound,
    found _ hfound, fun h => absurd (equal.mpr h) (by decide)⟩

end Amount

end SwapDesk
