import Mathlib.Order.Bounds.Basic
import SwapDesk.Proofs.Amount.Scale
import SwapDesk.Proofs.Decimal.Point

/-!
# Amounts with fewer digits

A count of units can be shown with the first digits of its fraction only. What is cut off is the
remainder by the last place that is shown, so the text never says more than there is, and greater
counts have no smaller texts.
-/

namespace SwapDesk

namespace Decimal

variable {y : List Char}

/-- A decimal text with exactly so many digits after its point, and without a point if there are
none. No needless zeros stand before the point. -/
inductive HasPlaces : ℕ → List Char → Prop
  | whole {a : List Char} : IsCanonical a → HasPlaces 0 a
  | pointed {a b : List Char} : IsCanonical a → IsDigits b → b ≠ [] →
      HasPlaces b.length (a ++ '.' :: b)

private theorem hasPlaces_afterPoint {a b : List Char} (ha : IsCanonical a) (hb : IsDigits b) :
    HasPlaces b.length (a ++ afterPoint b) := by
  rw [afterPoint]
  split
  · next hnil =>
    rw [hnil, List.append_nil]
    exact .whole ha
  · next hne => exact .pointed ha hb hne

private theorem hasPlaces_pointed (hy : IsDigits y) (precision : Precision) :
    HasPlaces precision.fractionDigits (pointed precision y) := by
  rw [pointed_eq hy, ← length_shownFraction precision (value y)]
  exact hasPlaces_afterPoint (isCanonical_digits _) (isDigits_shownFraction precision _)

private theorem isGreatest_div_mul (n : ℕ) {unit : ℕ} (hunit : 0 < unit) :
    IsGreatest {units | unit ∣ units ∧ units ≤ n} (n / unit * unit) := by
  refine ⟨⟨Nat.dvd_mul_left .., Nat.div_mul_le_self ..⟩, ?_⟩
  rintro _ ⟨⟨c, rfl⟩, hle⟩
  rw [Nat.mul_comm]
  exact Nat.mul_le_mul_right unit ((Nat.le_div_iff_mul_le hunit).mpr (Nat.mul_comm .. ▸ hle))

end Decimal

namespace Amount

open Decimal (IsDigits HasPlaces Denotes places pointed)

theorem ofHuman_pointed {y : List Char} (hy : IsDigits y) (precision : Decimal.Precision) :
    ofHuman (String.ofList (pointed precision y)) =
      .ok ⟨Decimal.value y / 10 ^ (places - precision.fractionDigits) *
        10 ^ (places - precision.fractionDigits)⟩ := by
  have h := Decimal.denotes_pointed hy precision
  have hk := precision.fractionDigits_le
  rw [ofHuman_eq_ok_iff, Writes, String.toList_ofList, h.trim]
  refine ⟨_, h, ?_⟩
  generalize precision.fractionDigits = k at hk ⊢
  rw [← Nat.sub_add_cancel hk, pow_add, Nat.add_sub_cancel]
  push_cast
  field_simp

/-- Digits that are cut off only ever take away. A count of units is shown with exactly the digits
asked for and reads as the greatest multiple of the last place that is not above it, which is all
of it if all places are shown, and a greater count does not read as less. -/
theorem pointed_truncates (y : List Char) (n : ℕ) (hy : IsDigits y) :
    let shown := min n places
    let unit := 10 ^ (places - shown)
    let text := pointed (.truncated n) y
    HasPlaces shown text ∧ Denotes text ((Decimal.value y / unit : ℕ) / 10 ^ shown) ∧
    (∃ a, ofHuman (String.ofList text) = .ok a ∧
      IsGreatest {units | unit ∣ units ∧ units ≤ Decimal.value y} a.units ∧
      (shown = places → a.units = Decimal.value y)) ∧
    ∀ z, IsDigits z → Decimal.value y ≤ Decimal.value z →
      ∃ a b, ofHuman (String.ofList text) = .ok a ∧
        ofHuman (String.ofList (pointed (.truncated n) z)) = .ok b ∧ a ≤ b := by
  intro shown unit text
  have hread : ∀ z, IsDigits z → ofHuman (String.ofList (pointed (.truncated n) z)) =
      .ok ⟨Decimal.value z / unit * unit⟩ := fun z hz => ofHuman_pointed hz (.truncated n)
  refine ⟨Decimal.hasPlaces_pointed hy (.truncated n), Decimal.denotes_pointed hy (.truncated n),
    ⟨_, hread y hy, Decimal.isGreatest_div_mul _ (Nat.pow_pos (by decide)), ?_⟩, ?_⟩
  · intro hall
    change Decimal.value y / unit * unit = Decimal.value y
    have hunit : unit = 1 := by
      change 10 ^ (places - shown) = 1
      rw [hall, Nat.sub_self, Nat.pow_zero]
    rw [hunit, Nat.div_one, Nat.mul_one]
  · intro z hz hle
    exact ⟨_, _, hread y hy, hread z hz, Nat.mul_le_mul_right unit (Nat.div_le_div_right hle)⟩

/-- A token and a quarter and some more, with a zero in front, to five places and to all of them. -/
theorem pointed_truncates_compact :
    let y := ['0', '1', '2', '5', '6', '7', '8', '9'] ++ List.replicate 18 '0'
    let z := '2' :: List.replicate 24 '0'
    IsDigits y ∧ IsDigits z ∧ Decimal.value y = 1256789 * 10 ^ 18 ∧
      Decimal.value y ≤ Decimal.value z ∧
      pointed (.truncated 5) y = ['1', '.', '2', '5', '6', '7', '8'] ∧
      HasPlaces 5 ['1', '.', '2', '5', '6', '7', '8'] ∧
      (∃ a, ofHuman "1.25678" = .ok a ∧
        IsGreatest {units | 10 ^ 19 ∣ units ∧ units ≤ 1256789 * 10 ^ 18} a.units) ∧
      (∃ a b, ofHuman "1.25678" = .ok a ∧ ofHuman "2.00000" = .ok b ∧ a ≤ b) ∧
      min 30 places = places ∧
      ∃ a, ofHuman (String.ofList (pointed (.truncated 30) y)) = .ok a ∧
        a.units = 1256789 * 10 ^ 18 := by
  intro y z
  have hy : IsDigits y := by decide
  have hz : IsDigits z := by decide
  have hvalue : Decimal.value y = 1256789 * 10 ^ 18 := by decide
  have hle : Decimal.value y ≤ Decimal.value z := by decide
  have htext : pointed (.truncated 5) y = ['1', '.', '2', '5', '6', '7', '8'] := by decide
  have htext' : pointed (.truncated 5) z = ['2', '.', '0', '0', '0', '0', '0'] := by decide
  have hall : min 30 places = places := by decide
  obtain ⟨hplaces, -, ⟨a, hread, hgreatest, -⟩, hmono⟩ := pointed_truncates y 5 hy
  obtain ⟨b, c, hb, hc, hbc⟩ := hmono z hz hle
  obtain ⟨-, -, ⟨d, hd, -, hexact⟩, -⟩ := pointed_truncates y 30 hy
  rw [htext] at hplaces hread hb
  rw [htext'] at hc
  rw [hvalue] at hgreatest hexact
  exact ⟨hy, hz, hvalue, hle, htext, hplaces, ⟨a, hread, hgreatest⟩, ⟨b, c, hb, hc, hbc⟩, hall, d,
    hd, hexact hall⟩

end Amount

end SwapDesk
