import SwapDesk.Proofs.Amount.Canonical
import SwapDesk.Proofs.Amount.RoundTrip
import SwapDesk.Proofs.Decimal.Significant

/-!
# Amounts as they are displayed

The text in which an amount is displayed has no needless character: every other text of the same
number, with digits before its point, is this one with zeros in front of it or with more at its
end. So it is the only text of its form and the shortest one, and amounts are displayed alike
exactly if they are equal.
-/

namespace SwapDesk

namespace Decimal

variable {s t : List Char} {q : ℚ}

/-- A decimal text with no needless character: the digits of a number and, if there is a fraction,
a point and digits of which the last is not zero. -/
inductive IsReduced : List Char → Prop
  | whole {a : List Char} : IsCanonical a → IsReduced a
  | pointed {a b : List Char} : IsCanonical a → IsDigits b → b ≠ [] → b.getLast? ≠ some '0' →
      IsReduced (a ++ '.' :: b)

/-- The significant digits of a decimal text, with a zero before the point if nothing else is. -/
def reduce (s : List Char) : List Char :=
  digits (value (wholePart s)) ++ afterPoint (fractionPart s)

private theorem reduce_eq_of_denotes (hs : Denotes s q) (ht : Denotes t q) :
    reduce s = reduce t := by
  obtain ⟨hwhole, hfraction⟩ := hs.digits_unique ht
  rw [reduce, hwhole, hfraction, reduce]

private theorem IsReduced.reduce_eq (hs : IsReduced s) : reduce s = s := by
  cases hs with
  | whole ha =>
    rw [reduce, (parts_digits ha.1).1, fractionPart_of_no_point ha.1.no_point, ha.digits_value]
    exact List.append_nil _
  | @pointed a b ha hb hne hlast =>
    obtain ⟨hwhole, hdecimals⟩ := parts_point b ha.1
    have hkept : Text.dropEndWhile (· == '0') b = b := by
      rw [Text.dropEndWhile_eq_rdropWhile, List.rdropWhile_eq_self_iff]
      intro h hzero
      rw [List.getLast?_eq_some_getLast h] at hlast
      exact hlast (congrArg some (eq_of_beq hzero))
    rw [reduce, fractionPart, hwhole, hdecimals, hkept, ha.digits_value, afterPoint,
      if_neg hne]

theorem IsReduced.unique (hs : IsReduced s) (ht : IsReduced t) (hsq : Denotes s q)
    (htq : Denotes t q) : s = t := by
  rw [← hs.reduce_eq, reduce_eq_of_denotes hsq htq, ht.reduce_eq]

private theorem exists_zeros_digits (hs : IsDigits s) (hne : s ≠ []) :
    ∃ n, s = List.replicate n '0' ++ digits (value s) := by
  obtain ⟨n, hn⟩ := zeros_dropZeros s
  by_cases hv : value s = 0
  · rw [(dropZeros_eq_nil_iff hs).mpr hv, List.append_nil] at hn
    cases n with
    | zero => exact absurd hn hne
    | succ n => exact ⟨n, by rw [hv, hn, List.replicate_succ']; rfl⟩
  · exact ⟨n, by rwa [digits_value_eq_dropZeros hs hv]⟩

/-- A decimal text with digits before its point is the reduced one behind zeros, and with more at
its end. -/
private theorem Denotes.exists_padding (hs : Denotes s q) (hne : wholePart s ≠ []) :
    ∃ n ending, s = List.replicate n '0' ++ (reduce s ++ ending) := by
  obtain ⟨n, hn⟩ := exists_zeros_digits hs.parts.1 hne
  cases hs with
  | whole ha =>
    refine ⟨n, [], ?_⟩
    rw [reduce, fractionPart_of_no_point ha.no_point]
    rw [(parts_digits ha).1] at hn ⊢
    simpa [afterPoint] using hn
  | @pointed a b ha hb =>
    obtain ⟨hwhole, hdecimals⟩ := parts_point b ha
    obtain ⟨k, hk⟩ := Text.dropEndWhile_zeros b
    rw [hwhole] at hn
    rw [reduce, fractionPart, hwhole, hdecimals, afterPoint]
    split
    · exact ⟨n, '.' :: b, by rw [List.append_nil, ← List.append_assoc, ← hn]⟩
    · refine ⟨n, List.replicate k '0', ?_⟩
      conv_lhs => rw [hn, hk]
      simp

/-- A reduced text is shorter than all others of its number that have digits before the point. -/
theorem IsReduced.length_lt (ht : IsReduced t) (htq : Denotes t q) (hsq : Denotes s q)
    (hwhole : wholePart s ≠ []) (hne : s ≠ t) : t.length < s.length := by
  obtain ⟨n, ending, hs⟩ := hsq.exists_padding hwhole
  rw [reduce_eq_of_denotes hsq htq, ht.reduce_eq] at hs
  by_contra hle
  have hlength := congrArg List.length hs
  simp only [List.length_append, List.length_replicate] at hlength
  have hn : n = 0 := by omega
  have hending : ending = [] := List.length_eq_zero_iff.mp (by omega)
  rw [hn, hending, List.append_nil] at hs
  exact hne hs

/-! ## The shortest text -/

private theorem isReduced_shortest {y : List Char} (hy : IsDigits y) : IsReduced (shortest y) := by
  rw [shortest_eq hy, afterPoint]
  split
  · rw [List.append_nil]
    exact .whole (isCanonical_digits _)
  · next hne =>
    refine .pointed (isCanonical_digits _) (isDigits_shortFraction _) hne ?_
    have hlast : ((shortFraction (value y)).getLast hne == '0') = false :=
      Text.getLast_dropEndWhile hne
    rw [List.getLast?_eq_some_getLast hne]
    simpa using hlast

private theorem decimals_afterPoint {a : List Char} (ha : IsDigits a) (b : List Char) :
    decimals (a ++ afterPoint b) = b := by
  rw [afterPoint]
  split
  · next hnil => rw [hnil, List.append_nil, (parts_digits ha).2]
  · exact (parts_point b ha).2

private theorem length_decimals_shortest {y : List Char} (hy : IsDigits y) :
    (decimals (shortest y)).length ≤ places := by
  obtain ⟨k, hk⟩ := fractionText_eq_shortFraction (value y)
  rw [shortest_eq hy, decimals_afterPoint (isDigits_digits _), ← length_fractionText (value y), hk,
    List.length_append]
  exact Nat.le_add_right ..

end Decimal

namespace Amount

open Decimal (Denotes IsReduced decimals places wholePart)

theorem isReduced_display (a : Amount) : IsReduced a.display.toList := by
  rw [display, String.toList_ofList]
  exact Decimal.isReduced_shortest a.isCanonical.1

theorem denotes_display (a : Amount) : Denotes a.display.toList (a.units / 10 ^ places) := by
  have h := Decimal.denotes_shortest a.isCanonical.1
  rwa [value_eq_units, ← String.toList_ofList (l := Decimal.shortest a.digits)] at h

theorem display_inj {a b : Amount} : a.display = b.display ↔ a = b := by
  constructor
  · intro h
    have hread := a.ofHuman_display
    rw [h, b.ofHuman_display, Except.ok.injEq] at hread
    exact hread.symm
  · rintro rfl
    rfl

theorem ofHuman_eq_iff {text other : String} {a b : Amount} (ha : ofHuman text = .ok a)
    (hb : ofHuman other = .ok b) :
    a = b ↔ ∃ q, Denotes (Text.trim text.toList) q ∧ Denotes (Text.trim other.toList) q := by
  obtain ⟨p, hp, hunits⟩ := ofHuman_eq_ok_iff.mp ha
  obtain ⟨q, hq, hunits'⟩ := ofHuman_eq_ok_iff.mp hb
  constructor
  · rintro rfl
    have hpq : p = q := by
      apply mul_right_cancel₀ (pow_ne_zero places (by norm_num : (10 : ℚ) ≠ 0))
      rw [hunits, hunits']
    exact ⟨p, hp, hpq ▸ hq⟩
  · rintro ⟨r, hr, hr'⟩
    rw [hp.unique hr] at hunits
    rw [hq.unique hr', hunits, Nat.cast_inj] at hunits'
    rw [mk.injEq, hunits']

/-- An amount is displayed as the only reduced text of its number, with as many digits after the
point as there are places at most, and all other texts of the number with digits before the point
are longer. The text reads as the amount. So of texts that are read the amounts are displayed alike
exactly if the texts write one number, and to read a text and display it once more changes nothing
after the first time. -/
theorem display_shortest :
    (∀ a : Amount,
      let text := a.display.toList
      let number : ℚ := a.units / 10 ^ places
      IsReduced text ∧ (decimals text).length ≤ places ∧ Denotes text number ∧
      (∀ other, IsReduced other → Denotes other number → other = text) ∧
      (∀ other, Denotes other number → wholePart other ≠ [] → other ≠ text →
        text.length < other.length) ∧
      ofHuman a.display = .ok a) ∧
    (∀ text other a b, ofHuman text = .ok a → ofHuman other = .ok b →
      (a.display = b.display ↔
        ∃ q, Denotes (Text.trim text.toList) q ∧ Denotes (Text.trim other.toList) q)) ∧
    ∀ text shown, (ofHuman text).map display = .ok shown →
      (ofHuman shown).map display = .ok shown := by
  refine ⟨fun a => ⟨a.isReduced_display, ?_, a.denotes_display, ?_, ?_, a.ofHuman_display⟩, ?_, ?_⟩
  · rw [display, String.toList_ofList]
    exact Decimal.length_decimals_shortest a.isCanonical.1
  · exact fun other hother hnumber =>
      hother.unique a.isReduced_display hnumber a.denotes_display
  · exact fun other => a.isReduced_display.length_lt a.denotes_display
  · intro text other a b ha hb
    rw [display_inj, ofHuman_eq_iff ha hb]
  · intro text shown h
    cases hread : ofHuman text with
    | error e =>
      rw [hread] at h
      contradiction
    | ok a =>
      rw [hread] at h
      cases h
      rw [a.ofHuman_display]
      rfl

/-- A token and a half, with a blank and zeros around it and without them. -/
theorem display_shortest_spellings :
    let amount : Amount := ⟨15 * 10 ^ 23⟩
    let number : ℚ := amount.units / 10 ^ places
    ofHuman " 01.50" = .ok amount ∧ ofHuman "1.5" = .ok amount ∧ amount.display = "1.5" ∧
      IsReduced ['1', '.', '5'] ∧ Denotes ['1', '.', '5'] number ∧
      ['1', '.', '5'] = amount.display.toList ∧
      Denotes ['0', '1', '.', '5', '0'] number ∧ amount.display.toList.length < 5 ∧
      (∃ q, Denotes (Text.trim " 01.50".toList) q ∧ Denotes (Text.trim "1.5".toList) q) ∧
      (ofHuman " 01.50").map display = .ok "1.5" ∧ (ofHuman "1.5").map display = .ok "1.5" := by
  intro amount number
  have hpadded : ofHuman " 01.50" = .ok amount := by rfl
  have hplain : ofHuman "1.5" = .ok amount := by rfl
  have hdisplay : amount.display = "1.5" := by decide
  have hshown : (ofHuman " 01.50").map display = .ok "1.5" := by
    rw [hpadded, Except.map, hdisplay]
  have hvalue : number = 3 / 2 := by
    change ((15 * 10 ^ 23 : ℕ) : ℚ) / 10 ^ 24 = 3 / 2
    norm_num
  have hreduced : IsReduced ['1', '.', '5'] :=
    .pointed (a := ['1']) (b := ['5']) (by unfold Decimal.IsCanonical; decide) (by decide)
      (by decide) (by decide)
  have hnumber : Denotes ['1', '.', '5'] number :=
    .of_digits (a := ['1']) (b := ['5']) (n := 15) (by decide) rfl (by rw [hvalue]; norm_num)
  have hnumber' : Denotes ['0', '1', '.', '5', '0'] number :=
    .of_digits (a := ['0', '1']) (b := ['5', '0']) (n := 150) (by decide) rfl
      (by rw [hvalue]; norm_num)
  obtain ⟨hform, hsame, hagain⟩ := display_shortest
  obtain ⟨-, -, -, honly, hshortest, -⟩ := hform amount
  have htext := honly _ hreduced hnumber
  exact ⟨hpadded, hplain, hdisplay, hreduced, hnumber, htext, hnumber',
    hshortest _ hnumber' (by decide) (by rw [← htext]; decide),
    (hsame _ _ _ _ hpadded hplain).mp rfl, hshown, hagain _ _ hshown⟩

end Amount

end SwapDesk
