import Mathlib.Order.Bounds.Basic
import SwapDesk.Proofs.Amount.Scale

/-!
# Refused texts

A text that does not scale is refused for its leftmost fault: the first character that keeps it
from being digits with one point. A text without such a fault is refused for the digits that its
number needs after the point.
-/

namespace SwapDesk.Decimal

/-- The character at this place of the text is neither a digit nor the first point. Before the
text there is a point if `pointed` holds. -/
structure FaultAt (pointed : Bool) (text : List Char) (place : Nat) (c : Char) : Prop where
  found : text[place]? = some c
  not_digit : c.isDigit = false
  not_first : c = '.' → pointed ∨ '.' ∈ text.take place

/-- No fault of the text stands further left. -/
structure FirstFault (pointed : Bool) (text : List Char) (place : Nat) (c : Char) : Prop where
  fault : FaultAt pointed text place c
  least : ∀ earlier < place, ∀ d, ¬ FaultAt pointed text earlier d

variable {pointed : Bool} {text : List Char} {place : Nat} {c d : Char}

private theorem faultAt_zero_iff :
    FaultAt pointed (d :: text) 0 c ↔ d = c ∧ c.isDigit = false ∧ (c = '.' → pointed) := by
  constructor
  · rintro ⟨hfound, hdigit, hfirst⟩
    exact ⟨by simpa using hfound, hdigit, by simpa using hfirst⟩
  · rintro ⟨rfl, hdigit, hfirst⟩
    exact ⟨rfl, hdigit, fun hc => .inl (hfirst hc)⟩

private theorem faultAt_succ_iff :
    FaultAt pointed (d :: text) (place + 1) c ↔ FaultAt (pointed || d = '.') text place c := by
  have hseen : (pointed ∨ '.' ∈ (d :: text).take (place + 1)) ↔
      ((pointed || d = '.') ∨ '.' ∈ text.take place) := by
    rw [List.take_succ_cons, List.mem_cons, Bool.or_eq_true, decide_eq_true_eq, or_assoc,
      @eq_comm _ '.' d]
  constructor
  · rintro ⟨hfound, hdigit, hfirst⟩
    exact ⟨by simpa using hfound, hdigit, fun hc => hseen.mp (hfirst hc)⟩
  · rintro ⟨hfound, hdigit, hfirst⟩
    exact ⟨by simpa using hfound, hdigit, fun hc => hseen.mpr (hfirst hc)⟩

private theorem firstFault_unique {p q : Nat} (hp : FirstFault pointed text p c)
    (hq : FirstFault pointed text q d) : p = q ∧ c = d := by
  have hpq : p = q := by
    rcases Nat.lt_trichotomy p q with h | h | h
    · exact absurd hp.fault (hq.least p h c)
    · exact h
    · exact absurd hq.fault (hp.least q h d)
  subst hpq
  exact ⟨rfl, Option.some.inj (hp.fault.found.symm.trans hq.fault.found)⟩

private theorem firstFault_cons_of_fault (h : FaultAt pointed (d :: text) 0 d) :
    FirstFault pointed (d :: text) place c ↔ place = 0 ∧ c = d := by
  have hzero : FirstFault pointed (d :: text) 0 d := ⟨h, nofun⟩
  constructor
  · exact fun hfirst => firstFault_unique hfirst hzero
  · rintro ⟨rfl, rfl⟩
    exact hzero

private theorem firstFault_cons_of_not_fault (h : ∀ e, ¬ FaultAt pointed (d :: text) 0 e) :
    FirstFault pointed (d :: text) place c ↔
      ∃ before, place = before + 1 ∧ FirstFault (pointed || d = '.') text before c := by
  constructor
  · rintro ⟨hfault, hleast⟩
    cases place with
    | zero => exact absurd hfault (h c)
    | succ before =>
      refine ⟨before, rfl, faultAt_succ_iff.mp hfault, fun earlier hlt e he => ?_⟩
      exact hleast (earlier + 1) (Nat.succ_lt_succ hlt) e (faultAt_succ_iff.mpr he)
  · rintro ⟨before, rfl, hfault, hleast⟩
    refine ⟨faultAt_succ_iff.mpr hfault, fun earlier hlt e he => ?_⟩
    cases earlier with
    | zero => exact h e he
    | succ earlier =>
      exact hleast earlier (Nat.lt_of_succ_lt_succ hlt) e (faultAt_succ_iff.mp he)

/-- What is told of a fault at a place of a text that starts at a position. -/
def faultOf (c : Char) (position : Nat) : AmountFault :=
  if c = '.' then .secondPoint else .unexpected c position

/-- The scan tells the leftmost fault, and where it stands. -/
theorem firstFault?_eq_some_iff {position : Nat} {fault : AmountFault} :
    firstFault? pointed position text = some fault ↔
      ∃ place c, FirstFault pointed text place c ∧ fault = faultOf c (position + place) := by
  induction text generalizing pointed position with
  | nil =>
    constructor
    · nofun
    · rintro ⟨place, c, hfirst, -⟩
      cases hfirst.fault.found
  | cons d text ih =>
    rw [firstFault?]
    by_cases hfault : FaultAt pointed (d :: text) 0 d
    · obtain ⟨-, hdigit, hpoint⟩ := faultAt_zero_iff.mp hfault
      simp only [firstFault_cons_of_fault hfault, hdigit, Bool.false_eq_true, if_false]
      have htold : (if d ≠ '.' then some (AmountFault.unexpected d position)
          else if pointed then some .secondPoint else firstFault? true (position + 1) text) =
          some (faultOf d position) := by
        by_cases hd : d = '.'
        · simp [hd, hpoint hd, faultOf]
        · simp [hd, faultOf]
      rw [htold]
      constructor
      · rintro ⟨⟩
        exact ⟨0, d, ⟨rfl, rfl⟩, rfl⟩
      · rintro ⟨_, _, ⟨rfl, rfl⟩, rfl⟩
        rfl
    · have hnone : ∀ e, ¬ FaultAt pointed (d :: text) 0 e := by
        intro e he
        obtain ⟨rfl, -⟩ := faultAt_zero_iff.mp he
        exact hfault he
      have hnext : (if d.isDigit then firstFault? pointed (position + 1) text
          else if d ≠ '.' then some (AmountFault.unexpected d position)
          else if pointed then some .secondPoint else firstFault? true (position + 1) text) =
          firstFault? (pointed || d = '.') (position + 1) text := by
        rw [faultAt_zero_iff] at hfault
        by_cases hd : d = '.'
        · subst hd
          cases pointed <;> simp_all
        · simp_all
      rw [hnext, ih]
      simp only [firstFault_cons_of_not_fault hnone]
      constructor
      · rintro ⟨place, c, hfirst, rfl⟩
        exact ⟨place + 1, c, ⟨place, rfl, hfirst⟩, by rw [Nat.add_right_comm, Nat.add_assoc]⟩
      · rintro ⟨_, c, ⟨place, rfl, hfirst⟩, rfl⟩
        exact ⟨place, c, hfirst, by rw [Nat.add_right_comm, Nat.add_assoc]⟩

/-! ## Digits that a number needs -/

theorem Denotes.isLeast_decimals {q : ℚ} (h : Denotes text q) :
    IsLeast {n | ∃ other, Denotes other q ∧ (decimals other).length = n}
      (fractionPart text).length := by
  obtain ⟨hfraction, hq⟩ := h.trimmed
  constructor
  · refine ⟨wholePart text ++ '.' :: fractionPart text, ?_, by rw [(parts_point _ h.parts.1).2]⟩
    rw [hq, ← value_add_div]
    exact .pointed h.parts.1 hfraction
  · rintro n ⟨other, hother, rfl⟩
    by_contra hlt
    apply h.not_units (Nat.lt_of_not_le hlt) (value (wholePart other ++ decimals other))
    rw [hother.parts.2.2]
    exact div_mul_cancel₀ _ (pow_ne_zero _ (by norm_num))

/-! ## Refusals -/

theorem scale_error_cases {s : List Char} {e : AmountError} (h : scale s = .error e) :
    e.input = String.ofList (Text.trim s) ∧
      (firstFault? false 0 (Text.trim s) = some e.fault ∨
        (∃ q, Denotes (Text.trim s) q) ∧ places < (fractionPart (Text.trim s)).length ∧
          e.fault = .tooPrecise (fractionPart (Text.trim s)).length) := by
  rw [scale_eq_scaleParts, scaleParts] at h
  cases hfault : firstFault? false 0 (Text.trim s) with
  | some fault =>
    simp only [hfault] at h
    cases h
    exact ⟨rfl, .inl rfl⟩
  | none =>
    simp only [hfault] at h
    split at h
    · next hlong =>
      cases h
      exact ⟨rfl, .inr ⟨(firstFault?_eq_none_iff 0 _).mp hfault, hlong, rfl⟩⟩
    · contradiction

/-- A text is refused for its leftmost fault. The refusal holds the text without the blanks around
it. It names a character and the place where that stands exactly if this is the first one that is
neither a digit nor the first point and it is no point, and it names a second point exactly if that
comes first. It names a number of digits exactly if the text is a decimal one, and then this is the
least number of digits after a point that its number can be written with, and more than there are
places. The parts of the whole text are refused in the same way. -/
theorem scale_refuses_leftmost {s : List Char} {e : AmountError} (h : scale s = .error e) :
    let text := Text.trim s
    e.input = String.ofList text ∧
    (∀ c place, e.fault = .unexpected c place ↔ FirstFault false text place c ∧ c ≠ '.') ∧
    (e.fault = .secondPoint ↔ ∃ place, FirstFault false text place '.') ∧
    ((∃ n, e.fault = .tooPrecise n) ↔ ∃ q, Denotes text q) ∧
    (∀ n, e.fault = .tooPrecise n → places < n ∧ ∃ q, Denotes text q ∧
      IsLeast {n | ∃ other, Denotes other q ∧ (decimals other).length = n} n) ∧
    scaleParts s = .error e := by
  intro text
  obtain ⟨hinput, hfault⟩ := scale_error_cases h
  refine ⟨hinput, ?_⟩
  rw [← scale_eq_scaleParts s]
  obtain hscan | ⟨⟨q, hq⟩, hlong, hprecise⟩ := hfault
  · obtain ⟨place, c, hfirst, htold⟩ := firstFault?_eq_some_iff.mp hscan
    rw [Nat.zero_add] at htold
    have hill : ¬ ∃ q, Denotes text q := by
      rw [← firstFault?_eq_none_iff 0, hscan]
      nofun
    have hsame : ∀ {p d}, FirstFault false text p d → p = place ∧ d = c :=
      fun hother => firstFault_unique hother hfirst
    by_cases hc : c = '.'
    · subst hc
      rw [htold]
      refine ⟨?_, ?_, ?_, nofun, h⟩
      · exact fun d p => ⟨nofun, fun hother => absurd (hsame hother.1).2 hother.2⟩
      · exact ⟨fun _ => ⟨place, hfirst⟩, fun _ => rfl⟩
      · exact ⟨nofun, fun hwell => absurd hwell hill⟩
    · rw [htold, faultOf, if_neg hc]
      refine ⟨?_, ?_, ?_, nofun, h⟩
      · intro d p
        constructor
        · rintro ⟨⟩
          exact ⟨hfirst, hc⟩
        · intro hother
          obtain ⟨rfl, rfl⟩ := hsame hother.1
          rfl
      · exact ⟨nofun, fun ⟨p, hother⟩ => absurd (hsame hother).2.symm hc⟩
      · exact ⟨nofun, fun hwell => absurd hwell hill⟩
  · have hnone : ∀ place c, ¬ FirstFault false text place c := by
      intro place c hfirst
      have hscan : firstFault? false 0 text = some (faultOf c (0 + place)) :=
        firstFault?_eq_some_iff.mpr ⟨place, c, hfirst, rfl⟩
      rw [(firstFault?_eq_none_iff 0 text).mpr ⟨q, hq⟩] at hscan
      contradiction
    rw [hprecise]
    refine ⟨?_, ?_, ?_, ?_, h⟩
    · exact fun c place => ⟨nofun, fun hfirst => absurd hfirst.1 (hnone place c)⟩
    · exact ⟨nofun, fun ⟨place, hfirst⟩ => absurd hfirst (hnone place '.')⟩
    · exact ⟨fun _ => ⟨q, hq⟩, fun _ => ⟨_, rfl⟩⟩
    · rintro n ⟨⟩
      exact ⟨hlong, q, hq, hq.isLeast_decimals⟩

/-- A letter behind zeros, a second point, and a fraction of 25 digits with a zero after them. -/
theorem scale_refuses_leftmost_zeros :
    let letter := [' ', '0', '0', 'é', '1', ',']
    let points := ['0', '1', '.', '2', '.', '3', '0']
    let precise := '0' :: '.' :: (List.replicate 24 '0' ++ ['1', '0'])
    scale letter = .error ⟨"00é1,", .unexpected 'é' 2⟩ ∧
      FirstFault false ['0', '0', 'é', '1', ','] 2 'é' ∧
      scaleParts letter = .error ⟨"00é1,", .unexpected 'é' 2⟩ ∧
      scale points = .error ⟨"01.2.30", .secondPoint⟩ ∧
      (∃ place, FirstFault false points place '.') ∧
      scale precise = .error ⟨String.ofList precise, .tooPrecise 25⟩ ∧
      places < 25 ∧ ∃ q, Denotes precise q ∧
        IsLeast {n | ∃ other, Denotes other q ∧ (decimals other).length = n} 25 := by
  intro letter points precise
  have hletter : scale letter = .error ⟨"00é1,", .unexpected 'é' 2⟩ := rfl
  have hpoints : scale points = .error ⟨"01.2.30", .secondPoint⟩ := rfl
  have hprecise : scale precise = .error ⟨String.ofList precise, .tooPrecise 25⟩ := rfl
  obtain ⟨-, hfirst, -, -, -, htrimmed⟩ := scale_refuses_leftmost hletter
  obtain ⟨-, -, hsecond, -⟩ := scale_refuses_leftmost hpoints
  obtain ⟨-, -, -, -, hleast, -⟩ := scale_refuses_leftmost hprecise
  obtain ⟨hlong, q, hq, hdigits⟩ := hleast 25 rfl
  exact ⟨hletter, ((hfirst 'é' 2).mp rfl).1, htrimmed, hpoints, hsecond.mp rfl, hprecise, hlong, q,
    hq, hdigits⟩

end SwapDesk.Decimal
