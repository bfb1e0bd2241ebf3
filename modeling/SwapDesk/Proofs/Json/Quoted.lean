import Mathlib.Tactic.SplitIfs
import SwapDesk.Json.Parser
import SwapDesk.Json.Printer

/-!
# Quoted strings

A string that has been written between quotes reads back. What is escaped of it stands for the
character that was escaped, so that no character ends the string and none is lost.
-/

namespace SwapDesk.Json.Grammar

/-- The part stands for the character, whatever follows it. -/
def Piece.IsFor (c : Char) (piece : Piece) : Prop :=
  ∀ more, joined? (piece :: more) = (joined? more).map (c :: ·)

private theorem Piece.character_isFor (c : Char) : (character c).IsFor c := fun _ => rfl

private theorem Piece.code_isFor {c : Char} (h : c.toNat < 0x20) : (code c.toNat).IsFor c := by
  intro more
  have htrailing : isTrailing c.toNat = false := by
    rw [isTrailing, Bool.and_eq_false_iff, decide_eq_false_iff_not]
    omega
  have hleading : isLeading c.toNat = false := by
    rw [isLeading, Bool.and_eq_false_iff, decide_eq_false_iff_not]
    omega
  rw [joined?.eq_def]
  simp only [htrailing, hleading, Bool.false_eq_true, if_false, Char.ofNat_toNat]

/-! ## The three ways a character is written -/

private theorem pieces?_short {c d : Char} (hd : shortEscape? c = some d) (hu : c ≠ 'u')
    (rest : List Char) :
    pieces? ('\\' :: c :: rest) =
      (pieces? rest).map fun read => (.character d :: read.1, read.2) := by
  rw [pieces?.eq_4 c rest (fun _ _ _ _ _ h _ => hu h), hd]
  cases pieces? rest <;> rfl

private theorem hexValue?_hexDigit {n : Nat} (h : n < 16) : hexValue? (hexDigit n) = some n := by
  have hall : ∀ n < 16, hexValue? (hexDigit n) = some n := by decide
  exact hall n h

private theorem pieces?_code {n : Nat} (h : n < 0x100) (rest : List Char) :
    pieces? ('\\' :: 'u' :: '0' :: '0' :: hexDigit (n / 16) :: hexDigit (n % 16) :: rest) =
      (pieces? rest).map fun read => (.code n :: read.1, read.2) := by
  have hhigh : hexValue? (hexDigit (n / 16)) = some (n / 16) := hexValue?_hexDigit (by omega)
  have hlow : hexValue? (hexDigit (n % 16)) = some (n % 16) := hexValue?_hexDigit (by omega)
  have hzero : hexValue? '0' = some 0 := by decide
  have hn : ((0 * 16 + 0) * 16 + n / 16) * 16 + n % 16 = n := by omega
  rw [pieces?, hzero, hhigh, hlow]
  simp only [Option.bind_eq_bind, Option.bind_some, hn]
  cases pieces? rest <;> rfl

private theorem pieces?_plain {c : Char} (hquote : c ≠ '"') (hslash : c ≠ '\\')
    (hcontrol : ¬ c.toNat < 0x20) (rest : List Char) :
    pieces? (c :: rest) = (pieces? rest).map fun read => (.character c :: read.1, read.2) := by
  rw [pieces?.eq_5 c rest hquote (fun _ _ _ _ _ h _ => hslash h) (fun _ _ h _ => hslash h),
    if_neg (not_or.mpr ⟨hcontrol, hslash⟩)]
  cases pieces? rest <;> rfl

private theorem escape_cases (c : Char) :
    (∃ d, escape c = ['\\', d] ∧ shortEscape? d = some c ∧ d ≠ 'u') ∨
    (c.toNat < 0x20 ∧
      escape c = ['\\', 'u', '0', '0', hexDigit (c.toNat / 16), hexDigit (c.toNat % 16)]) ∨
    (escape c = [c] ∧ c ≠ '"' ∧ c ≠ '\\' ∧ ¬ c.toNat < 0x20) := by
  rw [escape]
  split_ifs with hquote hslash hback htab hline hfeed hreturn hcontrol
  · exact .inl ⟨'"', rfl, by rw [hquote]; rfl, by decide⟩
  · exact .inl ⟨'\\', rfl, by rw [hslash]; rfl, by decide⟩
  · exact .inl ⟨'b', rfl, by rw [hback]; rfl, by decide⟩
  · exact .inl ⟨'t', rfl, by rw [htab]; rfl, by decide⟩
  · exact .inl ⟨'n', rfl, by rw [hline]; rfl, by decide⟩
  · exact .inl ⟨'f', rfl, by rw [hfeed]; rfl, by decide⟩
  · exact .inl ⟨'r', rfl, by rw [hreturn]; rfl, by decide⟩
  · exact .inr (.inl ⟨hcontrol, rfl⟩)
  · exact .inr (.inr ⟨rfl, hquote, hslash, hcontrol⟩)

private theorem pieces?_escape (c : Char) (rest : List Char) :
    ∃ piece : Piece, piece.IsFor c ∧
      pieces? (escape c ++ rest) = (pieces? rest).map fun read => (piece :: read.1, read.2) := by
  obtain ⟨d, hd, hc, hu⟩ | ⟨hcontrol, hcode⟩ | ⟨hplain, hquote, hslash, hcontrol⟩ := escape_cases c
  · rw [hd]
    exact ⟨.character c, Piece.character_isFor c, pieces?_short hc hu rest⟩
  · rw [hcode]
    exact ⟨.code c.toNat, Piece.code_isFor hcontrol, pieces?_code (by omega) rest⟩
  · rw [hplain]
    exact ⟨.character c, Piece.character_isFor c, pieces?_plain hquote hslash hcontrol rest⟩

/-! ## Strings -/

private theorem pieces?_flatMap_escape (s rest : List Char) :
    ∃ parts, joined? parts = some s ∧
      pieces? (s.flatMap escape ++ '"' :: rest) = some (parts, rest) := by
  induction s with
  | nil => exact ⟨[], rfl, rfl⟩
  | cons c s ih =>
    obtain ⟨parts, hjoined, hparts⟩ := ih
    obtain ⟨piece, hpiece, hread⟩ := pieces?_escape c (s.flatMap escape ++ '"' :: rest)
    refine ⟨piece :: parts, ?_, ?_⟩
    · rw [hpiece, hjoined]
      rfl
    · rw [List.flatMap_cons, List.append_assoc, hread, hparts]
      rfl

theorem stringRest?_flatMap_escape (s : String) (rest : List Char) :
    stringRest? (s.toList.flatMap escape ++ '"' :: rest) = some (some s, rest) := by
  obtain ⟨parts, hjoined, hparts⟩ := pieces?_flatMap_escape s.toList rest
  rw [stringRest?, hparts]
  simp only [Option.bind_eq_bind, Option.bind_some, hjoined, Option.map_some, String.ofList_toList]

private theorem newline_ne_hexDigit {n : Nat} (h : n < 16) : '\n' ≠ hexDigit n := by
  have hall : ∀ n < 16, '\n' ≠ hexDigit n := by decide
  exact hall n h

theorem newline_not_mem_quote (s : String) : '\n' ∉ quote s := by
  rw [quote, List.mem_cons, List.mem_append, List.mem_flatMap]
  rintro (h | ⟨c, -, hc⟩ | h)
  · contradiction
  · obtain ⟨d, hd, hshort, -⟩ | ⟨hcontrol, hcode⟩ | ⟨hplain, -, -, hcontrol⟩ := escape_cases c
    · rw [hd] at hc
      obtain rfl : '\n' = d := by simpa using hc
      have hnone : shortEscape? '\n' = none := rfl
      rw [hnone] at hshort
      contradiction
    · rw [hcode] at hc
      have hhigh := newline_ne_hexDigit (n := c.toNat / 16) (by omega)
      have hlow := newline_ne_hexDigit (n := c.toNat % 16) (by omega)
      simp [hhigh, hlow] at hc
    · rw [hplain, List.mem_singleton] at hc
      subst hc
      exact hcontrol (by decide)
  · exact absurd h (by decide)

end SwapDesk.Json.Grammar
