import Mathlib.Data.List.Basic
import Mathlib.Tactic.SplitIfs
import SwapDesk.Amount.Error
import SwapDesk.Text.Columns
import SwapDesk.Text.Split

/-!
# Lines

Cutting a text at a character is the cutting of lists, so that the pieces put together are the text
again and lines that are written one after the other are found again. What an error message shows
of a text has no line break in it, and aligned rows are one line each.
-/

namespace SwapDesk.Text

variable {separator : Char}

theorem splitAt_eq_splitOn (separator : Char) (s : List Char) :
    splitAt separator s = s.splitOn separator := by
  induction s with
  | nil => rfl
  | cons c s ih =>
    obtain ⟨piece, pieces, hpieces⟩ := List.exists_cons_of_ne_nil (List.splitOn_ne_nil separator s)
    rw [splitAt, ih, hpieces, List.splitOn_cons_eq_if_modifyHead, hpieces]
    simp only [beq_iff_eq, List.modifyHead_cons]

theorem mem_of_mem_splitOn {s piece : List Char} {c : Char} (h : piece ∈ s.splitOn separator)
    (hc : c ∈ piece) : c ∈ s ∧ c ≠ separator := by
  induction s generalizing piece with
  | nil =>
    rw [List.splitOn_nil, List.mem_singleton] at h
    rw [h] at hc
    contradiction
  | cons d s ih =>
    obtain ⟨first, pieces, hpieces⟩ := List.exists_cons_of_ne_nil (List.splitOn_ne_nil separator s)
    rw [List.splitOn_cons_eq_if_modifyHead, hpieces, List.modifyHead_cons] at h
    rw [hpieces] at ih
    have hrest : ∀ {other}, other ∈ first :: pieces → c ∈ other → c ∈ d :: s ∧ c ≠ separator :=
      fun hother hmem => (ih hother hmem).imp_left (List.mem_cons_of_mem d)
    split at h
    · rcases List.mem_cons.mp h with rfl | h
      · contradiction
      · exact hrest h hc
    · next hd =>
      rcases List.mem_cons.mp h with rfl | h
      · rcases List.mem_cons.mp hc with rfl | hc
        · exact ⟨List.mem_cons_self, by simpa using hd⟩
        · exact hrest List.mem_cons_self hc
      · exact hrest (List.mem_cons_of_mem _ h) hc

theorem not_mem_of_mem_splitOn {s piece : List Char} (h : piece ∈ s.splitOn separator) :
    separator ∉ piece :=
  fun hmem => (mem_of_mem_splitOn h hmem).2 rfl

theorem splitOn_lines {lines : List (List Char)} (h : ∀ line ∈ lines, separator ∉ line) :
    (lines.flatMap (· ++ [separator])).splitOn separator = lines ++ [[]] := by
  induction lines with
  | nil => rfl
  | cons line lines ih =>
    rw [List.forall_mem_cons] at h
    rw [List.flatMap_cons, List.append_assoc, List.singleton_append,
      List.splitOn_append_cons_self_of_not_mem h.1, ih h.2]
    rfl

/-! ## Messages -/

private theorem newline_ne_digitChar (d : Nat) : '\n' ≠ Nat.digitChar d := by
  have hsmall : ∀ d < 16, '\n' ≠ Nat.digitChar d := by decide
  rcases Nat.lt_or_ge d 16 with hd | hd
  · exact hsmall d hd
  · have hstar : Nat.digitChar d = '*' := by
      obtain ⟨k, rfl⟩ := Nat.exists_eq_add_of_le hd
      rw [Nat.add_comm]
      rfl
    rw [hstar]
    decide

private theorem newline_not_mem_toDigits {b n : Nat} (hb : 1 < b) : '\n' ∉ Nat.toDigits b n := by
  induction n using Nat.strongRecOn with
  | ind n ih =>
    by_cases hn : n < b
    · rw [Nat.toDigits_of_lt_base hn, List.mem_singleton]
      exact newline_ne_digitChar n
    · have hle := Nat.le_of_not_lt hn
      rw [Nat.toDigits_of_base_le hb hle, List.mem_append, List.mem_singleton]
      exact not_or.mpr ⟨ih _ (Nat.div_lt_self (by omega) hb), newline_ne_digitChar _⟩

private theorem newline_not_mem_quotedChar (c : Char) : '\n' ∉ quotedChar c := by
  have hescape : '\n' ∉ escape '\'' c := by
    rw [escape]
    split_ifs with hnull htab hline hreturn hquote
    · decide
    · decide
    · decide
    · decide
    · rcases hquote with rfl | rfl <;> decide
    · rw [List.mem_singleton]
      exact Ne.symm hline
    · have hcode : '\n' ∉ Nat.toDigits 16 c.toNat := newline_not_mem_toDigits (by decide)
      simp only [escapeCode, List.mem_append, not_or]
      exact ⟨⟨by decide, hcode⟩, by decide⟩
  rw [quotedChar, List.mem_cons, List.mem_append]
  exact not_or.mpr ⟨by decide, not_or.mpr ⟨hescape, by decide⟩⟩

theorem newline_not_mem_message (fault : AmountFault) : '\n' ∉ fault.message.toList := by
  have hnumber : ∀ n : Nat, '\n' ∉ (toString n).toList := by
    intro n
    rw [Nat.toString_eq_ofList_toDigits, String.toList_ofList]
    exact newline_not_mem_toDigits (by decide)
  have happend : ∀ {a b : String},
      '\n' ∉ a.toList → '\n' ∉ b.toList → '\n' ∉ (a ++ b).toList := by
    intro a b ha hb
    rw [String.toList_append, List.mem_append]
    exact not_or.mpr ⟨ha, hb⟩
  cases fault with
  | unexpected c position =>
    have hquoted : '\n' ∉ (String.ofList (quotedChar c)).toList := by
      rw [String.toList_ofList]
      exact newline_not_mem_quotedChar c
    exact happend (happend (happend (by decide) hquoted) (by decide)) (hnumber position)
  | secondPoint => decide
  | tooPrecise n =>
    exact happend (happend (happend (hnumber n) (by decide)) (hnumber _)) (by decide)
  | noDigits => decide

/-! ## Aligned rows -/

namespace Columns

theorem length_align (rows : List Row) : (align rows).length = rows.length := by
  rw [align]
  generalize ([] : List Row) = above
  induction rows generalizing above with
  | nil => rfl
  | cons row below ih => rw [layRows, List.length_cons, List.length_cons, ih]

private theorem newline_not_mem_layCells {above below : List Row} {row : Row}
    {cells : List (List Char)} (h : ∀ cell ∈ cells, '\n' ∉ cell) (column : Nat) :
    '\n' ∉ layCells above row below column cells := by
  induction column, cells using layCells.induct with
  | case1 => exact List.not_mem_nil
  | case2 column cell => exact h cell List.mem_cons_self
  | case3 column cell rest _ ih =>
    rw [List.forall_mem_cons] at h
    rw [layCells]
    · simp [h.1, ih h.2]
    · assumption

theorem newline_not_mem_align {rows : List Row} (h : ∀ row ∈ rows, ∀ cell ∈ row, '\n' ∉ cell) :
    ∀ line ∈ align rows, '\n' ∉ line := by
  rw [align]
  generalize ([] : List Row) = above
  induction rows generalizing above with
  | nil => exact nofun
  | cons row below ih =>
    rw [List.forall_mem_cons] at h
    rw [layRows, List.forall_mem_cons]
    exact ⟨newline_not_mem_layCells h.1 0, ih h.2 _⟩

end Columns

end SwapDesk.Text
