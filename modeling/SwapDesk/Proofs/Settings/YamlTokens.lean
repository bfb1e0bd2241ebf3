import Mathlib.Data.List.TakeWhile
import SwapDesk.Proofs.Settings.Document

/-!
# The tokens of simple documents in YAML

Lines of a name and a text. A line is read in three tokens, the name, the colon and the text. The
colon makes the name a key, and that of the first line opens the map of the document.
-/

namespace SwapDesk.Yaml

open Settings

variable {s rest : List Char} {name : String}

/-! ## Places -/

private theorem skip_append (h : '\n' ∉ s) (rest : List Char) (index line column : Nat) :
    Cursor.skip s.length ⟨s ++ rest, index, line, column⟩ =
      ⟨rest, index + s.length, line, column + s.length⟩ := by
  induction s generalizing index column with
  | nil => rfl
  | cons c s ih =>
    rw [List.mem_cons, not_or] at h
    rw [List.length_cons, Cursor.skip, List.cons_append]
    have hnext : Cursor.next ⟨c :: (s ++ rest), index, line, column⟩ =
        ⟨s ++ rest, index + 1, line, column + 1⟩ := by
      rw [Cursor.next]
      split
      · contradiction
      · next heq =>
        cases heq
        exact absurd rfl h.1
      · next heq =>
        cases heq
        rfl
    rw [hnext, ih h.2]
    simp only [Cursor.mk.injEq, true_and]
    omega

private theorem moveTo_append (h : '\n' ∉ s) (rest : List Char) (index line column : Nat) :
    Cursor.moveTo rest ⟨s ++ rest, index, line, column⟩ =
      ⟨rest, index + s.length, line, column + s.length⟩ := by
  rw [Cursor.moveTo, List.length_append, Nat.add_sub_cancel, skip_append h]

/-! ## Words -/

private theorem quoted?_visible (h : ∀ c ∈ s, isVisible c) {fuel : Nat} (hfuel : s.length < fuel)
    (rest : List Char) : quoted? '"' fuel (s ++ '"' :: rest) = some (s, rest) := by
  induction s generalizing fuel with
  | nil =>
    cases fuel with
    | zero => exact absurd hfuel (Nat.not_lt_zero _)
    | succ fuel => cases rest <;> rfl
  | cons c s ih =>
    obtain ⟨hc, hs⟩ := List.forall_mem_cons.mp h
    cases fuel with
    | zero => exact absurd hfuel (Nat.not_lt_zero _)
    | succ fuel =>
      have hspace : isSpace c = false := by
        simp only [isSpace, isGap, isBreak, Bool.or_eq_false_iff, decide_eq_false_iff_not]
        exact ⟨⟨ne_of_isVisible hc (by decide), ne_of_isVisible hc (by decide)⟩,
          ne_of_isVisible hc (by decide), ne_of_isVisible hc (by decide)⟩
      rw [List.cons_append, quoted?.eq_def]
      dsimp only
      rw [if_neg (ne_of_isVisible hc (by decide)), hspace, if_neg Bool.false_ne_true,
        if_neg (fun hslash => ne_of_isVisible hc (by decide) hslash.1),
        ih hs (Nat.lt_of_succ_lt_succ hfuel)]
      rfl

private theorem plain?_name (hname : name ∈ names) (least fuel index line column : Nat) :
    plain? false least (fuel + 1) ⟨name.toList ++ ':' :: ' ' :: rest, index, line, column⟩ =
      some ((name.toList, false),
        ⟨':' :: ' ' :: rest, index + name.toList.length, line, column + name.toList.length⟩) := by
  have hword : plainWord false (name.toList ++ ':' :: ' ' :: rest) = name.toList := by
    rcases eq_of_mem_names hname with rfl | rfl | rfl | rfl <;> rfl
  have hbreak : ∀ name ∈ names, '\n' ∉ name.toList := by decide
  rw [plain?]
  dsimp only
  rw [hword, skip_append (hbreak name hname)]
  rfl

/-! ## Tokens -/

def entryTokens (entry : String × String) : List Token :=
  [.key, .plain entry.1.toList, .value, .text entry.2.toList]

namespace Lexer

private theorem dropStale?_eq_self {l : Lexer} (houter : l.outer = [])
    (hfresh : ∀ candidate ∈ l.candidate, candidate.isStale l.cursor = false) :
    l.dropStale? = some l := by
  obtain ⟨cursor, tokens, keyAllowed, candidate, outer, columns, quotedEnd⟩ := l
  dsimp only at houter
  subst houter
  cases candidate with
  | none => rfl
  | some candidate =>
    have h := hfresh candidate rfl
    simp [dropStale?, h]

private theorem closeFrom_eq_self {l : Lexer} {column : Nat}
    (hcolumns : ∀ other ∈ l.columns, other < column) : l.closeFrom column = l := by
  have hnone : l.columns.takeWhile (column ≤ ·) = [] := by
    cases hl : l.columns with
    | nil => rfl
    | cons other columns =>
      have hlt := hcolumns other (hl ▸ List.mem_cons_self)
      exact List.takeWhile_cons_of_neg (by simpa using hlt)
  rw [closeFrom, hnone]
  simp

/-- A token that starts where the blanks end and deeper than all collections. -/
private theorem run?_token {l l' : Lexer} {c : Char} {after : List Char}
    (hskip : l.skipSpace (l.cursor.rest.length + 1) = l') (houter : l'.outer = [])
    (hfresh : ∀ candidate ∈ l'.candidate, candidate.isStale l'.cursor = false)
    (hcolumns : ∀ column ∈ l'.columns, column ≤ l'.cursor.column)
    (hrest : l'.cursor.rest = c :: after) (fuel : Nat) :
    run? (fuel + 1) l = (l'.token? c after).bind (run? fuel) := by
  have hclose : l'.closeFrom (l'.cursor.column + 1) = l' :=
    closeFrom_eq_self fun column hcolumn => Nat.lt_succ_of_le (hcolumns column hcolumn)
  rw [run?, hskip, dropStale?_eq_self houter hfresh, Option.bind_eq_bind, Option.bind_some, hclose]
  dsimp only
  rw [hrest]

/-- At the beginning of a line, with these tokens and open collections before it. -/
private def atLine (rest : List Char) (index line : Nat) (tokens : List Token)
    (columns : List Nat) (quotedEnd : Nat) : Lexer where
  cursor := ⟨rest, index, line, 0⟩
  tokens := tokens.toArray
  keyAllowed := true
  candidate := none
  outer := []
  columns := columns
  quotedEnd := quotedEnd

/-- After the name that starts a line. -/
private def afterName (name : String) (rest : List Char) (index line : Nat) (tokens : List Token)
    (columns : List Nat) (quotedEnd : Nat) : Lexer where
  cursor := ⟨rest, index + name.toList.length, line, name.toList.length⟩
  tokens := (tokens ++ [Token.plain name.toList]).toArray
  keyAllowed := false
  candidate := some ⟨tokens.length, ⟨name.toList ++ rest, index, line, 0⟩, false⟩
  outer := []
  columns := columns
  quotedEnd := quotedEnd

/-- After a colon or a text in the map of the document. -/
private def inLine (cursor : Cursor) (tokens : List Token) (quotedEnd : Nat) : Lexer where
  cursor := cursor
  tokens := tokens.toArray
  keyAllowed := false
  candidate := none
  outer := []
  columns := [0]
  quotedEnd := quotedEnd

variable {columns : List Nat} {fuel index line column quotedEnd : Nat} {tokens : List Token}

private theorem token?_letter {c : Char} (hc : c.isLower) (after : List Char) (l : Lexer) :
    l.token? c after = l.plainText? := by
  have hne : ∀ d, d.isLower = false → c ≠ d := fun _ => ne_of_isLower hc
  have hmark : ∀ d, d.isLower = false → startsMark d (c :: after) = false := by
    intro d hd
    simp [startsMark, hne d hd]
  simp only [token?, hmark '-' rfl, hmark '.' rfl, hne '%' rfl, hne '[' rfl, hne '\x7b' rfl,
    hne ']' rfl, hne '\x7d' rfl, hne ',' rfl, hne '-' rfl, hne '?' rfl, hne ':' rfl, hne '*' rfl,
    hne '&' rfl, hne '!' rfl, hne '|' rfl, hne '>' rfl, hne '\'' rfl, hne '"' rfl, hne '@' rfl,
    hne '\x60' rfl, false_and, and_false, or_false, if_false, Bool.false_eq_true]

private theorem plainText?_name (hname : name ∈ names) :
    (atLine (name.toList ++ ':' :: ' ' :: rest) index line tokens columns quotedEnd).plainText? =
      some (afterName name (':' :: ' ' :: rest) index line tokens columns quotedEnd) := by
  have hstart : (atLine (name.toList ++ ':' :: ' ' :: rest) index line tokens columns
      quotedEnd).startCandidate? =
      some { atLine (name.toList ++ ':' :: ' ' :: rest) index line tokens columns quotedEnd with
        candidate := some ⟨tokens.length, ⟨name.toList ++ ':' :: ' ' :: rest, index, line, 0⟩,
          false⟩ } := rfl
  rw [plainText?, hstart, Option.bind_eq_bind, Option.bind_some]
  change (plain? false _ (_ + 1) ⟨name.toList ++ ':' :: ' ' :: rest, index, line, 0⟩).bind _ = _
  rw [plain?_name hname]
  simp [afterName, atLine, push]

private theorem run?_name (hname : name ∈ names) (hcolumns : columns = [] ∨ columns = [0]) :
    run? (fuel + 1) (atLine (name.toList ++ ':' :: ' ' :: rest) index line tokens columns
      quotedEnd) =
    run? fuel (afterName name (':' :: ' ' :: rest) index line tokens columns quotedEnd) := by
  have hskip : skipSpace ((name.toList ++ ':' :: ' ' :: rest).length + 1)
      (atLine (name.toList ++ ':' :: ' ' :: rest) index line tokens columns quotedEnd) =
      atLine (name.toList ++ ':' :: ' ' :: rest) index line tokens columns quotedEnd := by
    rcases eq_of_mem_names hname with rfl | rfl | rfl | rfl <;> rfl
  obtain ⟨hne, hhead, -⟩ := name_chars hname
  obtain ⟨c, more, hcons⟩ := List.exists_cons_of_ne_nil hne
  have hc : c.isLower := by rwa [hcons] at hhead
  have hrest : name.toList ++ ':' :: ' ' :: rest = c :: (more ++ ':' :: ' ' :: rest) := by
    rw [hcons, List.cons_append]
  rw [run?_token hskip rfl nofun (by rcases hcolumns with rfl | rfl <;> simp [atLine]) hrest,
    token?_letter hc, plainText?_name hname]
  rfl

/-- What the colon after the name of a line opens. -/
private def opened (columns : List Nat) : List Token := if columns = [] then [.blockMap] else []

private theorem value?_name (hcolumns : columns = [] ∨ columns = [0]) :
    (afterName name (':' :: ' ' :: rest) index line tokens columns quotedEnd).value? =
      some (inLine ⟨' ' :: rest, index + name.toList.length + 1, line, name.toList.length + 1⟩
        (tokens ++ opened columns ++ [.key, .plain name.toList, .value]) quotedEnd) := by
  rcases hcolumns with rfl | rfl <;>
  · simp [value?, afterName, inLine, insert, openBlock, push, sign, opened, inFlow, least]
    rfl

private theorem run?_colon (hname : name ∈ names) (hcolumns : columns = [] ∨ columns = [0]) :
    run? (fuel + 1) (afterName name (':' :: ' ' :: rest) index line tokens columns quotedEnd) =
      run? fuel (inLine
        ⟨' ' :: rest, index + name.toList.length + 1, line, name.toList.length + 1⟩
        (tokens ++ opened columns ++ [.key, .plain name.toList, .value]) quotedEnd) := by
  let l := afterName name (':' :: ' ' :: rest) index line tokens columns quotedEnd
  have hskip : l.skipSpace (l.cursor.rest.length + 1) = l := rfl
  have hfresh : ∀ candidate ∈ l.candidate, candidate.isStale l.cursor = false := by
    have hshort : ∀ name ∈ names, name.toList.length ≤ longestKey := by decide
    have hlength := hshort name hname
    rintro candidate ⟨⟩
    simp [l, afterName, Candidate.isStale]
    omega
  have hdeep : ∀ column ∈ l.columns, column ≤ l.cursor.column := by
    rcases hcolumns with rfl | rfl <;> simp [l, afterName]
  have htoken : l.token? ':' (' ' :: rest) = l.value? := by
    simp [token?, startsMark, endsKey, endsWord, isSpace, isGap]
  rw [run?_token hskip rfl hfresh hdeep rfl, htoken, value?_name hcolumns]
  rfl

private theorem quotedText?_visible (hs : ∀ c ∈ s, isVisible c) :
    (inLine ⟨'"' :: (s ++ '"' :: '\n' :: rest), index, line, column⟩ tokens
      quotedEnd).quotedText? '"' (s ++ '"' :: '\n' :: rest) =
      some (inLine ⟨'\n' :: rest, index + (s.length + 2), line, column + (s.length + 2)⟩
        (tokens ++ [.text s]) (index + (s.length + 2))) := by
  have hbreak : '\n' ∉ '"' :: (s ++ ['"']) := by
    have hnot : '\n' ∉ s := fun hmem => ne_of_isVisible (hs _ hmem) (by decide) rfl
    simpa using hnot
  have hmove : Cursor.moveTo ('\n' :: rest)
      ⟨'"' :: (s ++ '"' :: '\n' :: rest), index, line, column⟩ =
      ⟨'\n' :: rest, index + (s.length + 2), line, column + (s.length + 2)⟩ := by
    simpa using moveTo_append hbreak ('\n' :: rest) index line column
  have hquoted : quoted? '"' ((s ++ '"' :: '\n' :: rest).length + 1) (s ++ '"' :: '\n' :: rest) =
      some (s, '\n' :: rest) := by
    apply quoted?_visible hs
    simp only [List.length_append, List.length_cons]
    omega
  rw [quotedText?, hquoted, Option.bind_eq_bind, Option.bind_some]
  dsimp only
  rw [word?, show startCandidate? (inLine ⟨'"' :: (s ++ '"' :: '\n' :: rest), index, line, column⟩
    tokens quotedEnd) = some _ from rfl]
  simp [inLine, hmove, push]

private theorem run?_text (hs : ∀ c ∈ s, isVisible c) :
    run? (fuel + 1)
        (inLine ⟨' ' :: '"' :: (s ++ '"' :: '\n' :: rest), index, line, column⟩ tokens quotedEnd) =
      run? fuel (inLine
        ⟨'\n' :: rest, index + 1 + (s.length + 2), line, column + 1 + (s.length + 2)⟩
        (tokens ++ [.text s]) (index + 1 + (s.length + 2))) := by
  have hskip : skipSpace ((' ' :: '"' :: (s ++ '"' :: '\n' :: rest)).length + 1)
      (inLine ⟨' ' :: '"' :: (s ++ '"' :: '\n' :: rest), index, line, column⟩ tokens quotedEnd) =
      inLine ⟨'"' :: (s ++ '"' :: '\n' :: rest), index + 1, line, column + 1⟩ tokens quotedEnd :=
    rfl
  have htoken : ∀ (l : Lexer) (after : List Char),
      l.token? '"' after = l.quotedText? '"' after := by
    intro l after
    simp [token?, startsMark]
  rw [run?_token hskip rfl (by rintro _ ⟨⟩) (by simp [inLine]) rfl, htoken, quotedText?_visible hs]
  rfl

private theorem run?_break :
    run? fuel (inLine ⟨'\n' :: rest, index, line, column⟩ tokens quotedEnd) =
      run? fuel (atLine rest (index + 1) (line + 1) tokens [0] quotedEnd) := by
  cases fuel with
  | zero => rfl
  | succ fuel =>
    have hbreak : (Cursor.mk ('\n' :: rest) index line column).skipBreak =
        ⟨rest, index + 1, line + 1, 0⟩ := by
      change Cursor.moveTo rest _ = _
      rw [Cursor.moveTo, List.length_cons, Nat.add_sub_cancel_left]
      rfl
    have hskip : skipSpace (('\n' :: rest).length + 1)
        (inLine ⟨'\n' :: rest, index, line, column⟩ tokens quotedEnd) =
        skipSpace (rest.length + 1) (atLine rest (index + 1) (line + 1) tokens [0] quotedEnd) := by
      rw [skipSpace, atLine, ← hbreak]
      rfl
    rw [run?, run?]
    change (do
      let l ← (skipSpace (('\n' :: rest).length + 1) _).dropStale?
      _) = _
    rw [hskip]
    rfl

/-- A line is read in three tokens, and then stands the next one. -/
private theorem run?_line (hname : name ∈ names) (hs : ∀ c ∈ s, isVisible c)
    (hcolumns : columns = [] ∨ columns = [0]) (fuel index line quotedEnd : Nat)
    (tokens : List Token) (rest : List Char) :
    ∃ index' quotedEnd', run? (fuel + 3)
        (atLine (name.toList ++ (": \"".toList ++ (s ++ ("\"\n".toList ++ rest)))) index line tokens
          columns quotedEnd) =
      run? fuel (atLine rest index' (line + 1)
        (tokens ++ opened columns ++ [.key, .plain name.toList, .value] ++ [.text s]) [0]
        quotedEnd') :=
  ⟨_, _, (run?_name hname hcolumns).trans <| (run?_colon hname hcolumns).trans <|
    (run?_text hs).trans run?_break⟩

private theorem run?_nil : run? (fuel + 1) (atLine [] index line tokens [0] quotedEnd) =
    some (atLine [] index line (tokens ++ [.blockEnd]) [] quotedEnd) := by
  have hclose : closeFrom 1 (atLine [] index line tokens [0] quotedEnd) =
      atLine [] index line tokens [0] quotedEnd := closeFrom_eq_self (by simp [atLine])
  change (closeFrom 0 (closeFrom 1 (atLine [] index line tokens [0] quotedEnd))).dropCandidate? = _
  rw [hclose]
  simp [closeFrom, atLine, inFlow, dropCandidate?]

private theorem run?_written {entries : List (String × String)} (h : IsSimple entries)
    (hfuel : 3 * entries.length < fuel) :
    ∃ l, run? fuel (atLine (written ": \"" "\"\n" entries) index line tokens [0] quotedEnd) =
        some l ∧
      l.tokens = (tokens ++ entries.flatMap entryTokens ++ [Token.blockEnd]).toArray := by
  induction entries generalizing fuel index line tokens quotedEnd with
  | nil =>
    obtain ⟨fuel, rfl⟩ := Nat.exists_eq_add_one_of_ne_zero (Nat.ne_of_gt hfuel)
    rw [List.flatMap_nil, List.append_nil]
    exact ⟨_, run?_nil, rfl⟩
  | cons entry entries ih =>
    rw [List.length_cons] at hfuel
    obtain ⟨fuel, rfl⟩ : ∃ less, fuel = less + 3 := ⟨fuel - 3, by omega⟩
    obtain ⟨index', quotedEnd', hline⟩ := run?_line h.head_named h.head_visible (Or.inr rfl) fuel
      index line quotedEnd tokens (written ": \"" "\"\n" entries)
    obtain ⟨l, hl, htokens⟩ := ih h.tail (show 3 * entries.length < fuel by omega)
    rw [written_cons, hline]
    refine ⟨l, hl, ?_⟩
    rw [htokens]
    simp [opened, entryTokens]

end Lexer

/-- The name of the first line opens the map of the document. -/
theorem tokens?_written {entries : List (String × String)} (h : IsSimple entries)
    (hne : entries ≠ []) : tokens? (written ": \"" "\"\n" entries) =
      some (.blockMap :: (entries.flatMap entryTokens ++ [.blockEnd])) := by
  have hnull : (written ": \"" "\"\n" entries).takeWhile (· ≠ '\x00') =
      written ": \"" "\"\n" entries := by
    have hnot : '\x00' ∉ written ": \"" "\"\n" entries :=
      not_mem_written h (by decide) (by decide) (by decide)
    rw [List.takeWhile_eq_self_iff]
    intro c hc
    exact decide_eq_true fun heq => hnot (heq ▸ hc)
  have hlength : entries.length * 6 ≤ _ := length_le_written h ": \"" "\"\n"
  rw [tokens?, hnull]
  generalize hfuel : (written ": \"" "\"\n" entries).length + 1 = fuel
  -- No collection is open before the first line, and the map is open before all others.
  obtain ⟨entry, entries, rfl⟩ := List.exists_cons_of_ne_nil hne
  rw [List.length_cons] at hlength
  obtain ⟨fuel, rfl⟩ : ∃ less, fuel = less + 3 := ⟨fuel - 3, by omega⟩
  obtain ⟨index, quotedEnd, hline⟩ := Lexer.run?_line h.head_named h.head_visible (Or.inl rfl) fuel
    0 0 0 [] (written ": \"" "\"\n" entries)
  obtain ⟨l, hl, htokens⟩ := Lexer.run?_written h.tail (show 3 * entries.length < fuel by omega)
  have hrun : Lexer.run? (fuel + 3) (.start (written ": \"" "\"\n" (entry :: entries))) =
      some l := by
    rw [written_cons]
    exact hline.trans hl
  rw [hrun]
  dsimp only [Option.bind_eq_bind, Option.bind_some]
  rw [htokens]
  simp [Lexer.opened, entryTokens]

end SwapDesk.Yaml
