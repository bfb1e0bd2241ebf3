import SwapDesk.Proofs.Settings.Document
import SwapDesk.Proofs.Text.Blank

/-!
# Simple documents in INI

Lines of a name and a text outside of all sections. Each is read in two steps, the name up to its
sign and then the text.
-/

namespace SwapDesk.Ini

open Settings

variable {s : List Char} {name : String}

private theorem textUntil?_append {stop : Stop} {c : Char} (hstop : stop.isAt c) (hc : c ≠ '\\')
    (hs : ∀ d ∈ s, stop.isAt d = false ∧ d ≠ '\\') (rest : List Char) :
    textUntil? stop (s ++ c :: rest) = some (s, c :: rest) := by
  induction s with
  | nil =>
    rw [List.nil_append, textUntil?]
    · exact if_pos hstop
    · rintro _ _ _ _ _ rfl
      contradiction
    · rintro _ _ rfl
      contradiction
  | cons d s ih =>
    obtain ⟨⟨hd, hslash⟩, hs⟩ := List.forall_mem_cons.mp hs
    rw [List.cons_append, textUntil?]
    · rw [if_neg (by rw [hd]; exact Bool.false_ne_true), if_neg hslash, ih hs]
      rfl
    · rintro _ _ _ _ _ rfl
      contradiction
    · rintro _ _ rfl
      contradiction

private theorem name_eq_cons (h : name ∈ names) :
    ∃ c rest, name.toList = c :: rest ∧ c.isLower := by
  obtain ⟨hne, hhead, -⟩ := name_chars h
  obtain ⟨c, rest, hname⟩ := List.exists_cons_of_ne_nil hne
  rw [hname] at hhead
  exact ⟨c, rest, hname, hhead⟩

private theorem trim_visible (h : ∀ c ∈ s, isVisible c) : Text.trim s = s :=
  Text.trim_of_no_blanks fun c hc => not_isBlank_of_isVisible (h c hc)

private theorem value?_visible (h : ∀ c ∈ s, isVisible c) (rest : List Char) :
    value? ('"' :: (s ++ '"' :: '\n' :: rest)) = some (String.ofList s, '\n' :: rest) := by
  have hchars : ∀ c ∈ s, Stop.isAt c (.quote '"') = false ∧ c ≠ '\\' := by
    intro c hc
    have hquote : c ≠ '"' := ne_of_isVisible (h c hc) (by decide)
    exact ⟨decide_eq_false hquote, ne_of_isVisible (h c hc) (by decide)⟩
  have hquoted : textUntil? (.quote '"') (s ++ '"' :: '\n' :: rest) =
      some (s, '"' :: '\n' :: rest) := textUntil?_append rfl (by decide) hchars _
  have hline : textUntil? .line ('\n' :: rest) = some ([], '\n' :: rest) := by
    simp [textUntil?, Stop.isAt]
  change (textUntil? (.quote '"') (s ++ '"' :: '\n' :: rest)).bind _ = _
  rw [hquoted, Option.bind_some]
  change (textUntil? .line ('\n' :: rest)).bind _ = _
  rw [hline]
  change some (String.ofList (Text.trim (s ++ [])), '\n' :: rest) = _
  rw [List.append_nil, trim_visible h]

private theorem statements?_name (hname : name ∈ names) (fuel : Nat) (atStart : Bool)
    (rest : List Char) :
    statements? (fuel + 1) "" atStart (name.toList ++ '=' :: rest) =
      statements? fuel name false ('=' :: rest) := by
  have hnames : ∀ name ∈ names, name.toList.all fun c => !Stop.isAt c .sign && c != '\\' := by
    decide
  have hchars : ∀ c ∈ name.toList, Stop.isAt c .sign = false ∧ c ≠ '\\' := by
    simpa using List.all_eq_true.mp (hnames name hname)
  have htext : textUntil? .sign (name.toList ++ '=' :: rest) = some (name.toList, '=' :: rest) :=
    textUntil?_append rfl (by decide) hchars rest
  have htrim : Text.trim name.toList = name.toList := trim_visible (name_chars hname).2.2
  have hskip : skipBlanks atStart (name.toList ++ '=' :: rest) =
      (atStart, name.toList ++ '=' :: rest) := by
    rcases eq_of_mem_names hname with rfl | rfl | rfl | rfl <;> rfl
  obtain ⟨c, more, hcons, hc⟩ := name_eq_cons hname
  have hne : ∀ d, d.isLower = false → c ≠ d := fun _ => ne_of_isLower hc
  rw [statements?, hskip]
  rw [hcons, List.cons_append] at htext ⊢
  dsimp only
  rw [if_neg (not_or.mpr ⟨hne _ (by decide), hne _ (by decide)⟩), if_neg (hne _ (by decide)),
    if_neg (not_or.mpr ⟨hne _ (by decide), hne _ (by decide)⟩), htext, ← hcons]
  change statements? fuel (String.ofList (Text.trim name.toList)) false _ = _
  rw [htrim, String.ofList_toList]

private theorem statements?_text (hname : name ∈ names) (hs : ∀ c ∈ s, isVisible c) (fuel : Nat)
    (rest : List Char) :
    statements? (fuel + 1) name false ('=' :: '"' :: (s ++ '"' :: '\n' :: rest)) =
      (statements? fuel "" true rest).map (.value name (String.ofList s) :: ·) := by
  have hempty : ∀ name ∈ names, name ≠ "" := by decide
  have hline : statements? fuel "" false ('\n' :: rest) = statements? fuel "" true rest := by
    cases fuel with
    | zero => rfl
    | succ fuel => rw [statements?, statements?, show skipBlanks false ('\n' :: rest) =
        skipBlanks true rest from rfl]
  rw [statements?, show skipBlanks false ('=' :: '"' :: (s ++ '"' :: '\n' :: rest)) =
    (false, '=' :: '"' :: (s ++ '"' :: '\n' :: rest)) from rfl]
  dsimp only
  rw [if_neg (by decide), if_neg (by decide), if_pos (by decide), if_neg (hempty name hname),
    value?_visible hs]
  change (statements? fuel "" false ('\n' :: rest)).bind _ = _
  rw [hline]
  cases statements? fuel "" true rest <;> rfl

private theorem statements?_written {entries : List (String × String)} (h : IsSimple entries)
    {fuel : Nat} (hfuel : 2 * entries.length < fuel) (atStart : Bool) :
    statements? fuel "" atStart (written "=\"" "\"\n" entries) =
      some (entries.map fun entry => .value entry.1 entry.2) := by
  induction entries generalizing fuel atStart with
  | nil =>
    cases fuel with
    | zero => exact absurd hfuel (Nat.not_lt_zero _)
    | succ fuel => rfl
  | cons entry entries ih =>
    rw [List.length_cons] at hfuel
    obtain ⟨fuel, rfl⟩ : ∃ less, fuel = less + 1 + 1 := ⟨fuel - 2, by omega⟩
    rw [written_cons]
    change statements? (fuel + 1 + 1) "" atStart (entry.1.toList ++
      '=' :: '"' :: (entry.2.toList ++ '"' :: '\n' :: written "=\"" "\"\n" entries)) = _
    rw [statements?_name h.head_named, statements?_text h.head_named h.head_visible,
      ih h.tail (by omega), String.ofList_toList]
    rfl

private theorem sections_values (entries : List (String × String)) :
    sections (entries.map fun entry => .value entry.1 entry.2) = (fieldsOf entries, []) := by
  induction entries with
  | nil => rfl
  | cons entry entries ih =>
    rw [List.map_cons, sections, ih]
    rfl

theorem parse?_written {entries : List (String × String)} (h : IsSimple entries) :
    parse? (String.ofList (written "=\"" "\"\n" entries)) =
      some (.ofFields (fieldsOf entries)) := by
  have hlength : entries.length * 5 ≤ _ := length_le_written h "=\"" "\"\n"
  have hstatements := statements?_written h
    (show 2 * entries.length < (written "=\"" "\"\n" entries).length + 1 by omega) true
  rw [parse?, String.toList_ofList]
  dsimp only
  rw [hstatements]
  change some (Json.ofFields ((sections _).1 ++ (sections _).2)) = _
  rw [sections_values]
  exact congrArg (some <| Json.ofFields ·) (List.append_nil _)

end SwapDesk.Ini
