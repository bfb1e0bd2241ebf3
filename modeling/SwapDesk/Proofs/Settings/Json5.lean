import SwapDesk.Proofs.Settings.Document

/-!
# Simple documents in JSON5

An object of keys without quotes, with a comma after each of its fields.
-/

namespace SwapDesk.Json5

open Settings

variable {s : List Char} {name : String}

private theorem skipSpace_cons {c : Char} (hspace : isSpace c = false) (hslash : c ≠ '/')
    (rest : List Char) : skipSpace (c :: rest) = c :: rest := by
  rw [skipSpace, skip, List.dropWhile_cons_of_neg (by rw [hspace]; exact Bool.false_ne_true)]
  split
  · next heq =>
    cases heq
    contradiction
  · next heq =>
    cases heq
    contradiction
  · rfl

private theorem skipSpace_written {entries : List (String × String)} (h : IsSimple entries)
    (between ending : String) : skipSpace (written between ending entries ++ ['\x7d']) =
      written between ending entries ++ ['\x7d'] := by
  cases entries with
  | nil => rfl
  | cons entry entries =>
    rw [written_cons, List.append_assoc]
    rcases eq_of_mem_names h.head_named with hname | hname | hname | hname <;>
    · rw [hname]
      exact skipSpace_cons (by decide) (by decide) _

private theorem pieces?_visible (h : ∀ c ∈ s, isVisible c) (rest : List Char) :
    pieces? '"' (s ++ '"' :: rest) = some (s.map .character, rest) := by
  induction s with
  | nil => rfl
  | cons c s ih =>
    obtain ⟨hc, hs⟩ := List.forall_mem_cons.mp h
    have hslash : c ≠ '\\' := ne_of_isVisible hc (by decide)
    have hend : isLineEnd c = false := by
      simp only [isLineEnd, Bool.or_eq_false_iff, decide_eq_false_iff_not]
      exact ⟨⟨⟨ne_of_isVisible hc (by decide), ne_of_isVisible hc (by decide)⟩,
        ne_of_isVisible hc (by decide)⟩, ne_of_isVisible hc (by decide)⟩
    rw [List.cons_append, pieces?]
    · rw [if_neg (ne_of_isVisible hc (by decide)), hend,
        if_neg (not_or.mpr ⟨hslash, Bool.false_ne_true⟩), ih hs]
      rfl
    all_goals
      intros
      contradiction

private theorem joined?_characters (s : List Char) :
    Json.Grammar.joined? (s.map .character) = some s := by
  induction s with
  | nil => rfl
  | cons c s ih =>
    rw [List.map_cons, Json.Grammar.joined?, ih]
    rfl

private theorem value?_text (h : ∀ c ∈ s, isVisible c) (fuel : Nat) (rest : List Char) :
    value? (fuel + 1) ('"' :: (s ++ '"' :: rest)) = some (.string (String.ofList s), rest) := by
  have hstring : string? '"' (s ++ '"' :: rest) = some (String.ofList s, rest) := by
    rw [string?, pieces?_visible h]
    change (Json.Grammar.joined? (s.map .character)).bind _ = _
    rw [joined?_characters]
    rfl
  change (string? '"' (s ++ '"' :: rest)).bind _ = _
  rw [hstring]
  rfl

private theorem key?_name (hname : name ∈ names) (rest : List Char) :
    key? (name.toList ++ ':' :: rest) = some (name, ':' :: rest) := by
  rcases eq_of_mem_names hname with rfl | rfl | rfl | rfl <;> rfl

private theorem fields?_entry (hname : name ∈ names) (hs : ∀ c ∈ s, isVisible c) (fuel : Nat)
    (rest : List Char) :
    fields? (fuel + 2) (name.toList ++ ':' :: '"' :: (s ++ '"' :: ',' :: rest)) =
      (fields? (fuel + 1) (skipSpace rest)).map
        (Prod.map ((name, .string (String.ofList s)) :: ·) id) := by
  have hclose : ∀ rest', name.toList ++ ':' :: '"' :: (s ++ '"' :: ',' :: rest) ≠
      '\x7d' :: rest' := by
    rcases eq_of_mem_names hname with rfl | rfl | rfl | rfl <;> intro _ heq <;> cases heq
  rw [fields?, key?_name hname]
  · change (value? (fuel + 1) (skipSpace ('"' :: (s ++ '"' :: ',' :: rest)))).bind _ = _
    rw [skipSpace_cons (by decide) (by decide), value?_text hs]
    change (fields? (fuel + 1) (skipSpace rest)).bind _ = _
    cases fields? (fuel + 1) (skipSpace rest) <;> rfl
  · exact hclose

private theorem fields?_written {entries : List (String × String)} (h : IsSimple entries)
    {fuel : Nat} (hfuel : entries.length + 1 < fuel) :
    fields? fuel (written ":\"" "\"," entries ++ ['\x7d']) = some (fieldsOf entries, []) := by
  induction entries generalizing fuel with
  | nil =>
    cases fuel with
    | zero => exact absurd hfuel (Nat.not_lt_zero _)
    | succ fuel => rfl
  | cons entry entries ih =>
    rw [List.length_cons] at hfuel
    obtain ⟨fuel, rfl⟩ : ∃ less, fuel = less + 2 := ⟨fuel - 2, by omega⟩
    have hdocument : written ":\"" "\"," (entry :: entries) ++ ['\x7d'] = entry.1.toList ++
        ':' :: '"' :: (entry.2.toList ++
          '"' :: ',' :: (written ":\"" "\"," entries ++ ['\x7d'])) := by
      simp [written_cons]
    rw [hdocument, fields?_entry h.head_named h.head_visible, skipSpace_written h.tail,
      ih h.tail (by omega), String.ofList_toList]
    rfl

theorem parse?_written {entries : List (String × String)} (h : IsSimple entries) :
    parse? (String.ofList ('\x7b' :: (written ":\"" "\"," entries ++ ['\x7d']))) =
      some (.ofFields (fieldsOf entries)) := by
  have hlength : entries.length * 5 ≤ _ := length_le_written h ":\"" "\","
  obtain ⟨fuel, hfuel⟩ : ∃ fuel,
      2 * ('\x7b' :: (written ":\"" "\"," entries ++ ['\x7d'])).length + 2 = fuel + 1 := ⟨_, rfl⟩
  have hfields := fields?_written h (show entries.length + 1 < fuel by
    simp only [List.length_cons, List.length_append, List.length_nil] at hfuel
    omega)
  have hvalue : value? (fuel + 1) ('\x7b' :: (written ":\"" "\"," entries ++ ['\x7d'])) =
      (fields? fuel (skipSpace (written ":\"" "\"," entries ++ ['\x7d']))).bind
        fun read => some (.ofFields read.1, read.2) := rfl
  rw [skipSpace_written h, hfields] at hvalue
  rw [parse?, String.toList_ofList, skipSpace_cons (by decide) (by decide), hfuel]
  dsimp only
  rw [hvalue]
  rfl

end SwapDesk.Json5
