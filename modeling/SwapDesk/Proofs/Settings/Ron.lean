import SwapDesk.Proofs.Settings.Document

/-!
# Simple documents in RON

A record without a name, of a field for each text, with a comma after each of them. A record
without fields stands for no value.
-/

namespace SwapDesk.Ron

open Settings

variable {s : List Char} {name : String}

private theorem skipSpace_cons {c : Char} (hspace : Json.Grammar.isSpace c = false)
    (hslash : c ≠ '/') (rest : List Char) : skipSpace (c :: rest) = c :: rest := by
  rw [skipSpace, skip, List.dropWhile_cons_of_neg (by rw [hspace]; exact Bool.false_ne_true)]
  split
  · next heq =>
    cases heq
    contradiction
  · next heq =>
    cases heq
    contradiction
  · rfl

private theorem stringRest?_visible (h : ∀ c ∈ s, isVisible c) {fuel : Nat}
    (hfuel : s.length < fuel) (rest : List Char) :
    stringRest? fuel (s ++ '"' :: rest) = some (s, rest) := by
  induction s generalizing fuel with
  | nil =>
    cases fuel with
    | zero => exact absurd hfuel (Nat.not_lt_zero _)
    | succ fuel => rfl
  | cons c s ih =>
    obtain ⟨hc, hs⟩ := List.forall_mem_cons.mp h
    cases fuel with
    | zero => exact absurd hfuel (Nat.not_lt_zero _)
    | succ fuel =>
      rw [List.cons_append, stringRest?, ih hs (Nat.lt_of_succ_lt_succ hfuel)]
      · rfl
      · exact ne_of_isVisible hc (by decide)
      · exact ne_of_isVisible hc (by decide)

private theorem content?_text (h : ∀ c ∈ s, isVisible c) (fuel : Nat) (rest : List Char) :
    content? false (fuel + 1) ('"' :: (s ++ '"' :: rest)) = some (.ofText s, rest) := by
  change (stringRest? ((s ++ '"' :: rest).length + 1) (s ++ '"' :: rest)).bind _ = _
  rw [stringRest?_visible h]
  · rfl
  · simp only [List.length_append, List.length_cons]
    omega

private theorem name?_name (hname : name ∈ names) (rest : List Char) :
    name? (name.toList ++ ':' :: rest) = some (name.toList, ':' :: rest) := by
  rcases eq_of_mem_names hname with rfl | rfl | rfl | rfl <;> rfl

private theorem fieldContent?_text (h : ∀ c ∈ s, isVisible c) (fuel : Nat) (rest : List Char) :
    fieldContent? false (fuel + 2) (':' :: '"' :: (s ++ '"' :: rest)) = some (.ofText s, rest) := by
  rw [fieldContent?, skipSpace_cons (by decide) (by decide)]
  change content? false (fuel + 1) (skipSpace ('"' :: (s ++ '"' :: rest))) = _
  rw [skipSpace_cons (by decide) (by decide), content?_text h]

private theorem skipSpace_written {entries : List (String × String)} (h : IsSimple entries)
    (between ending : String) : skipSpace (written between ending entries ++ [')']) =
      written between ending entries ++ [')'] := by
  cases entries with
  | nil => rfl
  | cons entry entries =>
    rw [written_cons, List.append_assoc]
    rcases eq_of_mem_names h.head_named with hname | hname | hname | hname <;>
    · rw [hname]
      exact skipSpace_cons (by decide) (by decide) _

private theorem recordFields?_entry (hname : name ∈ names) (hs : ∀ c ∈ s, isVisible c) (fuel : Nat)
    (rest : List Char) :
    recordFields? false (fuel + 3) (name.toList ++ ':' :: '"' :: (s ++ '"' :: ',' :: rest)) =
      (recordFields? false (fuel + 2) (skipSpace rest)).map
        (Prod.map ((.ofText name.toList, .ofText s) :: ·) id) := by
  have hhead : ∀ name ∈ names, name.toList.head? ≠ some ')' := by decide
  obtain ⟨hne, -, -⟩ := name_chars hname
  rw [recordFields?, List.head?_append_of_ne_nil _ hne, if_neg (hhead name hname), name?_name hname]
  change (fieldContent? false (fuel + 2)
    (':' :: '"' :: (s ++ '"' :: ',' :: rest))).bind _ = _
  rw [fieldContent?_text hs]
  dsimp only [Option.bind_eq_bind, Option.bind_some]
  rw [skipSpace_cons (by decide) (by decide)]
  change (recordFields? false (fuel + 2) (skipSpace rest)).bind _ = _
  cases recordFields? false (fuel + 2) (skipSpace rest) <;> rfl

private theorem recordFields?_written {entries : List (String × String)} (h : IsSimple entries)
    {fuel : Nat} (hfuel : entries.length + 2 < fuel) :
    recordFields? false fuel (written ":\"" "\"," entries ++ [')']) =
      some (entries.map fun entry => (.ofText entry.1.toList, .ofText entry.2.toList), []) := by
  induction entries generalizing fuel with
  | nil =>
    cases fuel with
    | zero => exact absurd hfuel (Nat.not_lt_zero _)
    | succ fuel => rfl
  | cons entry entries ih =>
    rw [List.length_cons] at hfuel
    obtain ⟨fuel, rfl⟩ : ∃ less, fuel = less + 3 := ⟨fuel - 3, by omega⟩
    have hdocument : written ":\"" "\"," (entry :: entries) ++ [')'] = entry.1.toList ++
        ':' :: '"' :: (entry.2.toList ++ '"' :: ',' :: (written ":\"" "\"," entries ++ [')'])) := by
      simp [written_cons]
    rw [hdocument, recordFields?_entry h.head_named h.head_visible, skipSpace_written h.tail,
      ih h.tail (by omega)]
    rfl

private theorem ofFields_entries (entries : List (String × String)) :
    Content.ofFields (entries.map fun entry => (.ofText entry.1.toList, .ofText entry.2.toList)) =
      some (.ofFields (fieldsOf entries)) := by
  have hnamed : (entries.map fun entry => (Content.ofText entry.1.toList,
      Content.ofText entry.2.toList)).mapM (fun field : Content × Content =>
        field.1.bind fun key => key.string?.bind fun name => some (name, field.2)) =
      some (entries.map fun entry => (entry.1, some (.string entry.2))) := by
    induction entries with
    | nil => rfl
    | cons entry entries ih =>
      rw [List.map_cons, List.mapM_cons, ih]
      simp [Content.ofText, Json.string?]
  have hread := mapM_sortFields id (fun s => some (.string s)) (fun _ => rfl) entries
  refine (congrArg (Option.bind · _) hnamed).trans ?_
  exact congrArg (Option.bind · fun fields => some (Json.object fields)) hread

private theorem content?_bracket (hname : name ∈ names) (fuel : Nat) (rest : List Char) :
    content? false (fuel + 2) ('(' :: (name.toList ++ ':' :: rest)) =
      (recordFields? false fuel (name.toList ++ ':' :: rest)).map (Prod.map .ofFields id) := by
  have hbracket : content? false (fuel + 2) ('(' :: (name.toList ++ ':' :: rest)) =
      brackets? false (fuel + 1) (name.toList ++ ':' :: rest) := by
    rcases eq_of_mem_names hname with rfl | rfl | rfl | rfl <;> rfl
  rw [hbracket, brackets?, name?_name hname]
  dsimp only
  rw [Option.any_some, skipSpace_cons (by decide) (by decide)]
  change (recordFields? false fuel (name.toList ++ ':' :: rest)).bind _ = _
  cases recordFields? false fuel (name.toList ++ ':' :: rest) <;> rfl

theorem parse?_written {entries : List (String × String)} (h : IsSimple entries)
    (hne : entries ≠ []) :
    parse? (String.ofList ('(' :: (written ":\"" "\"," entries ++ [')']))) =
      some (.ofFields (fieldsOf entries)) := by
  have hlength : entries.length * 5 ≤ _ := length_le_written h ":\"" "\","
  obtain ⟨fuel, hfuel⟩ : ∃ fuel, 4 * ('(' :: (written ":\"" "\"," entries ++ [')'])).length + 4 =
    fuel + 2 := ⟨_, rfl⟩
  have hfields := recordFields?_written h (show entries.length + 2 < fuel by
    simp only [List.length_cons, List.length_append, List.length_nil] at hfuel
    omega)
  have hcontent : content? false (fuel + 2) ('(' :: (written ":\"" "\"," entries ++ [')'])) =
      (recordFields? false fuel (written ":\"" "\"," entries ++ [')'])).map
        (Prod.map .ofFields id) := by
    obtain ⟨entry, entries, rfl⟩ := List.exists_cons_of_ne_nil hne
    rw [written_cons, List.append_assoc]
    exact content?_bracket h.head_named fuel _
  rw [parse?, String.toList_ofList, skipSpace_cons (by decide) (by decide)]
  change (content? false (4 * _ + 4) ('(' :: _)).bind _ = _
  rw [hfuel, hcontent, hfields]
  exact ofFields_entries entries

end SwapDesk.Ron
