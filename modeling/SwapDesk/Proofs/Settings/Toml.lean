import SwapDesk.Proofs.Settings.Document

/-!
# Simple documents in TOML

Lines of a name and a text. Each line adds one field to the open table, which is that of the
document.
-/

namespace SwapDesk.Toml

open Settings

variable {s rest : List Char}

private theorem content?_visible (h : ∀ c ∈ s, isVisible c) {fuel : Nat} (hfuel : s.length < fuel) :
    content? '"' false fuel (s ++ '"' :: rest) = some (s, rest) := by
  induction s generalizing fuel with
  | nil =>
    cases fuel with
    | zero => exact absurd hfuel (Nat.not_lt_zero _)
    | succ fuel => simp [content?]
  | cons c s ih =>
    obtain ⟨hc, hs⟩ := List.forall_mem_cons.mp h
    cases fuel with
    | zero => exact absurd hfuel (Nat.not_lt_zero _)
    | succ fuel =>
      have hplain : isPlain c ∧ c ≠ '\x7f' := by
        refine ⟨?_, ne_of_isVisible hc (by decide)⟩
        simp only [isVisible, Bool.and_eq_true, decide_eq_true_eq] at hc
        simp only [isPlain, Bool.or_eq_true, decide_eq_true_eq]
        omega
      rw [List.cons_append, content?.eq_def]
      dsimp only
      rw [if_neg (ne_of_isVisible hc (by decide)), if_neg (ne_of_isVisible hc (by decide)),
        if_neg (fun hslash => ne_of_isVisible hc (by decide) hslash.1), if_pos hplain,
        ih hs (Nat.lt_of_succ_lt_succ hfuel)]
      rfl

private theorem string?_visible (h : ∀ c ∈ s, isVisible c) :
    string? '"' (s ++ '"' :: '\n' :: rest) = some ((s, false), '\n' :: rest) := by
  cases s with
  | nil =>
    rw [List.nil_append, string?.eq_def]
    dsimp only
    rw [if_neg (not_not_intro rfl)]
    -- Whatever follows, the line break is no third quote.
    split
    · next heq =>
      cases heq
      rfl
    · next heq =>
      cases heq
      rfl
    · next heq => cases heq
  | cons c s =>
    have hc : c ≠ '"' := ne_of_isVisible (h c List.mem_cons_self) (by decide)
    rw [List.cons_append, string?.eq_def]
    dsimp only
    rw [if_pos hc, ← List.cons_append, content?_visible h]
    · rfl
    · simp only [List.length_append, List.length_cons]
      omega

variable {name : String}

private theorem key?_name (h : name ∈ names) (rest : List Char) :
    key? (name.toList ++ (" = \"".toList ++ rest)) = some ([name], '=' :: ' ' :: '"' :: rest) := by
  rcases eq_of_mem_names h with rfl | rfl | rfl | rfl <;> rfl

private theorem skipLines_name (h : name ∈ names) (fuel : Nat) (rest : List Char) :
    skipLines fuel (name.toList ++ rest) = name.toList ++ rest := by
  cases fuel with
  | zero => rfl
  | succ fuel => rcases eq_of_mem_names h with rfl | rfl | rfl | rfl <;> rfl

/-- A line of a name and a text adds a field to the document. -/
private theorem lines?_entry (hname : name ∈ names) (hs : ∀ c ∈ s, isVisible c) {fields : Fields}
    (hnew : fields.lookup name = none) (fuel : Nat) (rest : List Char) :
    lines? (fuel + 1) ⟨fields, []⟩
        (name.toList ++ (" = \"".toList ++ (s ++ ("\"\n".toList ++ rest)))) =
      lines? fuel ⟨fields ++ [(name, .value (.string (String.ofList s)))], []⟩ rest := by
  have hkey := key?_name hname (s ++ ("\"\n".toList ++ rest))
  have hskip := skipLines_name hname
    (name.toList ++ (" = \"".toList ++ (s ++ ("\"\n".toList ++ rest)))).length
    (" = \"".toList ++ (s ++ ("\"\n".toList ++ rest)))
  have hvalue : ∀ fuel, value? (fuel + 1) ('"' :: (s ++ ("\"\n".toList ++ rest))) =
      some (.string (String.ofList s), '\n' :: rest) := by
    intro fuel
    rw [value?, show "\"\n".toList ++ rest = '"' :: '\n' :: rest from rfl, string?_visible hs]
    rfl
  generalize hline : name.toList ++ (" = \"".toList ++ (s ++ ("\"\n".toList ++ rest))) = line at *
  rw [lines?.eq_def]
  dsimp only
  rw [hskip]
  split
  · contradiction
  · contradiction
  · simp only [hkey, Option.bind_eq_bind, Option.bind_some]
    rw [show skipGap (' ' :: '"' :: (s ++ ("\"\n".toList ++ rest))) =
      '"' :: (s ++ ("\"\n".toList ++ rest)) from rfl, hvalue]
    dsimp only [Option.bind_some, splitKey, within?]
    rw [insert?, hnew]
    rfl

private theorem lines?_written {entries : List (String × String)} (h : IsSimple entries)
    {fields : Fields} (hnew : ∀ entry ∈ entries, fields.lookup entry.1 = none) {fuel : Nat}
    (hfuel : entries.length < fuel) :
    lines? fuel ⟨fields, []⟩ (written " = \"" "\"\n" entries) =
      some (fields ++ entries.map fun entry => (entry.1, .value (.string entry.2))) := by
  induction entries generalizing fields fuel with
  | nil =>
    cases fuel with
    | zero => exact absurd hfuel (Nat.not_lt_zero _)
    | succ fuel => exact congrArg some (List.append_nil fields).symm
  | cons entry entries ih =>
    cases fuel with
    | zero => exact absurd hfuel (Nat.not_lt_zero _)
    | succ fuel =>
      obtain ⟨hentry, hentries⟩ := List.forall_mem_cons.mp hnew
      obtain ⟨hother, -⟩ := List.nodup_cons.mp h.once
      rw [written_cons, lines?_entry h.head_named h.head_visible hentry, ih h.tail]
      · rw [List.map_cons, List.append_assoc, List.singleton_append, String.ofList_toList]
      · intro next hnext
        rw [List.lookup_append, hentries next hnext, Option.none_or, List.lookup_cons]
        have hne : next.1 ≠ entry.1 := by
          intro heq
          exact hother (List.mem_map.mpr ⟨next, hnext, heq⟩)
        rw [beq_false_of_ne hne]
        rfl
      · exact Nat.lt_of_succ_lt_succ hfuel

private theorem foldBreaks_of_not_mem (h : '\r' ∉ s) : foldBreaks s = s := by
  induction s with
  | nil => rfl
  | cons c s ih =>
    rw [List.mem_cons, not_or] at h
    rw [foldBreaks, ih h.2]
    rintro _ rfl
    exact absurd rfl h.1

private theorem jsonFields_map (entries : List (String × String)) :
    jsonFields (entries.map fun entry => (entry.1, .value (.string entry.2))) =
      fieldsOf entries := by
  induction entries with
  | nil => rfl
  | cons entry entries ih =>
    rw [List.map_cons, jsonFields, ih]
    rfl

theorem parse?_written {entries : List (String × String)} (h : IsSimple entries) :
    parse? (String.ofList (written " = \"" "\"\n" entries)) =
      some (.ofFields (fieldsOf entries)) := by
  have hbreaks : foldBreaks (written " = \"" "\"\n" entries) = written " = \"" "\"\n" entries :=
    foldBreaks_of_not_mem (not_mem_written h (by decide) (by decide) (by decide))
  have hhead := head?_written h " = \"" "\"\n"
  have hnew : ∀ entry ∈ entries, ([] : Fields).lookup entry.1 = none := fun _ _ => rfl
  have hlength : entries.length * 7 ≤ _ := length_le_written h " = \"" "\"\n"
  have hlines := lines?_written h hnew
    (show entries.length < (written " = \"" "\"\n" entries).length + 1 by omega)
  rw [parse?, String.toList_ofList, hbreaks]
  split
  · next heq =>
    rw [heq] at hhead
    contradiction
  · rw [hlines, List.nil_append]
    change some (Json.ofFields (jsonFields _)) = _
    rw [jsonFields_map]

end SwapDesk.Toml
