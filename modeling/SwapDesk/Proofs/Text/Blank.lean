import Mathlib.Data.List.DropRight
import SwapDesk.Text.Blank

/-!
# Texts without their ends

What is taken off the ends of a text: the longest ending of one kind of characters, and the
blanks around it.
-/

namespace SwapDesk.Text

theorem dropEndWhile_eq_rdropWhile (p : Char → Bool) (s : List Char) :
    dropEndWhile p s = s.rdropWhile p := rfl

theorem dropEndWhile_append (p : Char → Bool) (s : List Char) :
    ∃ ending, s = dropEndWhile p s ++ ending ∧ ∀ c ∈ ending, p c :=
  ⟨s.rtakeWhile p, (List.rdropWhile_append_rtakeWhile ..).symm,
    fun _ hc => List.mem_rtakeWhile_imp hc⟩

theorem dropEndWhile_zeros (s : List Char) :
    ∃ n, s = dropEndWhile (· == '0') s ++ List.replicate n '0' := by
  obtain ⟨ending, hs, he⟩ := dropEndWhile_append (· == '0') s
  refine ⟨ending.length, ?_⟩
  rw [← List.eq_replicate_of_mem (a := '0') (l := ending)]
  · exact hs
  · intro c hc
    simpa using he c hc

theorem dropEndWhile_append_of_forall {p : Char → Bool} (s : List Char) {ending : List Char}
    (h : ∀ c ∈ ending, p c) : dropEndWhile p (s ++ ending) = dropEndWhile p s := by
  rw [dropEndWhile, List.reverse_append,
    List.dropWhile_append_of_pos fun c hc => h c (List.mem_reverse.mp hc), dropEndWhile]

theorem dropEndWhile_dropEndWhile (p : Char → Bool) (s : List Char) :
    dropEndWhile p (dropEndWhile p s) = dropEndWhile p s :=
  List.rdropWhile_idempotent ..

theorem dropEndWhile_append_cons {p : Char → Bool} {c : Char} (hc : p c = false)
    (a b : List Char) : dropEndWhile p (a ++ c :: b) = a ++ c :: dropEndWhile p b := by
  simp only [dropEndWhile_eq_rdropWhile]
  induction b using List.reverseRecOn with
  | nil => rw [List.rdropWhile_concat_neg _ _ _ (by simp [hc]), List.rdropWhile_nil]
  | append_singleton b d ih =>
    rw [← List.cons_append, ← List.append_assoc]
    by_cases hd : p d
    · rw [List.rdropWhile_concat_pos _ _ _ hd, List.rdropWhile_concat_pos _ _ _ hd, ih]
    · rw [List.rdropWhile_concat_neg _ _ _ hd, List.rdropWhile_concat_neg _ _ _ hd]
      simp

theorem getLast_dropEndWhile {p : Char → Bool} {s : List Char} (h : dropEndWhile p s ≠ []) :
    p ((dropEndWhile p s).getLast h) = false := by
  rw [← Bool.not_eq_true]
  exact List.rdropWhile_last_not p s h

theorem mem_of_mem_trim {s : List Char} {c : Char} (h : c ∈ trim s) : c ∈ s :=
  (List.dropWhile_sublist _).subset ((List.rdropWhile_prefix ..).subset h)

theorem trim_trim (s : List Char) : trim (trim s) = trim s := by
  have hkept : (trim s).dropWhile isBlank = trim s := by
    cases htrim : trim s with
    | nil => rfl
    | cons c rest =>
      -- The text starts like what is left of it behind the blanks in front.
      obtain ⟨more, hmore⟩ : trim s <+: s.dropWhile isBlank := List.rdropWhile_prefix ..
      rw [htrim] at hmore
      have hhead := List.head?_dropWhile_not isBlank s
      rw [← hmore] at hhead
      exact List.dropWhile_cons_of_neg (by simpa using hhead)
  rw [trim, hkept]
  exact List.rdropWhile_idempotent ..

theorem trim_of_no_blanks {s : List Char} (h : ∀ c ∈ s, isBlank c = false) : trim s = s := by
  have hs : s.dropWhile isBlank = s := by
    cases s with
    | nil => rfl
    | cons c s => simp [h c (by simp)]
  rw [trim, hs, dropEndWhile_eq_rdropWhile, List.rdropWhile_eq_self_iff]
  intro hne
  simp [h _ (List.getLast_mem hne)]

end SwapDesk.Text
