import SwapDesk.Proofs.Json.FreeForm
import SwapDesk.Settings.Basic

/-!
# Simple documents

Files that hold nothing but texts under names of settings, each name once. Every format has its own
signs around them. The texts are of characters that stand for themselves between double quotes.
-/

namespace SwapDesk.Settings

def names : List String := ["network", "rpc_url", "contract_name", "account_id"]

/-- A character that is neither blank nor a control, nor a quote or a backslash. -/
def isVisible (c : Char) : Bool :=
  0x20 < c.toNat && c.toNat != 0x7f && !Text.isBlank c && c != '"' && c != '\\'

theorem ne_of_isVisible {c d : Char} (hc : isVisible c) (hd : isVisible d = false) : c ≠ d := by
  rintro rfl
  exact Bool.false_ne_true (hd.symm.trans hc)

theorem not_isBlank_of_isVisible {c : Char} (hc : isVisible c) : Text.isBlank c = false := by
  simp only [isVisible, Bool.and_eq_true, Bool.not_eq_true'] at hc
  exact hc.1.1.2

/-- Texts of visible characters under names of settings, each name once. -/
structure IsSimple (entries : List (String × String)) : Prop where
  named : ∀ entry ∈ entries, entry.1 ∈ names
  once : (entries.map (·.1)).Nodup
  visible : ∀ entry ∈ entries, ∀ c ∈ entry.2.toList, isVisible c

/-- The entries one after the other, with these signs between a name and its text and after the
text. -/
def written (between ending : String) (entries : List (String × String)) : List Char :=
  entries.flatMap fun entry =>
    entry.1.toList ++ (between.toList ++ (entry.2.toList ++ ending.toList))

def fieldsOf (entries : List (String × String)) : Layer :=
  entries.map fun entry => (entry.1, .string entry.2)

variable {entry : String × String} {entries : List (String × String)}

theorem mapM_sortFields {α : Type} (read : α → Option Json) (make : String → α)
    (h : ∀ s, read (make s) = some (.string s)) (entries : List (String × String)) :
    ((Json.sortFields (entries.map fun entry => (entry.1, make entry.2))).mapM fun (name, a) =>
      (read a).map (name, ·)) = some (Json.sortFields (fieldsOf entries)) := by
  rw [fieldsOf, Json.sortFields_map, Json.sortFields_map]
  induction Json.sortFields entries with
  | nil => rfl
  | cons entry entries ih =>
    rw [List.map_cons, List.mapM_cons, ih]
    dsimp only
    rw [h]
    rfl

theorem written_cons (between ending : String) :
    written between ending (entry :: entries) = entry.1.toList ++ (between.toList ++
      (entry.2.toList ++ (ending.toList ++ written between ending entries))) := by
  simp [written]

theorem IsSimple.tail (h : IsSimple (entry :: entries)) : IsSimple entries where
  named := (List.forall_mem_cons.mp h.named).2
  once := (List.nodup_cons.mp h.once).2
  visible := (List.forall_mem_cons.mp h.visible).2

theorem IsSimple.head_named (h : IsSimple (entry :: entries)) : entry.1 ∈ names :=
  h.named _ List.mem_cons_self

theorem IsSimple.head_visible (h : IsSimple (entry :: entries)) :
    ∀ c ∈ entry.2.toList, isVisible c :=
  h.visible _ List.mem_cons_self

/-! ## The characters of a document -/

theorem eq_of_mem_names {name : String} (h : name ∈ names) :
    name = "network" ∨ name = "rpc_url" ∨ name = "contract_name" ∨ name = "account_id" := by
  simpa [names] using h

theorem name_chars {name : String} (h : name ∈ names) :
    name.toList ≠ [] ∧ name.toList.head?.all Char.isLower ∧ ∀ c ∈ name.toList, isVisible c := by
  have hchars : ∀ name ∈ names, name.toList ≠ [] ∧ name.toList.head?.all Char.isLower ∧
      name.toList.all isVisible := by decide
  obtain ⟨hne, hhead, hall⟩ := hchars name h
  exact ⟨hne, hhead, List.all_eq_true.mp hall⟩

theorem ne_of_isLower {c d : Char} (hc : c.isLower) (hd : d.isLower = false) : c ≠ d := by
  rintro rfl
  exact Bool.false_ne_true (hd.symm.trans hc)

theorem head?_written (h : IsSimple entries) (between ending : String) :
    (written between ending entries).head?.all Char.isLower := by
  cases entries with
  | nil => rfl
  | cons entry entries =>
    obtain ⟨hne, hhead, -⟩ := name_chars h.head_named
    rwa [written_cons, List.head?_append_of_ne_nil _ hne]

theorem length_le_written (h : IsSimple entries) (between ending : String) :
    entries.length * (between.toList.length + ending.toList.length + 1) ≤
      (written between ending entries).length := by
  induction entries with
  | nil => simp
  | cons entry entries ih =>
    have hpos : 0 < entry.1.toList.length :=
      List.length_pos_of_ne_nil (name_chars h.head_named).1
    have hrest := ih h.tail
    rw [written_cons, List.length_cons, Nat.succ_mul]
    simp only [List.length_append]
    omega

theorem not_mem_written (h : IsSimple entries) {between ending : String} {c : Char}
    (hc : isVisible c = false) (hbetween : c ∉ between.toList) (hending : c ∉ ending.toList) :
    c ∉ written between ending entries := by
  induction entries with
  | nil => exact List.not_mem_nil
  | cons entry entries ih =>
    have hother : ∀ s : List Char, (∀ d ∈ s, isVisible d) → c ∉ s :=
      fun s hs hmem => absurd rfl (ne_of_isVisible (hs c hmem) hc)
    rw [written_cons]
    simp only [List.mem_append, not_or]
    exact ⟨hother _ (name_chars h.head_named).2.2, hbetween, hother _ h.head_visible, hending,
      ih h.tail⟩

end SwapDesk.Settings
