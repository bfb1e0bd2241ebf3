import Mathlib.Data.List.Induction
import Mathlib.Data.List.Nodup
import Mathlib.Data.String.Basic
import Mathlib.Tactic.SplitIfs
import SwapDesk.Json.Written

/-!
# Free-form values

A free-form value keeps the fields of each object sorted by key. Written out and read as a value
again it stays as it is, if it does not nest too deep.
-/

namespace SwapDesk.Json

section Fields

variable {α : Type} {fields : List (String × α)}

theorem lookup_of_nodup (hnodup : (fields.map (·.1)).Nodup) {field : String × α}
    (hfield : field ∈ fields) : fields.lookup field.1 = some field.2 := by
  induction fields with
  | nil => cases hfield
  | cons first fields ih =>
    rw [List.map_cons, List.nodup_cons] at hnodup
    rcases List.mem_cons.mp hfield with rfl | hrest
    · exact List.lookup_cons_self
    · have hne : field.1 ≠ first.1 := by
        intro heq
        exact hnodup.1 (heq ▸ List.mem_map_of_mem hrest)
      rw [List.lookup_cons, beq_false_of_ne hne]
      exact ih hnodup.2 hrest

theorem lookup_eq_some_iff_of_sorted (h : fields.Pairwise fun f g => f.1 < g.1) {key : String}
    {a : α} : fields.lookup key = some a ↔ (key, a) ∈ fields := by
  constructor
  · intro hlookup
    obtain ⟨before, after, rfl, -⟩ := List.lookup_eq_some_iff.mp hlookup
    simp
  · intro hmem
    have hnodup : (fields.map (·.1)).Nodup := by
      rw [List.Nodup, List.pairwise_map]
      exact h.imp fun hlt => ne_of_lt hlt
    exact lookup_of_nodup hnodup hmem

private theorem insertField_of_forall_lt {key : String} (h : ∀ field ∈ fields, field.1 < key)
    (a : α) :
    insertField key a fields = fields ++ [(key, a)] := by
  induction fields with
  | nil => rfl
  | cons field fields ih =>
    rw [List.forall_mem_cons] at h
    have hne : key ≠ field.1 := fun heq => String.lt_irrefl key (heq ▸ h.1)
    rw [insertField, if_neg (String.lt_asymm h.1), if_neg hne, ih h.2]
    rfl

theorem sortFields_of_sorted (h : fields.Pairwise fun f g => f.1 < g.1) :
    sortFields fields = fields := by
  induction fields using List.reverseRecOn with
  | nil => rfl
  | append_singleton fields last ih =>
    obtain ⟨hfields, -, hlast⟩ := List.pairwise_append.mp h
    rw [sortFields, List.foldl_append]
    change insertField last.1 last.2 (sortFields fields) = _
    rw [ih hfields]
    exact insertField_of_forall_lt (fun field hfield => hlast field hfield last (by simp)) last.2

theorem mem_insertField {key : String} {a : α} {field : String × α}
    (h : field ∈ insertField key a fields) : field = (key, a) ∨ field ∈ fields := by
  induction fields with
  | nil => exact .inl (List.mem_singleton.mp h)
  | cons first fields ih =>
    rw [insertField] at h
    split_ifs at h with hlt heq
    · simpa using h
    · rcases List.mem_cons.mp h with h | h
      · exact .inl h
      · exact .inr (List.mem_cons_of_mem _ h)
    · rcases List.mem_cons.mp h with h | h
      · exact .inr (by simp [h])
      · rcases ih h with h | h
        · exact .inl h
        · exact .inr (List.mem_cons_of_mem _ h)

theorem sorted_insertField (h : fields.Pairwise fun f g => f.1 < g.1) (key : String) (a : α) :
    (insertField key a fields).Pairwise fun f g => f.1 < g.1 := by
  induction fields with
  | nil => exact List.pairwise_singleton _ _
  | cons first fields ih =>
    obtain ⟨hfirst, hfields⟩ := List.pairwise_cons.mp h
    rw [insertField]
    split_ifs with hlt heq
    · refine List.pairwise_cons.mpr ⟨?_, h⟩
      intro field hfield
      rcases List.mem_cons.mp hfield with rfl | hfield
      · exact hlt
      · exact String.lt_trans hlt (hfirst field hfield)
    · subst heq
      exact List.pairwise_cons.mpr ⟨hfirst, hfields⟩
    · refine List.pairwise_cons.mpr ⟨?_, ih hfields⟩
      intro field hfield
      rcases mem_insertField hfield with rfl | hfield
      · exact lt_of_le_of_ne (not_lt.mp hlt) (Ne.symm heq)
      · exact hfirst field hfield

theorem sortFields_spec (fields : List (String × α)) :
    (sortFields fields).Pairwise (fun f g => f.1 < g.1) ∧
      ∀ field ∈ sortFields fields, field ∈ fields := by
  induction fields using List.reverseRecOn with
  | nil => simp [sortFields]
  | append_singleton fields last ih =>
    obtain ⟨hsorted, hmem⟩ := ih
    have hlast : sortFields (fields ++ [last]) = insertField last.1 last.2 (sortFields fields) := by
      simp [sortFields]
    rw [hlast]
    refine ⟨sorted_insertField hsorted _ _, ?_⟩
    intro field hfield
    rcases mem_insertField hfield with rfl | hfield
    · simp
    · exact List.mem_append_left _ (hmem field hfield)

theorem lookup_insertField (key name : String) (a : α) :
    (insertField key a fields).lookup name =
      if name = key then some a else fields.lookup name := by
  induction fields with
  | nil =>
    rw [insertField, List.lookup_cons]
    by_cases hname : name = key
    · rw [if_pos hname, hname, beq_self_eq_true]
    · rw [if_neg hname, beq_false_of_ne hname]
  | cons first fields ih =>
    obtain ⟨k, b⟩ := first
    by_cases hname : name = key
    · subst hname
      rw [insertField, if_pos rfl]
      split_ifs with hlt heq
      · exact List.lookup_cons_self
      · exact List.lookup_cons_self
      · rw [List.lookup_cons, beq_false_of_ne heq, ih, if_pos rfl]
    · rw [insertField, if_neg hname]
      split_ifs with hlt heq
      · rw [List.lookup_cons, beq_false_of_ne hname]
      · rw [List.lookup_cons, List.lookup_cons, beq_false_of_ne hname,
          beq_false_of_ne (heq ▸ hname)]
      · rw [List.lookup_cons, List.lookup_cons, ih, if_neg hname]

theorem lookup_sortFields (fields : List (String × α)) (name : String) :
    (sortFields fields).lookup name = fields.reverse.lookup name := by
  induction fields using List.reverseRecOn with
  | nil => rfl
  | append_singleton fields last ih =>
    rw [sortFields, List.foldl_append]
    change (insertField last.1 last.2 (sortFields fields)).lookup name = _
    rw [lookup_insertField, ih, List.reverse_append, List.reverse_singleton,
      List.singleton_append, List.lookup_cons]
    by_cases hname : name = last.1
    · rw [if_pos hname, hname, beq_self_eq_true]
    · rw [if_neg hname, beq_false_of_ne hname]

theorem lookup_reverse (h : (fields.map (·.1)).Nodup) (name : String) :
    fields.reverse.lookup name = fields.lookup name := by
  induction fields with
  | nil => rfl
  | cons first fields ih =>
    obtain ⟨hfirst, hfields⟩ := List.nodup_cons.mp h
    rw [List.reverse_cons, List.lookup_append, ih hfields, List.lookup_cons, List.lookup_cons,
      List.lookup_nil]
    by_cases hname : name = first.1
    · have hnone : fields.lookup name = none := by
        rw [List.lookup_eq_none_iff]
        intro field hfield
        rw [bne_iff_ne]
        rintro rfl
        exact hfirst (List.mem_map.mpr ⟨field, hfield, hname⟩)
      rw [hnone, hname, beq_self_eq_true]
      rfl
    · rw [beq_false_of_ne hname]
      exact Option.or_none

theorem insertField_map {β : Type} (f : α → β) (key : String) (a : α) :
    insertField key (f a) (fields.map fun field => (field.1, f field.2)) =
      (insertField key a fields).map fun field => (field.1, f field.2) := by
  induction fields with
  | nil => rfl
  | cons first fields ih =>
    rw [List.map_cons, insertField, insertField, ih]
    split_ifs <;> rfl

theorem sortFields_map {β : Type} (f : α → β) (fields : List (String × α)) :
    sortFields (fields.map fun field => (field.1, f field.2)) =
      (sortFields fields).map fun field => (field.1, f field.2) := by
  induction fields using List.reverseRecOn with
  | nil => rfl
  | append_singleton fields last ih =>
    rw [List.map_append, sortFields, sortFields, List.foldl_append, List.foldl_append,
      ← sortFields, ← sortFields, ih]
    exact insertField_map f last.1 last.2

end Fields

/-- The value nests at most so many levels deep, and the fields of each object in it are sorted by
key, with no key twice. -/
inductive IsFreeForm : ℕ → Json → Prop
  | null {levels : ℕ} : IsFreeForm levels null
  | bool {levels : ℕ} (b : Bool) : IsFreeForm levels (bool b)
  | number {levels : ℕ} (n : Number) : IsFreeForm levels (number n)
  | string {levels : ℕ} (s : String) : IsFreeForm levels (string s)
  | array {levels : ℕ} {items : List Json} :
      (∀ item ∈ items, IsFreeForm levels item) → IsFreeForm (levels + 1) (array items)
  | object {levels : ℕ} {fields : List (String × Json)} :
      (fields.Pairwise fun f g => f.1 < g.1) → (∀ field ∈ fields, IsFreeForm levels field.2) →
        IsFreeForm (levels + 1) (object fields)

@[simp]
theorem isFreeForm_string {levels : ℕ} (s : String) : (string s).IsFreeForm levels := .string s

@[simp]
theorem isFreeForm_array {levels : ℕ} {items : List Json} :
    (array items).IsFreeForm (levels + 1) ↔ ∀ item ∈ items, item.IsFreeForm levels :=
  ⟨fun | .array h => h, .array⟩

@[simp]
theorem isFreeForm_object {levels : ℕ} {fields : List (String × Json)} :
    (object fields).IsFreeForm (levels + 1) ↔ (fields.Pairwise fun f g => f.1 < g.1) ∧
      ∀ field ∈ fields, field.2.IsFreeForm levels :=
  ⟨fun | .object hsorted hfields => ⟨hsorted, hfields⟩, fun h => .object h.1 h.2⟩

theorem IsFreeForm.mono {m n : ℕ} {v : Json} (h : v.IsFreeForm m) (hle : m ≤ n) :
    v.IsFreeForm n := by
  induction h generalizing n with
  | null => exact .null
  | bool b => exact .bool b
  | number k => exact .number k
  | string s => exact .string s
  | array _ ih =>
    obtain ⟨n, rfl⟩ := Nat.exists_eq_add_of_le' hle
    exact .array fun item hitem => ih item hitem (Nat.le_of_succ_le_succ hle)
  | object hsorted _ ih =>
    obtain ⟨n, rfl⟩ := Nat.exists_eq_add_of_le' hle
    exact .object hsorted fun field hfield => ih field hfield (Nat.le_of_succ_le_succ hle)

namespace Written

variable {levels : ℕ}

private theorem itemValues?_writtenItems {items : List Json}
    (h : ∀ item ∈ items, value? levels item.written = some item) :
    itemValues? levels (writtenItems items) = some items := by
  induction items with
  | nil => rfl
  | cons item items ih =>
    rw [List.forall_mem_cons] at h
    rw [writtenItems, itemValues?, h.1, ih h.2]
    rfl

private theorem fieldValues?_writtenFields {fields : List (String × Json)}
    (h : ∀ field ∈ fields, value? levels field.2.written = some field.2) :
    fieldValues? levels (writtenFields fields) = some fields := by
  induction fields with
  | nil => rfl
  | cons field fields ih =>
    rw [List.forall_mem_cons] at h
    rw [writtenFields, fieldValues?, h.1, ih h.2]
    rfl

theorem value?_written {v : Json} (h : v.IsFreeForm levels) :
    value? levels v.written = some v := by
  induction h with
  | null | bool | number | string => rfl
  | array _ ih =>
    rw [written, value?, itemValues?_writtenItems ih]
    rfl
  | object hsorted _ ih =>
    rw [written, value?, fieldValues?_writtenFields ih, Option.map_some, ofFields,
      sortFields_of_sorted hsorted]

/-! ## What is read is free-form -/

mutual

theorem isFreeForm_of_value? {levels : ℕ} {document : Written} {v : Json}
    (h : value? levels document = some v) : v.IsFreeForm levels := by
  cases document with
  | null | bool | number | string =>
    cases h
    constructor
  | unreadable => contradiction
  | array items =>
    cases levels with
    | zero => contradiction
    | succ levels =>
      obtain ⟨values, hvalues, rfl⟩ := Option.map_eq_some_iff.mp h
      exact .array (isFreeForm_of_itemValues? hvalues)
  | object fields =>
    cases levels with
    | zero => contradiction
    | succ levels =>
      obtain ⟨values, hvalues, rfl⟩ := Option.map_eq_some_iff.mp h
      obtain ⟨hsorted, hmem⟩ := sortFields_spec values
      have hfields := isFreeForm_of_fieldValues? hvalues
      exact .object hsorted fun field hfield => hfields field (hmem field hfield)

private theorem isFreeForm_of_itemValues? {levels : ℕ} {items : List Written} {values : List Json}
    (h : itemValues? levels items = some values) : ∀ v ∈ values, v.IsFreeForm levels := by
  cases items with
  | nil =>
    cases h
    simp
  | cons item items =>
    simp only [itemValues?, Option.bind_eq_bind, Option.bind_eq_some_iff, Option.some.injEq] at h
    obtain ⟨first, hfirst, rest, hrest, rfl⟩ := h
    rw [List.forall_mem_cons]
    exact ⟨isFreeForm_of_value? hfirst, isFreeForm_of_itemValues? hrest⟩

private theorem isFreeForm_of_fieldValues? {levels : ℕ} {fields : List (String × Written)}
    {values : List (String × Json)} (h : fieldValues? levels fields = some values) :
    ∀ field ∈ values, field.2.IsFreeForm levels := by
  cases fields with
  | nil =>
    cases h
    simp
  | cons field fields =>
    simp only [fieldValues?, Option.bind_eq_bind, Option.bind_eq_some_iff, Option.some.injEq] at h
    obtain ⟨first, hfirst, rest, hrest, rfl⟩ := h
    rw [List.forall_mem_cons]
    exact ⟨isFreeForm_of_value? hfirst, isFreeForm_of_fieldValues? hrest⟩

end

end Written

end SwapDesk.Json
