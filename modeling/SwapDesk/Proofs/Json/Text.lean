import SwapDesk.Proofs.Json.FreeForm
import SwapDesk.Proofs.Json.RoundTrip

/-!
# Free-form values as texts

What is read from a text or from its bytes is a free-form value, and a free-form value without
doubles is read from its own text. The fields of such a value are found by their keys.
-/

namespace SwapDesk.Json

variable {levels : ℕ} {v : Json}

theorem parse?_render (hexact : v.IsExact) (hfree : v.IsFreeForm deepest) :
    parse? v.render = some v := by
  rw [parse?, Written.parse?_render hexact]
  exact Written.value?_written hfree

theorem isFreeForm_of_parse? {text : String} (h : parse? text = some v) :
    v.IsFreeForm deepest := by
  obtain ⟨document, -, hvalue⟩ := Option.bind_eq_some_iff.mp h
  exact Written.isFreeForm_of_value? hvalue

theorem fromUTF8?_toUTF8 (text : String) : String.fromUTF8? text.toUTF8 = some text :=
  dif_pos text.isValidUTF8

theorem ofBytes?_eq_some_iff {bytes : ByteArray} :
    ofBytes? bytes = some v ↔ ∃ text : String, text.toUTF8 = bytes ∧ parse? text = some v := by
  rw [ofBytes?]
  constructor
  · intro h
    rw [String.fromUTF8?] at h
    split at h
    · next hvalid => exact ⟨String.fromUTF8 bytes hvalid, rfl, h⟩
    · contradiction
  · rintro ⟨text, rfl, h⟩
    rw [fromUTF8?_toUTF8]
    exact h

theorem isFreeForm_of_ofBytes? {bytes : ByteArray} (h : ofBytes? bytes = some v) :
    v.IsFreeForm deepest := by
  obtain ⟨text, -, htext⟩ := ofBytes?_eq_some_iff.mp h
  exact isFreeForm_of_parse? htext

theorem ofBytes?_empty : ofBytes? ByteArray.empty = none := by
  rw [Option.eq_none_iff_forall_ne_some]
  intro v h
  obtain ⟨text, hempty, hparse⟩ := ofBytes?_eq_some_iff.mp h
  have htext : text = "" := String.toByteArray_inj.mp hempty
  have hnone : parse? "" = none := rfl
  rw [htext, hnone] at hparse
  contradiction

theorem ofBytes?_render (hexact : v.IsExact) (hfree : v.IsFreeForm deepest) :
    ofBytes? v.render.toUTF8 = some v :=
  ofBytes?_eq_some_iff.mpr ⟨v.render, rfl, parse?_render hexact hfree⟩

/-! ## Fields -/

/-- The value is an object with this field. -/
def HasField (v : Json) (key : String) (field : Json) : Prop :=
  ∃ fields, v = .object fields ∧ (key, field) ∈ fields

@[simp]
theorem hasField_object {fields : List (String × Json)} {key : String} {field : Json} :
    (object fields).HasField key field ↔ (key, field) ∈ fields := by
  simp [HasField]

theorem IsFreeForm.get?_eq_some_iff (h : v.IsFreeForm levels) {key : String} {field : Json} :
    v.get? key = some field ↔ v.HasField key field := by
  cases h with
  | object hsorted =>
    rw [get?, lookup_eq_some_iff_of_sorted hsorted, hasField_object]
  | _ => simp [get?, HasField]

theorem IsFreeForm.get?_eq_none_iff (h : v.IsFreeForm levels) {key : String} :
    v.get? key = none ↔ ∀ field, ¬ v.HasField key field := by
  simp only [← h.get?_eq_some_iff, Option.eq_none_iff_forall_ne_some, ne_eq]

theorem IsFreeForm.text_iff (h : v.IsFreeForm levels) {key s : String} :
    (v.get? key).bind string? = some s ↔ v.HasField key (.string s) := by
  rw [← h.get?_eq_some_iff, Option.bind_eq_some_iff]
  constructor
  · rintro ⟨field, hfield, hs⟩
    cases field <;> cases hs
    exact hfield
  · exact fun hfield => ⟨_, hfield, rfl⟩

theorem IsFreeForm.items_iff (h : v.IsFreeForm levels) {key : String} {items : List Json} :
    (v.get? key).bind array? = some items ↔ v.HasField key (.array items) := by
  rw [← h.get?_eq_some_iff, Option.bind_eq_some_iff]
  constructor
  · rintro ⟨field, hfield, hitems⟩
    cases field <;> cases hitems
    exact hfield
  · exact fun hfield => ⟨_, hfield, rfl⟩

theorem IsFreeForm.field_unique (h : v.IsFreeForm levels) {key : String} {a b : Json}
    (ha : v.HasField key a) (hb : v.HasField key b) : a = b := by
  rw [← h.get?_eq_some_iff] at ha hb
  rw [ha, Option.some.injEq] at hb
  exact hb

theorem IsFreeForm.field (h : v.IsFreeForm levels) {key : String} {field : Json}
    (hfield : v.HasField key field) : ∃ levels, field.IsFreeForm levels := by
  obtain ⟨fields, rfl, hmem⟩ := hfield
  cases h with
  | object _ hfields => exact ⟨_, hfields _ hmem⟩

end SwapDesk.Json
