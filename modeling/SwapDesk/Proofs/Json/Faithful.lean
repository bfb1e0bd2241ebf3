import SwapDesk.Json.Decode
import SwapDesk.Proofs.Amount.Canonical
import SwapDesk.Proofs.Json.FreeForm
import SwapDesk.Proofs.Json.RoundTrip
import SwapDesk.Token

/-!
# Faithful forms

A form of JSON for a type is faithful if reading takes back what has been written, as a document
and as a text. The forms of the parts of a record are faithful, and so are optional ones.
-/

namespace SwapDesk

namespace Json

open Written (record perhaps)

variable {α : Type} {write : α → Json} {read : Written → Decoded α}

/-- Reads a text by way of its document. -/
def parseAs (read : Written → Decoded α) (text : String) : Decoded α := do
  read (← Decoded.ofOption (Written.parse? text))

theorem parseAs_render {v : Json} {a : α} (hv : v.IsExact) (hread : read v.written = .ok a) :
    parseAs read v.render = .ok a := by
  rw [parseAs, Written.parse?_render hv]
  exact hread

/-- What is written reads back. It is never `null`, which stands for a value that is missing, and
its numbers are integers of 64 bits. -/
structure Faithful (write : α → Json) (read : Written → Decoded α) : Prop where
  read_written (a : α) : read (write a).written = .ok a
  not_null (a : α) : (write a).written ≠ .null
  isExact (a : α) : (write a).IsExact

namespace Faithful

theorem parseAs_render (h : Faithful write read) (a : α) : parseAs read (write a).render = .ok a :=
  Json.parseAs_render (h.isExact a) (h.read_written a)

theorem optional_isExact (h : Faithful write read) (o : Option α) :
    (optional write o).IsExact := by
  cases o with
  | none => exact .null
  | some a => exact h.isExact a

theorem perhaps_optional (h : Faithful write read) (o : Option α) :
    perhaps read (some (optional write o).written) = .ok o := by
  cases o with
  | none => rfl
  | some a =>
    rw [perhaps, optional, Written.nullable.eq_2 read _ (h.not_null a), h.read_written]
    rfl

end Faithful

/-! ## Parts of records -/

@[simp]
theorem isExact_word (n : UInt64) : (natural n.toNat).IsExact := by
  have hn := n.toNat_lt
  rw [isExact_natural, greatestNatural]
  omega

@[simp]
theorem isExact_amount (a : Amount) : a.json.IsExact := .string a.text

theorem object_not_null (fields : List (String × Json)) : (object fields).written ≠ .null := nofun

theorem text_faithful : Faithful string Written.text :=
  ⟨fun _ => rfl, nofun, isExact_string⟩

theorem flag_faithful : Faithful bool Written.flag :=
  ⟨fun _ => rfl, nofun, isExact_bool⟩

theorem word_faithful : Faithful (fun n : UInt64 => natural n.toNat) Written.word where
  read_written n := by
    have hn := n.toNat_lt
    have hrange : 0 ≤ (n.toNat : Int) ∧ (n.toNat : Int) ≤ greatestNatural := by
      rw [greatestNatural]
      omega
    rw [natural, written, Written.word, if_pos hrange, Int.toNat_natCast, UInt64.ofNat_toNat]
  not_null := nofun
  isExact := isExact_word

theorem amount_faithful : Faithful Amount.json Written.amount where
  read_written a := by
    rw [Amount.json, written, Written.amount, Amount.ofText_text]
    rfl
  not_null := nofun
  isExact := isExact_amount

theorem oneOf_faithful {names : List (String × α)} (name : α → String)
    (h : ∀ a, names.lookup (name a) = some a) :
    Faithful (fun a => string (name a)) (Written.oneOf names) where
  read_written a := by
    rw [written, Written.oneOf, Written.alternative]
    change Decoded.ofOption (names.lookup (name a)) = _
    rw [h]
    rfl
  not_null := nofun
  isExact a := isExact_string (name a)

/-! ## Records -/

private theorem record_object {fields : List (String × Written)}
    (hnodup : (fields.map (·.1)).Nodup) :
    record (fields.map (·.1)) (.object fields) = .ok (fields.map fun f => some f.2) := by
  have honce : ((fields.map (·.1)).all fun name =>
      (fields.filter (·.1 == name)).length ≤ 1) = true := by
    rw [List.all_eq_true]
    intro name _
    have hcount := List.nodup_iff_count_le_one.mp hnodup name
    rw [List.count, List.countP_map, List.countP_eq_length_filter] at hcount
    exact decide_eq_true hcount
  rw [record, if_pos honce, List.map_map]
  exact congrArg Except.ok (List.map_congr_left fun field => lookup_of_nodup hnodup)

theorem record_written {fields : List (String × Json)} {names : List String}
    (hnames : fields.map (·.1) = names) (hnodup : names.Nodup) :
    record names (object fields).written = .ok (fields.map fun f => some f.2.written) := by
  have hkeys : (fields.map fun f => (f.1, f.2.written)).map (·.1) = names := by
    rw [List.map_map, ← hnames]
    rfl
  have hread := record_object (hkeys.symm ▸ hnodup)
  rw [hkeys, List.map_map] at hread
  rw [written, writtenFields_eq_map, hread]
  rfl

end Json

theorem TokenKind.faithful : Json.Faithful TokenKind.json TokenKind.ofWritten :=
  Json.oneOf_faithful TokenKind.name fun kind => by cases kind <;> rfl

end SwapDesk
