import SwapDesk.Proofs.Json.Text
import SwapDesk.Rpc.Basic

/-!
# What a node answers

An answer is read in three stages: the envelope, the result in it, and the bytes in the result.
Each is described here by the fields it has, and every answer is a value, a refusal or unreadable.
-/

namespace SwapDesk.Rpc

variable {levels : ℕ} {answer v : Json} {bytes : List UInt8}

/-! ## The envelope -/

/-- The node has refused the request, or the contract has failed and left its message. -/
def IsRefusal (answer : Json) : Prop :=
  (∃ error, answer.HasField "error" error) ∨
    ∃ result message, answer.HasField "result" result ∧ result.HasField "error" (.string message)

theorem result_cases (h : answer.IsFreeForm levels) (label : String) :
    (IsRefusal answer ∧ ∃ message, result label answer = .error (.rpc label message)) ∨
      ¬ IsRefusal answer ∧
        ((∃ r, answer.HasField "result" r ∧ result label answer = .ok r) ∨
          (∀ r, ¬ answer.HasField "result" r) ∧
            result label answer = .error (.reply label .noResult)) := by
  rw [result]
  cases herror : answer.get? "error" with
  | some error => exact .inl ⟨.inl ⟨error, h.get?_eq_some_iff.mp herror⟩, _, rfl⟩
  | none =>
    have herror := h.get?_eq_none_iff.mp herror
    cases hresult : answer.get? "result" with
    | none =>
      have hresult := h.get?_eq_none_iff.mp hresult
      refine .inr ⟨?_, .inr ⟨hresult, rfl⟩⟩
      rintro (⟨error, hfield⟩ | ⟨r, message, hfield, -⟩)
      · exact herror error hfield
      · exact hresult r hfield
    | some r =>
      have hresult := h.get?_eq_some_iff.mp hresult
      obtain ⟨lower, hr⟩ := h.field hresult
      dsimp only
      cases hmessage : (r.get? "error").bind Json.string? with
      | some message => exact .inl ⟨.inr ⟨r, message, hresult, hr.text_iff.mp hmessage⟩, _, rfl⟩
      | none =>
        refine .inr ⟨?_, .inl ⟨r, hresult, rfl⟩⟩
        rintro (⟨error, hfield⟩ | ⟨other, message, hother, hfield⟩)
        · exact herror error hfield
        · rw [h.field_unique hother hresult, ← hr.text_iff, hmessage] at hfield
          contradiction

/-! ## Bytes -/

def byteItem (b : UInt8) : Json := .natural b.toNat

private theorem byteItem_injective : byteItem.Injective := by
  intro a b h
  simp only [byteItem, Json.natural, Json.number.injEq, Json.Number.int.injEq] at h
  exact UInt8.toNat_inj.mp (Int.ofNat.inj h)

@[simp]
theorem byteItem_isExact (b : UInt8) : (byteItem b).IsExact := by
  have hlt := b.toNat_lt
  rw [byteItem, Json.isExact_natural, Json.greatestNatural]
  omega

@[simp]
theorem byteItem_isFreeForm {levels : ℕ} (b : UInt8) : (byteItem b).IsFreeForm levels := .number _

private theorem readByte_cases (label : String) (item : Json) :
    (∃ b, item = byteItem b ∧ readByte label item = .ok b) ∨
      (∀ b, item ≠ byteItem b) ∧ ∃ fault, readByte label item = .error (.reply label fault) := by
  rw [readByte]
  cases hn : item.natural? with
  | none =>
    refine .inr ⟨?_, _, rfl⟩
    rintro b rfl
    have hb : (byteItem b).natural? = some b.toNat := by
      have hlt := b.toNat_lt
      rw [Json.natural?_eq_some_iff, Json.greatestNatural]
      exact ⟨rfl, by omega⟩
    rw [hb] at hn
    contradiction
  | some n =>
    obtain ⟨rfl, -⟩ := Json.natural?_eq_some_iff.mp hn
    by_cases hlt : n < 256
    · have hb : (UInt8.ofNat n).toNat = n := UInt8.toNat_ofNat_of_lt hlt
      exact .inl ⟨UInt8.ofNat n, by rw [byteItem, hb], if_pos hlt⟩
    · refine .inr ⟨?_, _, if_neg hlt⟩
      intro b h
      have hb := b.toNat_lt
      simp only [byteItem, Json.natural, Json.number.injEq, Json.Number.int.injEq] at h
      omega

private theorem readBytes_cases (label : String) (items : List Json) :
    (∃ bytes, items = bytes.map byteItem ∧ items.mapM (readByte label) = .ok bytes) ∨
      (∀ bytes : List UInt8, items ≠ bytes.map byteItem) ∧
        ∃ fault, items.mapM (readByte label) = .error (.reply label fault) := by
  induction items with
  | nil => exact .inl ⟨[], rfl, rfl⟩
  | cons item items ih =>
    rw [List.mapM_cons]
    obtain ⟨b, rfl, hb⟩ | ⟨hitem, fault, hb⟩ := readByte_cases label item
    · rw [hb]
      obtain ⟨bytes, rfl, hbytes⟩ | ⟨hitems, fault, hbytes⟩ := ih
      · rw [hbytes]
        exact .inl ⟨b :: bytes, rfl, rfl⟩
      · rw [hbytes]
        refine .inr ⟨?_, fault, rfl⟩
        rintro (_ | ⟨c, bytes⟩) h
        · contradiction
        · exact hitems bytes (List.cons.inj h).2
    · rw [hb]
      refine .inr ⟨?_, fault, rfl⟩
      rintro (_ | ⟨c, bytes⟩) h
      · contradiction
      · exact hitem c (List.cons.inj h).1

/-- The bytes are the text of the value. No bytes at all stand for `null`. -/
inductive Spells : List UInt8 → Json → Prop
  | nothing : Spells [] .null
  | text {text : String} {v : Json} : Json.parse? text = some v →
      Spells text.toUTF8.data.toList v

theorem Spells.ofBytes? (h : Spells bytes v) :
    bytes = [] ∧ v = .null ∨ Json.ofBytes? ⟨bytes.toArray⟩ = some v := by
  cases h with
  | nothing => exact .inl ⟨rfl, rfl⟩
  | text htext => exact .inr (Json.ofBytes?_eq_some_iff.mpr ⟨_, rfl, htext⟩)

private theorem spells_nil_iff : Spells [] v ↔ v = .null := by
  constructor
  · intro h
    obtain ⟨-, hnull⟩ | hvalue := h.ofBytes?
    · exact hnull
    · have hnone : Json.ofBytes? ⟨#[]⟩ = none := Json.ofBytes?_empty
      rw [hnone] at hvalue
      contradiction
  · rintro rfl
    exact .nothing

private theorem spells_iff_of_ne_nil (hne : bytes ≠ []) :
    Spells bytes v ↔ Json.ofBytes? ⟨bytes.toArray⟩ = some v := by
  constructor
  · intro h
    obtain ⟨hnil, -⟩ | hvalue := h.ofBytes?
    · contradiction
    · exact hvalue
  · intro h
    obtain ⟨text, hbytes, htext⟩ := Json.ofBytes?_eq_some_iff.mp h
    have hspells := Spells.text htext
    rw [hbytes] at hspells
    exact hspells

theorem Spells.unique {w : Json} (hv : Spells bytes v) (hw : Spells bytes w) : v = w := by
  by_cases hnil : bytes = []
  · subst hnil
    rw [spells_nil_iff.mp hv, spells_nil_iff.mp hw]
  · rw [spells_iff_of_ne_nil hnil] at hv hw
    rw [hv, Option.some.injEq] at hw
    exact hw

/-! ## The result -/

/-- The result holds the bytes of the value. -/
def Holds (result v : Json) : Prop :=
  ∃ bytes, result.HasField "result" (.array (bytes.map byteItem)) ∧ Spells bytes v

theorem Holds.unique {result w : Json} (h : result.IsFreeForm levels) (hv : Holds result v)
    (hw : Holds result w) : v = w := by
  obtain ⟨bytes, hbytes, hv⟩ := hv
  obtain ⟨other, hother, hw⟩ := hw
  have heq := h.field_unique hbytes hother
  rw [Json.array.injEq, (List.map_injective_iff.mpr byteItem_injective).eq_iff] at heq
  subst heq
  exact hv.unique hw

theorem readValue_cases {result : Json} (h : result.IsFreeForm levels) (label : String) :
    (∃ v, Holds result v ∧ readValue label result = .ok v) ∨
      (∀ v, ¬ Holds result v) ∧
        ∃ fault, readValue label result = .error (.reply label fault) := by
  rw [readValue]
  cases hitems : (result.get? "result").bind Json.array? with
  | none =>
    refine .inr ⟨?_, _, rfl⟩
    rintro v ⟨bytes, hbytes, -⟩
    rw [← h.items_iff, hitems] at hbytes
    contradiction
  | some items =>
    have hholds : ∀ v, Holds result v ↔ ∃ bytes, items = bytes.map byteItem ∧ Spells bytes v := by
      intro v
      simp only [Holds, ← h.items_iff, hitems, Option.some.injEq]
    obtain ⟨bytes, rfl, hread⟩ | ⟨hmap, fault, hread⟩ := readBytes_cases label items
    · have hspells : ∀ v, Holds result v ↔ Spells bytes v := by
        intro v
        simp [hholds, (List.map_injective_iff.mpr byteItem_injective).eq_iff]
      dsimp only
      rw [hread]
      by_cases hnil : bytes = []
      · subst hnil
        exact .inl ⟨.null, (hspells _).mpr .nothing, rfl⟩
      · have hempty : bytes.isEmpty = false := by simp [hnil]
        simp only [bind, Except.bind, hempty]
        cases hvalue : Json.ofBytes? ⟨bytes.toArray⟩ with
        | some v => exact .inl ⟨v, (hspells v).mpr ((spells_iff_of_ne_nil hnil).mpr hvalue), rfl⟩
        | none =>
          refine .inr ⟨?_, _, rfl⟩
          intro v hv
          rw [hspells, spells_iff_of_ne_nil hnil, hvalue] at hv
          contradiction
    · dsimp only
      rw [hread]
      refine .inr ⟨?_, fault, rfl⟩
      intro v hv
      obtain ⟨bytes, hbytes, -⟩ := (hholds v).mp hv
      exact hmap bytes hbytes

/-! ## Answers to views -/

/-- The result of the answer holds the bytes of the value. -/
def Delivers (answer v : Json) : Prop :=
  ∃ result, answer.HasField "result" result ∧ Holds result v

theorem Delivers.unique {w : Json} (h : answer.IsFreeForm levels) (hv : Delivers answer v)
    (hw : Delivers answer w) : v = w := by
  obtain ⟨result, hresult, hv⟩ := hv
  obtain ⟨other, hother, hw⟩ := hw
  cases h.field_unique hresult hother
  obtain ⟨lower, hr⟩ := h.field hresult
  exact hv.unique hr hw

/-- An answer is a refusal, or it delivers a value, or it cannot be read. -/
theorem readView_cases (h : answer.IsFreeForm levels) (method : String) :
    (IsRefusal answer ∧ ∃ message, readView method answer = .error (.rpc method message)) ∨
      ¬ IsRefusal answer ∧
        ((∃ v, Delivers answer v ∧ readView method answer = .ok v) ∨
          (∀ v, ¬ Delivers answer v) ∧
            ∃ fault, readView method answer = .error (.reply method fault)) := by
  rw [readView]
  obtain ⟨hrefusal, message, hresult⟩ | ⟨hfine, hresult⟩ := result_cases h method
  · rw [hresult]
    exact .inl ⟨hrefusal, message, rfl⟩
  · refine .inr ⟨hfine, ?_⟩
    obtain ⟨r, hfield, hresult⟩ | ⟨hmissing, hresult⟩ := hresult
    · obtain ⟨lower, hr⟩ := h.field hfield
      have hdelivers : ∀ v, Delivers answer v ↔ Holds r v := by
        intro v
        constructor
        · rintro ⟨other, hother, hv⟩
          rwa [h.field_unique hfield hother]
        · exact fun hv => ⟨r, hfield, hv⟩
      simp only [hresult, hdelivers]
      exact readValue_cases hr method
    · rw [hresult]
      refine .inr ⟨?_, _, rfl⟩
      rintro v ⟨r, hfield, -⟩
      exact hmissing r hfield

theorem readView_eq_ok_iff (h : answer.IsFreeForm levels) (method : String) :
    readView method answer = .ok v ↔ ¬ IsRefusal answer ∧ Delivers answer v := by
  obtain ⟨hrefusal, message, hread⟩ | ⟨hfine, hread⟩ := readView_cases h method
  · simp [hread, hrefusal]
  · obtain ⟨w, hw, hread⟩ | ⟨hnone, fault, hread⟩ := hread
    · rw [hread, Except.ok.injEq]
      constructor
      · rintro rfl
        exact ⟨hfine, hw⟩
      · exact fun hv => hw.unique h hv.2
    · simp [hread, hnone v]

theorem readView_eq_rpc_iff (h : answer.IsFreeForm levels) (method : String) :
    (∃ message, readView method answer = .error (.rpc method message)) ↔ IsRefusal answer := by
  obtain ⟨hrefusal, message, hread⟩ | ⟨hfine, hread⟩ := readView_cases h method
  · simp [hread, hrefusal]
  · obtain ⟨w, -, hread⟩ | ⟨-, fault, hread⟩ := hread <;> simp [hread, hfine]

theorem readView_eq_reply_iff (h : answer.IsFreeForm levels) (method : String) :
    (∃ fault, readView method answer = .error (.reply method fault)) ↔
      ¬ IsRefusal answer ∧ ∀ v, ¬ Delivers answer v := by
  obtain ⟨hrefusal, message, hread⟩ | ⟨hfine, hread⟩ := readView_cases h method
  · simp [hread, hrefusal]
  · obtain ⟨w, hw, hread⟩ | ⟨hnone, fault, hread⟩ := hread
    · simp only [hread, reduceCtorEq, exists_false, false_iff]
      exact fun hnone => hnone.2 w hw
    · simp [hread, hfine, hnone]

/-- What a view gives for the body of an answer. A body that is no document is an HTTP error. For
any other the view gives the value that is delivered without a refusal, an error of the call for a
refusal whatever else there is, and an unreadable reply otherwise. A value without doubles whose
text is delivered is given as it is. -/
theorem view_reply_exactly (call : ViewCall) (body : ByteArray) (later : List (Option ByteArray)) :
    let reply := (node.view call (some body :: later)).1
    (Json.ofBytes? body = none → reply = .error .http) ∧
    ∀ answer, Json.ofBytes? body = some answer →
      (∀ v, reply = .ok v ↔ ¬ IsRefusal answer ∧ Delivers answer v) ∧
      ((∃ message, reply = .error (.rpc call.method message)) ↔ IsRefusal answer) ∧
      ((∃ fault, reply = .error (.reply call.method fault)) ↔
        ¬ IsRefusal answer ∧ ∀ v, ¬ Delivers answer v) ∧
      ∀ v result : Json, v.IsExact → v.IsFreeForm Json.deepest → ¬ IsRefusal answer →
        answer.HasField "result" result →
        result.HasField "result" (.array (v.render.toUTF8.data.toList.map byteItem)) →
        reply = .ok v := by
  intro reply
  constructor
  · intro hbody
    simp [reply, node, readBody, hbody, bind, Except.bind]
  · intro answer hbody
    have hfree := Json.isFreeForm_of_ofBytes? hbody
    have hreply : reply = readView call.method answer := by
      simp [reply, node, readBody, hbody, bind, Except.bind]
    rw [hreply]
    refine ⟨fun v => readView_eq_ok_iff hfree call.method, readView_eq_rpc_iff hfree call.method,
      readView_eq_reply_iff hfree call.method, ?_⟩
    intro v result hexact hdepth hfine hresult hbytes
    have hspells := Spells.text (Json.parse?_render hexact hdepth)
    exact (readView_eq_ok_iff hfree call.method).mpr ⟨hfine, result, hresult, _, hbytes, hspells⟩

/-- The text of a string as the result of a call, the same beside the message of a contract that
has failed, and a body of no bytes. -/
theorem view_reply_exactly_quoted :
    let call : ViewCall := ⟨"amm.testnet", "pool_info", .object []⟩
    let bytes : Json := .array ([34, 49, 34].map byteItem)
    let fine : Json := .object [("result", .object [("result", bytes)])]
    let failed : Json :=
      .object [("result", .object [("error", .string "panicked"), ("result", bytes)])]
    Json.ofBytes? fine.render.toUTF8 = some fine ∧
      Json.ofBytes? failed.render.toUTF8 = some failed ∧
      (Json.string "1").IsExact ∧ (Json.string "1").IsFreeForm Json.deepest ∧
      ¬ IsRefusal fine ∧ fine.HasField "result" (.object [("result", bytes)]) ∧
      (Json.object [("result", bytes)]).HasField "result"
        (.array ((Json.string "1").render.toUTF8.data.toList.map byteItem)) ∧
      (node.view call [some fine.render.toUTF8]).1 = .ok (.string "1") ∧
      Json.ofBytes? ByteArray.empty = none ∧
      (node.view call [some ByteArray.empty]).1 = .error .http ∧
      ∃ message,
        (node.view call [some failed.render.toUTF8]).1 = .error (.rpc "pool_info" message) := by
  intro call bytes fine failed
  have hexact : (Json.string "1").IsExact := .string _
  have hfree : (Json.string "1").IsFreeForm Json.deepest := .string _
  have hfine : Json.ofBytes? fine.render.toUTF8 = some fine := by
    apply Json.ofBytes?_render
    · simp [fine, bytes]
    · have hdepth : fine.IsFreeForm 3 := by simp [fine, bytes]
      exact hdepth.mono (by decide)
  have hfailed : Json.ofBytes? failed.render.toUTF8 = some failed := by
    apply Json.ofBytes?_render
    · simp [failed, bytes]
    · have hsorted : "error" < "result" := by decide
      have hdepth : failed.IsFreeForm 3 := by
        simp [failed, bytes, hsorted, -String.lt_iff_ltb]
      exact hdepth.mono (by decide)
  have hrefusal : ¬ IsRefusal fine := by simp [IsRefusal, fine]
  have hrefusal' : IsRefusal failed := .inr ⟨_, _, ⟨_, rfl, .head _⟩, ⟨_, rfl, .head _⟩⟩
  have hresult : fine.HasField "result" (.object [("result", bytes)]) := by simp [fine]
  have hquoted : (Json.string "1").render.toUTF8.data.toList = [34, 49, 34] := by decide
  have hbytes : (Json.object [("result", bytes)]).HasField "result"
      (.array ((Json.string "1").render.toUTF8.data.toList.map byteItem)) := by
    rw [hquoted]
    simp [bytes]
  obtain ⟨-, hread⟩ := view_reply_exactly call fine.render.toUTF8 []
  obtain ⟨hhttp, -⟩ := view_reply_exactly call ByteArray.empty []
  obtain ⟨-, hread'⟩ := view_reply_exactly call failed.render.toUTF8 []
  obtain ⟨-, -, -, hvalue⟩ := hread fine hfine
  obtain ⟨-, hrpc, -, -⟩ := hread' failed hfailed
  exact ⟨hfine, hfailed, hexact, hfree, hrefusal, hresult, hbytes,
    hvalue _ _ hexact hfree hrefusal hresult hbytes, Json.ofBytes?_empty,
    hhttp Json.ofBytes?_empty, hrpc.mpr hrefusal'⟩

end SwapDesk.Rpc
