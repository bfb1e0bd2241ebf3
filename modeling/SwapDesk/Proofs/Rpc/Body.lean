import SwapDesk.Proofs.Json.Text
import SwapDesk.Proofs.Text.Base64
import SwapDesk.Rpc.Basic

/-!
# Bodies of views

The body that is sent for a view says which view it is: the call is read back from the bytes of
the body, its arguments through Base64 and a JSON text of their own.
-/

namespace SwapDesk.Rpc

variable {levels : ℕ}

def decodeArgs? (levels : ℕ) (encoded : String) : Option Json := do
  let bytes ← Text.Base64.decode? encoded.toList
  let text ← String.fromUTF8? ⟨bytes.toArray⟩
  (← Json.Written.parse? text).value? levels

/-- The view that a body asks for, if its arguments nest at most `levels` deep. -/
def callOf? (levels : ℕ) (body : Json) : Option ViewCall := do
  let params ← body.get? "params"
  let contract ← (params.get? "account_id").bind Json.string?
  let method ← (params.get? "method_name").bind Json.string?
  let encoded ← (params.get? "args_base64").bind Json.string?
  let args ← decodeArgs? levels encoded
  some ⟨contract, method, args⟩

private theorem decodeArgs?_encodeArgs {args : Json} (hexact : args.IsExact)
    (hfree : args.IsFreeForm levels) : decodeArgs? levels (encodeArgs args) = some args := by
  have htext := Json.fromUTF8?_toUTF8 args.render
  simp only [decodeArgs?, encodeArgs, String.toList_ofList, Text.Base64.decode?_encode,
    Array.toArray_toList, htext, Json.Written.parse?_render hexact, Option.bind_eq_bind,
    Option.bind_some]
  exact Json.Written.value?_written hfree

private theorem viewBody_fields (call : ViewCall) :
    ∃ params, (viewBody call).get? "params" = some params ∧
      (params.get? "account_id").bind Json.string? = some call.contract ∧
      (params.get? "method_name").bind Json.string? = some call.method ∧
      (params.get? "args_base64").bind Json.string? = some (encodeArgs call.args) :=
  ⟨_, rfl, rfl, rfl, rfl⟩

theorem callOf?_viewBody {call : ViewCall} (hexact : call.args.IsExact)
    (hfree : call.args.IsFreeForm levels) : callOf? levels (viewBody call) = some call := by
  obtain ⟨params, hparams, hcontract, hmethod, hargs⟩ := viewBody_fields call
  simp only [callOf?, hparams, hcontract, hmethod, hargs, decodeArgs?_encodeArgs hexact hfree,
    Option.bind_eq_bind, Option.bind_some]

theorem viewBody_isExact (call : ViewCall) : (viewBody call).IsExact := by
  simp [viewBody, body]

theorem viewBody_isFreeForm (call : ViewCall) : (viewBody call).IsFreeForm Json.deepest := by
  have hdepth : (viewBody call).IsFreeForm 2 := by
    simp [viewBody, body, -String.lt_iff_ltb]
  exact hdepth.mono (by decide)

private theorem callOf?_bytes {call : ViewCall} (hexact : call.args.IsExact)
    (hfree : call.args.IsFreeForm levels) :
    (Json.ofBytes? (viewBody call).render.toUTF8).bind (callOf? levels) = some call := by
  rw [Json.ofBytes?_render (viewBody_isExact call) (viewBody_isFreeForm call), Option.bind_some,
    callOf?_viewBody hexact hfree]

/-- The bytes that are sent for a view are those of a JSON text from which the view is read back,
whatever the text of its arguments is. So the bodies of two views are the same only if the views
are. -/
theorem view_body_determines (call : ViewCall) (levels : ℕ) (hexact : call.args.IsExact)
    (hfree : call.args.IsFreeForm levels) :
    (Json.ofBytes? (viewBody call).render.toUTF8).bind (callOf? levels) = some call ∧
      ∀ (other : ViewCall) (deeper : ℕ), other.args.IsExact → other.args.IsFreeForm deeper →
        ((viewBody call).render.toUTF8 = (viewBody other).render.toUTF8 ↔ call = other) := by
  refine ⟨callOf?_bytes hexact hfree, ?_⟩
  intro other deeper hexact' hfree'
  constructor
  · intro hbytes
    have hcall := callOf?_bytes hexact (hfree.mono (Nat.le_max_left levels deeper))
    have hother := callOf?_bytes hexact' (hfree'.mono (Nat.le_max_right levels deeper))
    rw [hbytes, hother] at hcall
    cases hcall
    rfl
  · rintro rfl
    rfl

/-- The pools of two tokens, of which one is not in ASCII and its arguments have a byte more. -/
theorem view_body_determines_pools :
    let pool (token : String) : ViewCall :=
      ⟨"amm.testnet", "pool_info", .object [("token", .string token)]⟩
    (pool "ł").args.IsExact ∧ (pool "ł").args.IsFreeForm Json.deepest ∧
      (pool "l").args.IsExact ∧ (pool "l").args.IsFreeForm 1 ∧
      (Json.ofBytes? (viewBody (pool "ł")).render.toUTF8).bind (callOf? Json.deepest) =
        some (pool "ł") ∧
      (viewBody (pool "ł")).render.toUTF8 ≠ (viewBody (pool "l")).render.toUTF8 := by
  intro pool
  have hexact : ∀ token, (pool token).args.IsExact := fun token => by simp [pool]
  have hfree : ∀ token, (pool token).args.IsFreeForm 1 := fun token => by simp [pool]
  have hdeep : (pool "ł").args.IsFreeForm Json.deepest := (hfree _).mono (by decide)
  have hne : pool "ł" ≠ pool "l" := by simp [pool]
  obtain ⟨hread, hsame⟩ := view_body_determines (pool "ł") Json.deepest (hexact _) hdeep
  have hdiffer := (hsame (pool "l") 1 (hexact _) (hfree _)).not.mpr hne
  exact ⟨hexact _, hdeep, hexact _, hfree _, hread, hdiffer⟩

end SwapDesk.Rpc
