import SwapDesk.Json.Parser
import SwapDesk.Session.Dialog
import SwapDesk.Text.Base64

/-!
# Requests to a node

How a read-only request is put to a node of the chain: the body that is sent and what its answer
means. A node answers the call of a contract with the bytes of a JSON text.
-/

namespace SwapDesk.Rpc

def body (params : List (String × Json)) : Json :=
  .object [("id", .string "dontcare"), ("jsonrpc", .string "2.0"), ("method", .string "query"),
    ("params", .object params)]

/-- The arguments of a call as they travel: their text in Base64. -/
def encodeArgs (args : Json) : String :=
  String.ofList (Text.Base64.encode args.render.toUTF8.data.toList)

def viewBody (call : ViewCall) : Json :=
  body [("account_id", .string call.contract), ("args_base64", .string (encodeArgs call.args)),
    ("finality", .string "final"), ("method_name", .string call.method),
    ("request_type", .string "call_function")]

def balanceBody (account : String) : Json :=
  body [("account_id", .string account), ("finality", .string "final"),
    ("request_type", .string "view_account")]

def balanceLabel : String := "view_account"

/-- A text stands for itself and any other value for its JSON text. -/
def plainText : Json → String
  | .string s => s
  | value => value.render

/-- The message of an error: its data, its message, or all of it. -/
def errorMessage (error : Json) : String :=
  match error.get? "data", error.get? "message" with
  | some data, _ => plainText data
  | none, some message => plainText message
  | none, none => error.render

/-- The result in an answer. A contract that fails leaves its message inside the result. -/
def result (label : String) (answer : Json) : Except ClientError Json :=
  match answer.get? "error" with
  | some error => .error (.rpc label (errorMessage error))
  | none =>
    match answer.get? "result" with
    | none => .error (.reply label .noResult)
    | some result =>
      match (result.get? "error").bind Json.string? with
      | some message => .error (.rpc label message)
      | none => .ok result

/-- The byte that an item of a result is. -/
def readByte (label : String) (item : Json) : Except ClientError UInt8 :=
  match item.natural? with
  | some n => if n < 256 then .ok (UInt8.ofNat n) else .error (.reply label (.notByte item))
  | none => .error (.reply label (.notByte item))

/-- The value that a contract has answered. No bytes at all stand for `null`. -/
def readValue (label : String) (result : Json) : Except ClientError Json :=
  match (result.get? "result").bind Json.array? with
  | none => .error (.reply label .noBytes)
  | some items => do
    let bytes ← items.mapM (readByte label)
    if bytes.isEmpty then return .null
    match Json.ofBytes? ⟨bytes.toArray⟩ with
    | some value => return value
    | none => throw (.reply label .badJson)

def readView (method : String) (answer : Json) : Except ClientError Json := do
  readValue method (← result method answer)

def readField (result : Json) (name : String) : Except ClientError Amount :=
  match ((result.get? name).bind Json.string?).bind AccountBalance.readUnits? with
  | some amount => .ok amount
  | none => .error (.reply balanceLabel (.badField name))

def readBalanceFields (result : Json) : Except ClientError AccountBalance := do
  let total ← readField result "amount"
  let locked ← readField result "locked"
  return ⟨total, locked⟩

def readBalance (answer : Json) : Except ClientError AccountBalance := do
  readBalanceFields (← result balanceLabel answer)

def readBody (body : Option ByteArray) : Except ClientError Json :=
  match body.bind Json.ofBytes? with
  | some answer => .ok answer
  | none => .error .http

/-- A node whose answers are prepared: the bodies, or none where the connection is closed. When
they have run out every connection is closed. -/
def node : Chain (List (Option ByteArray)) where
  view call answers :=
    (do readView call.method (← readBody (answers.head?.getD none)), answers.tail)
  balance _ answers :=
    (do readBalance (← readBody (answers.head?.getD none)), answers.tail)

def noNode {σ : Type} : Chain σ where
  view _ s := (.error .http, s)
  balance _ s := (.error .http, s)

/-- The body that is sent for a request. Function calls go to the wallet and not to a node. -/
def bodyOf? : Request → Option Json
  | .view call => some (viewBody call)
  | .balance account => some (balanceBody account)
  | .submit _ => none

end SwapDesk.Rpc
