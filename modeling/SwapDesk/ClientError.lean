import SwapDesk.Json.Printer
import SwapDesk.Token

/-!
# Failed operations

The ways in which an operation of a session can fail, each with its message.
-/

namespace SwapDesk

/-- What is wrong with a reply of the chain. -/
inductive ReplyFault
  /-- The reply has no result at all. -/
  | noResult
  /-- The result of a call has no list of bytes. -/
  | noBytes
  /-- An item of the list is not a byte. -/
  | notByte (item : Json)
  /-- A number of an account's balance is missing or unreadable. -/
  | badField (name : String)
  /-- The text of an amount is refused. -/
  | badAmount (e : AmountError)
  /-- A number is not a natural number below `2 ^ 64`. -/
  | notNatural (n : Json.Number)
  /-- The value is neither a string nor a number. -/
  | notAmount (value : Json)
  /-- The bytes are no JSON text, or the value is of another form than the operation expects. -/
  | badJson

inductive ClientError
  | amount (e : AmountError)
  /-- The request got no readable answer. -/
  | http
  /-- The node or the contract refused a call. -/
  | rpc (method message : String)
  | reply (method : String) (fault : ReplyFault)
  | noRoute (source target : TokenKind)
  | notNep21 (symbol : String)
  | zeroAmount (method : String)
  | notSignedIn
  | wallet (message : String)

/-- A value of an unexpected form is not repeated in the message: a mark stands for it. -/
def ReplyFault.message : ReplyFault → String
  | noResult => "missing result"
  | noBytes => "missing result bytes"
  | notByte item => "invalid result byte " ++ item.render
  | badField name => "invalid " ++ name
  | badAmount e => e.message
  | notNatural n => String.ofList n.chars ++ " is not an amount"
  | notAmount value => "expected an amount, got " ++ value.render
  | badJson => "<json>"

def ClientError.message : ClientError → String
  | amount e => e.message
  | http => "HTTP request failed"
  | rpc method message => "RPC call " ++ method ++ " failed: " ++ message
  | reply method fault => "parse error: " ++ method ++ ": " ++ fault.message
  | noRoute source target => "no swap route from " ++ source.name ++ " to " ++ target.name
  | notNep21 symbol => symbol ++ " is not a NEP-21 token"
  | zeroAmount method => method ++ " requires a non-zero amount"
  | notSignedIn => "not signed in"
  | wallet message => "wallet error: " ++ message

end SwapDesk
