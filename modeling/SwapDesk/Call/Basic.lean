import SwapDesk.Json.Printer
import SwapDesk.Token

/-!
# Calls

Invocations of contract methods as data. A view is answered at once, a function call changes the
chain and has to be signed first.
-/

namespace SwapDesk

/-- A read-only invocation of a contract method. -/
structure ViewCall where
  contract : String
  method : String
  args : Json

/-- An invocation that changes the chain, ready to be signed. -/
structure FunctionCall where
  contract : String
  method : String
  args : Json
  gas : UInt64
  deposit : Amount

/-- What a free-form value may nest inside a call: one level less than a document. -/
def deepestArgs : Nat := Json.deepest - 1

namespace ViewCall

def json (call : ViewCall) : Json :=
  .object [("contract_id", .string call.contract), ("method", .string call.method),
    ("args", call.args)]

def ofWritten (document : Json.Written) : Decoded ViewCall := do
  match ← document.record ["contract_id", "method", "args"] with
  | [some contract, some method, some args] =>
    return ⟨← contract.text, ← method.text, ← .ofOption (args.value? deepestArgs)⟩
  | _ => .error .form

end ViewCall

namespace FunctionCall

def json (call : FunctionCall) : Json :=
  .object [("contract_id", .string call.contract), ("method", .string call.method),
    ("args", call.args), ("gas", .natural call.gas.toNat), ("deposit", call.deposit.json)]

def ofWritten (document : Json.Written) : Decoded FunctionCall := do
  match ← document.record ["contract_id", "method", "args", "gas", "deposit"] with
  | [some contract, some method, some args, some gas, some deposit] =>
    return ⟨← contract.text, ← method.text, ← .ofOption (args.value? deepestArgs),
      ← gas.word, ← deposit.amount⟩
  | _ => .error .form

end FunctionCall

end SwapDesk
