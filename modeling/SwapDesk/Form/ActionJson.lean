import SwapDesk.Form.Action
import SwapDesk.Form.Snapshot

/-!
# Actions as JSON

An action is written as its name, or as an object with the name as its only field and a record
of what comes with it.
-/

namespace SwapDesk

open Json.Written (perhaps)

namespace Currency

def json (currency : Currency) : Json :=
  .object [("symbol", .string currency.symbol), ("kind", currency.kind.json),
    ("token_index", .natural currency.index.toNat), ("address", .string currency.address),
    ("balance", .optional Amount.json currency.balance)]

def ofWritten (document : Json.Written) : Decoded Currency := do
  match ← document.record ["symbol", "kind", "token_index", "address", "balance"] with
  | [some symbol, some kind, some index, some address, balance] =>
    return ⟨← symbol.text, ← TokenKind.ofWritten kind, ← index.word, ← address.text,
      ← perhaps Json.Written.amount balance⟩
  | _ => .error .form

end Currency

namespace Form.Action

private def withContent (name : String) (fields : List (String × Json)) : Json :=
  .object [(name, .object fields)]

def json : Action → Json
  | setBalance index balance =>
    withContent "SetTokenBalance" [("index", .natural index.toNat), ("balance", balance.json)]
  | setReady => .string "SetStatusReady"
  | setStatus status fault previous =>
    withContent "UpdateSwapStatus" [("status", status.json),
      ("error", .optional SwapFault.json fault), ("previous", .optional Amount.json previous)]
  | clearPrevious => .string "ClearPrevious"
  | setAmount leg amount isValid =>
    withContent "SetAmount" [("leg", leg.json), ("amount", .string amount),
      ("is_valid", .bool isValid)]
  | pick leg currency =>
    withContent "SelectCurrency" [("leg", leg.json), ("currency", currency.json)]
  | togglePicker => .string "ToggleCurrencySelection"
  | togglePickerFor leg => withContent "SetCurrencySelectionInput" [("leg", leg.json)]
  | setApproval needsApproval =>
    withContent "UpdateSwapApproval" [("needs_approval", .bool needsApproval)]
  | clearSwap => .string "ClearSwapInputs"
  | setFault fault =>
    withContent "UpdateSwapError" [("error", .optional SwapFault.json fault)]
  | setAllowance allowance needsApproval =>
    withContent "UpdateInAllowance" [("allowance", allowance.json),
      ("needs_approval", .optional .bool needsApproval)]
  | switchSides => .string "SwitchSwapInputs"

/-- The action of a name that nothing comes with. -/
def plain? (name : String) : Option Action :=
  [("SetStatusReady", setReady), ("ClearPrevious", clearPrevious),
    ("ToggleCurrencySelection", togglePicker), ("ClearSwapInputs", clearSwap),
    ("SwitchSwapInputs", switchSides)].lookup name

def fieldNames (name : String) : List String :=
  match name with
  | "SetTokenBalance" => ["index", "balance"]
  | "UpdateSwapStatus" => ["status", "error", "previous"]
  | "SetAmount" => ["leg", "amount", "is_valid"]
  | "SelectCurrency" => ["leg", "currency"]
  | "SetCurrencySelectionInput" => ["leg"]
  | "UpdateSwapApproval" => ["needs_approval"]
  | "UpdateSwapError" => ["error"]
  | "UpdateInAllowance" => ["allowance", "needs_approval"]
  | _ => []

/-- The action of a name with what comes with it. -/
def ofContent (name : String) (content : Json.Written) : Decoded Action := do
  match name, ← content.record (fieldNames name) with
  | "SetTokenBalance", [some index, some balance] =>
    return setBalance (← index.word) (← balance.amount)
  | "UpdateSwapStatus", [some status, fault, previous] =>
    return setStatus (← SwapStatus.ofWritten status) (← perhaps SwapFault.ofWritten fault)
      (← perhaps Json.Written.amount previous)
  | "SetAmount", [some leg, some amount, some isValid] =>
    return setAmount (← Leg.ofWritten leg) (← amount.text) (← isValid.flag)
  | "SelectCurrency", [some leg, some currency] =>
    return pick (← Leg.ofWritten leg) (← Currency.ofWritten currency)
  | "SetCurrencySelectionInput", [some leg] => return togglePickerFor (← Leg.ofWritten leg)
  | "UpdateSwapApproval", [some needsApproval] => return setApproval (← needsApproval.flag)
  | "UpdateSwapError", [fault] => return setFault (← perhaps SwapFault.ofWritten fault)
  | "UpdateInAllowance", [some allowance, needsApproval] =>
    return setAllowance (← allowance.amount) (← perhaps Json.Written.flag needsApproval)
  | _, _ => .error .form

def ofWritten (document : Json.Written) : Decoded Action := do
  match ← document.alternative with
  | (name, none) => .ofOption (plain? name)
  | (name, some content) =>
    match plain? name, content with
    | some action, .null => return action
    | some _, _ => .error .form
    | none, content => ofContent name content

/-- Reads a value. In a value, other than in a text, what comes with an action is never a list. -/
def ofJson (value : Json) : Decoded Action :=
  match value with
  | .object [(_, .array _)] => .error .form
  | value => ofWritten value.written

def parse (text : String) : Decoded Action := do
  ofWritten (← .ofOption (Json.Written.parse? text))

end Form.Action

end SwapDesk
