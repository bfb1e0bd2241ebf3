import SwapDesk.Form.Basic
import SwapDesk.Json.Parser
import SwapDesk.Json.Printer

/-!
# Snapshots of a form

The JSON form of a form. Signing a transaction leads away from the program, and a snapshot
restores the form afterwards.
-/

namespace SwapDesk

open Json.Written (perhaps)

namespace SwapStatus

def name : SwapStatus → String
  | notReady => "notReadyToSwap"
  | ready => "readyToSwap"
  | approving => "isApproving"
  | swapping => "isSwapping"
  | fetching => "fetchingData"

def json (status : SwapStatus) : Json := .string status.name

def ofWritten : Json.Written → Decoded SwapStatus :=
  Json.Written.oneOf ([notReady, ready, approving, swapping, fetching].map fun s => (s.name, s))

end SwapStatus

namespace SwapFault

def name : SwapFault → String
  | sameCurrency => "SameCurrency"
  | notSignedIn => "NotSignedIn"
  | insufficientBalance => "InsufficientBalance"
  | insufficientLiquidity => "InsufficientLiquidity"
  | zeroAmount => "ZeroAmount"
  | invalidAmounts => "InvalidAmounts"

def json (fault : SwapFault) : Json := .string fault.name

def ofWritten : Json.Written → Decoded SwapFault :=
  Json.Written.oneOf ([sameCurrency, notSignedIn, insufficientBalance, insufficientLiquidity,
    zeroAmount, invalidAmounts].map fun f => (f.name, f))

end SwapFault

namespace Leg

def name : Leg → String
  | swapIn => "SwapIn"
  | swapOut => "SwapOut"
  | pool1 => "Pool1"
  | pool2 => "Pool2"

def json (leg : Leg) : Json := .string leg.name

def ofWritten : Json.Written → Decoded Leg :=
  Json.Written.oneOf ([swapIn, swapOut, pool1, pool2].map fun l => (l.name, l))

end Leg

namespace CurrencyField

def json (field : CurrencyField) : Json :=
  .object [("amount", .string field.amount), ("symbol", .string field.symbol),
    ("kind", .optional TokenKind.json field.kind), ("token_index", .natural field.index.toNat),
    ("address", .string field.address), ("is_valid", .bool field.isValid),
    ("allowance", .optional Amount.json field.allowance),
    ("balance", .optional Amount.json field.balance)]

def ofWritten (document : Json.Written) : Decoded CurrencyField := do
  match ← document.record ["amount", "symbol", "kind", "token_index", "address", "is_valid",
      "allowance", "balance"] with
  | [some amount, some symbol, kind, some index, some address, some isValid, allowance, balance] =>
    return ⟨← amount.text, ← symbol.text, ← perhaps TokenKind.ofWritten kind, ← index.word,
      ← address.text, ← isValid.flag, ← perhaps Json.Written.amount allowance,
      ← perhaps Json.Written.amount balance⟩
  | _ => .error .form

end CurrencyField

namespace SwapForm

def json (swap : SwapForm) : Json :=
  .object [("in", swap.input.json), ("out", swap.output.json),
    ("error", .optional SwapFault.json swap.fault), ("needs_approval", .bool swap.needsApproval),
    ("status", swap.status.json), ("previous", .optional Amount.json swap.previous)]

def ofWritten (document : Json.Written) : Decoded SwapForm := do
  match ← document.record ["in", "out", "error", "needs_approval", "status", "previous"] with
  | [some input, some output, fault, some needsApproval, some status, previous] =>
    return ⟨← CurrencyField.ofWritten input, ← CurrencyField.ofWritten output,
      ← perhaps SwapFault.ofWritten fault, ← needsApproval.flag, ← SwapStatus.ofWritten status,
      ← perhaps Json.Written.amount previous⟩
  | _ => .error .form

end SwapForm

namespace PoolForm

def json (pool : PoolForm) : Json :=
  .object [("input1", pool.first.json), ("input2", pool.second.json)]

def ofWritten (document : Json.Written) : Decoded PoolForm := do
  match ← document.record ["input1", "input2"] with
  | [some first, some second] =>
    return ⟨← CurrencyField.ofWritten first, ← CurrencyField.ofWritten second⟩
  | _ => .error .form

end PoolForm

namespace Picker

def json (picker : Picker) : Json :=
  .object [("is_visible", .bool picker.isVisible),
    ("selected_input", .optional Leg.json picker.leg)]

def ofWritten (document : Json.Written) : Decoded Picker := do
  match ← document.record ["is_visible", "selected_input"] with
  | [some isVisible, leg] => return ⟨← isVisible.flag, ← perhaps Leg.ofWritten leg⟩
  | _ => .error .form

end Picker

namespace Form

def json (form : Form) : Json :=
  .object [("swap", form.swap.json), ("pool", form.pool.json),
    ("currency_selection", form.picker.json)]

def ofWritten (document : Json.Written) : Decoded Form := do
  match ← document.record ["swap", "pool", "currency_selection"] with
  | [some swap, some pool, some picker] =>
    return ⟨← SwapForm.ofWritten swap, ← PoolForm.ofWritten pool, ← Picker.ofWritten picker⟩
  | _ => .error .form

def save (form : Form) : String := form.json.render

def load (snapshot : String) : Decoded Form := do
  ofWritten (← .ofOption (Json.Written.parse? snapshot))

end Form

end SwapDesk
