import SwapDesk.Amount.Basic
import SwapDesk.Token

/-!
# Forms

What a user has filled in: the two fields of a swap, the two of a pool, and the dialog in which
a currency is picked for one of the four.
-/

namespace SwapDesk

inductive SwapStatus
  | notReady
  | ready
  | approving
  | swapping
  | fetching
deriving DecidableEq

/-- What keeps a swap from being submitted. -/
inductive SwapFault
  | sameCurrency
  | notSignedIn
  | insufficientBalance
  | insufficientLiquidity
  | zeroAmount
  | invalidAmounts
deriving DecidableEq

/-- One of the four currency fields. -/
inductive Leg
  | swapIn
  | swapOut
  | pool1
  | pool2
deriving DecidableEq

structure CurrencyField where
  /-- The amount as the user has typed it. -/
  amount : String
  symbol : String
  kind : Option TokenKind
  /-- The place of the currency in the list of tokens. -/
  index : UInt64
  address : String
  /-- Whether the amount is a number other than zero. -/
  isValid : Bool
  allowance : Option Amount
  balance : Option Amount
deriving DecidableEq

structure SwapForm where
  input : CurrencyField
  output : CurrencyField
  fault : Option SwapFault
  needsApproval : Bool
  status : SwapStatus
  /-- The balance of the output before the swap was submitted. -/
  previous : Option Amount
deriving DecidableEq

structure PoolForm where
  first : CurrencyField
  second : CurrencyField
deriving DecidableEq

/-- The dialog in which a currency is picked, and the field it is picked for. -/
structure Picker where
  isVisible : Bool
  leg : Option Leg
deriving DecidableEq

structure Form where
  swap : SwapForm
  pool : PoolForm
  picker : Picker
deriving DecidableEq

structure Currency where
  symbol : String
  kind : TokenKind
  index : UInt64
  address : String
  balance : Option Amount
deriving DecidableEq

def SwapFault.message : SwapFault → String
  | sameCurrency => "Cannot swap to same currency."
  | notSignedIn => "Not signed in."
  | insufficientBalance => "Input exceeds balance."
  | insufficientLiquidity => "Insufficient liquidity for trade."
  | zeroAmount => "Enter a non-zero number."
  | invalidAmounts => "Invalid amounts"

namespace CurrencyField

/-- An empty field for the currency at a place of the list. -/
def empty (index : UInt64) : CurrencyField := ⟨"", "", none, index, "", false, none, none⟩

def cleared (field : CurrencyField) : CurrencyField :=
  { field with amount := "", isValid := false }

/-- The field with the balance, if it shows the currency at this place of the list. -/
def noteBalance (index : UInt64) (balance : Amount) (field : CurrencyField) : CurrencyField :=
  if field.index = index then { field with balance := some balance } else field

/-- The field with another currency. The balance stays unless that of the currency is known. -/
def pick (currency : Currency) (field : CurrencyField) : CurrencyField :=
  { field with
    symbol := currency.symbol
    kind := some currency.kind
    index := currency.index
    address := currency.address
    allowance := none
    balance := currency.balance.or field.balance }

end CurrencyField

namespace Form

def initial : Form where
  swap := ⟨.empty 0, .empty 1, none, false, .notReady, none⟩
  pool := ⟨.empty 1, .empty 2⟩
  picker := ⟨false, none⟩

def field (form : Form) : Leg → CurrencyField
  | .swapIn => form.swap.input
  | .swapOut => form.swap.output
  | .pool1 => form.pool.first
  | .pool2 => form.pool.second

def modifyField (change : CurrencyField → CurrencyField) (form : Form) : Leg → Form
  | .swapIn => { form with swap.input := change form.swap.input }
  | .swapOut => { form with swap.output := change form.swap.output }
  | .pool1 => { form with pool.first := change form.pool.first }
  | .pool2 => { form with pool.second := change form.pool.second }

end Form

end SwapDesk
