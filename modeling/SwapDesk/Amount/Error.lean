import SwapDesk.Decimal.Point
import SwapDesk.Text.Quoted

/-!
# Refused amounts

Why a text is not an amount, and the message that says so.
-/

namespace SwapDesk

/-- Why a text is refused as an amount. -/
inductive AmountFault
  | unexpected (character : Char) (position : Nat)
  | secondPoint
  | tooPrecise (fractionDigits : Nat)
  | noDigits
deriving DecidableEq

/-- A refused text, without the blanks around it, and what is wrong with it. -/
structure AmountError where
  input : String
  fault : AmountFault
deriving DecidableEq

def AmountFault.message : AmountFault → String
  | unexpected c position =>
    "unexpected character " ++ String.ofList (Text.quotedChar c) ++ " at position " ++
      toString position
  | secondPoint => "more than one decimal point"
  | tooPrecise n =>
    toString n ++ " fractional digits exceed the " ++ toString Decimal.places ++ " supported"
  | noDigits => "no digits"

def AmountError.message (e : AmountError) : String :=
  "invalid amount " ++ String.ofList (Text.quoted e.input.toList) ++ ": " ++ e.fault.message

end SwapDesk
