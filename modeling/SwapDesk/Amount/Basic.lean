import SwapDesk.Amount.Scale

/-!
# Amounts

An amount of a token in its smallest units. Its text is the decimal number without leading
zeros; a person reads and writes it in whole tokens of `10 ^ 24` units.
-/

namespace SwapDesk

/-- An amount of a token, counted in its smallest units. -/
structure Amount where
  units : Nat
deriving DecidableEq, Inhabited

namespace Amount

def zero : Amount := ⟨0⟩

def isZero (a : Amount) : Bool := a.units == 0

instance : Ord Amount := ⟨fun a b => compare a.units b.units⟩

instance : LT Amount := ⟨fun a b => a.units < b.units⟩

instance : LE Amount := ⟨fun a b => a.units ≤ b.units⟩

instance (a b : Amount) : Decidable (a < b) := inferInstanceAs (Decidable (a.units < b.units))

instance (a b : Amount) : Decidable (a ≤ b) := inferInstanceAs (Decidable (a.units ≤ b.units))

def digits (a : Amount) : List Char := Decimal.digits a.units

def text (a : Amount) : String := String.ofList a.digits

def human (precision : Decimal.Precision) (a : Amount) : String :=
  String.ofList (Decimal.pointed precision a.digits)

/-- The shortest text of the amount in whole tokens. -/
def display (a : Amount) : String :=
  String.ofList (Decimal.shortest a.digits)

/-- Reads an amount in units: decimal digits, with blanks around them. -/
def ofText (s : String) : Except AmountError Amount :=
  let trimmed := Text.trim s.toList
  let refuse (fault : AmountFault) : Except AmountError Amount :=
    .error ⟨String.ofList trimmed, fault⟩
  if trimmed = [] then refuse .noDigits
  else match trimmed.dropWhile Char.isDigit with
    | [] => .ok ⟨Decimal.value trimmed⟩
    | c :: rest => refuse (.unexpected c (trimmed.length - (rest.length + 1)))

/-- Reads an amount in whole tokens, such as `1.25`. -/
def ofHuman (s : String) : Except AmountError Amount :=
  (Decimal.scale s.toList).map fun units => ⟨Decimal.value units⟩

end Amount

end SwapDesk
