import SwapDesk.Amount.Basic

/-!
# Account balances

The NEAR of an account: all of it, and the part that is locked.
-/

namespace SwapDesk

structure AccountBalance where
  total : Amount
  locked : Amount
deriving DecidableEq

namespace AccountBalance

/-- The part that can be spent, which is nothing when more is locked than there is. -/
def available (balance : AccountBalance) : Amount :=
  ⟨balance.total.units - balance.locked.units⟩

/-- Balances on the chain are natural numbers of 128 bits, which lie below this. -/
def bound : Nat := 0x100000000000000000000000000000000

/-- Reads a number of a balance: decimal digits, which a plus may precede, below the bound. -/
def readUnits? (s : String) : Option Amount :=
  let digits := match s.toList with
    | '+' :: rest => rest
    | s => s
  if digits ≠ [] ∧ digits.all Char.isDigit ∧ Decimal.value digits < bound then
    some ⟨Decimal.value digits⟩
  else none

end AccountBalance

end SwapDesk
