import SwapDesk.Decimal.Trim

/-!
# Texts with a point

A count of units as a decimal text in whole tokens. The point stands `places` digits from the
end, and the fraction is shown in full, cut to fewer digits, or as short as possible.
-/

namespace SwapDesk.Decimal

/-- One whole token is `10 ^ places` units. -/
def places : Nat := 24

/-- How many digits of the fraction are shown. -/
inductive Precision
  | full
  | truncated (digits : Nat)
deriving DecidableEq

namespace Precision

/-- Enough digits for a compact balance. -/
def compact : Precision := .truncated 5

def fractionDigits : Precision → Nat
  | full => places
  | truncated n => min n places

end Precision

/-- The text filled up with zeros from the left to at least `n` characters. -/
def padLeft (n : Nat) (s : List Char) : List Char :=
  List.replicate (n - s.length) '0' ++ s

/-- A text of units in whole tokens. It may hold any characters; the last `places` of them are
the fraction, and the others, without leading zeros, stand before the point. -/
def pointed (precision : Precision) (units : List Char) : List Char :=
  let padded := padLeft (places + 1) units
  let whole := canonical (padded.take (padded.length - places))
  let fraction := padded.drop (padded.length - places)
  match precision.fractionDigits with
  | 0 => whole
  | n + 1 => whole ++ '.' :: fraction.take (n + 1)

/-- The shortest text of units in whole tokens. -/
def shortest (units : List Char) : List Char :=
  let trimmed := trimZeros (pointed .full units)
  let headed := if trimmed.head? = some '.' then '0' :: trimmed else trimmed
  if headed.getLast? = some '.' then headed.dropLast else headed

end SwapDesk.Decimal
