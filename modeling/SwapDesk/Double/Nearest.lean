import SwapDesk.Double.Shortest

/-!
# The double nearest to a decimal number

Decimal texts read with correct rounding: of the two doubles around a number the nearer one is
taken, and half way between them the one with the even significand.
-/

namespace SwapDesk.Double

def Ratio.shift (x : Ratio) (exponent : Int) : Ratio :=
  let y := scaled x.num 2 exponent
  ⟨y.num, y.den * x.den⟩

/-- The natural number nearest to a fraction, and half way between two the even one. -/
def Ratio.round (x : Ratio) : Nat :=
  let below := x.num / x.den
  let rest := 2 * (x.num % x.den)
  if x.den < rest ∨ (rest = x.den ∧ below % 2 = 1) then below + 1 else below

/-- The exponent of the last bit that the double nearest to a positive fraction has. The leading
bit of the fraction is known up to one place from the leading bits of its two parts. -/
def Ratio.lastExponent (x : Ratio) : Int :=
  let guess := (x.num.log2 : Int) - (x.den.log2 : Int) - 53
  let e := if guess < -1074 then -1074 else guess
  let y := x.shift (-e)
  if y.num < 2 * hiddenBit * y.den then e else e + 1

/-- The bits of positive infinity, which are above those of all finite numbers. -/
def infinityBits : Nat := 0x7ff0000000000000

/-- The bits of the double nearest to a positive fraction. A significand that the rounding has
filled up carries over into the exponent. -/
def Ratio.bits (x : Ratio) : Nat :=
  let e := x.lastExponent
  let bits := (e + 1074).toNat * hiddenBit + (x.shift (-e)).round
  if bits < infinityBits then bits else infinityBits

/-- The double nearest to a decimal number: its sign, its digits before and after the point and
its exponent. With the leading digit beyond these bounds it is infinite or zero. -/
def nearest (negative : Bool) (whole fraction : List Char) (exponent : Int) : Float :=
  let digits := (whole ++ fraction).dropWhile (· == '0')
  let shift := exponent - (fraction.length : Int)
  let leading := shift + (digits.length : Int)
  let bits : Nat :=
    if digits = [] ∨ leading < -400 then 0
    else if 400 < leading then infinityBits
    else (scaled (Nat.ofDigitChars 10 digits 0) 10 shift).bits
  let size := Float.ofBits (UInt64.ofNat bits)
  if negative then -size else size

/-- The text without a sign before it, and whether the sign is a minus. -/
def signed : List Char → Bool × List Char
  | '-' :: s => (true, s)
  | '+' :: s => (false, s)
  | s => (false, s)

/-- The exponent after a number, which takes all of the text. -/
def exponentOf? : List Char → Option Int
  | [] => some 0
  | e :: s =>
    if e ≠ 'e' ∧ e ≠ 'E' then none
    else
      let (negative, digits) := signed s
      let n : Int := Nat.ofDigitChars 10 digits 0
      if digits ≠ [] ∧ digits.all Char.isDigit then some (if negative then -n else n) else none

/-- The double that a text denotes: a decimal number with digits before or after the point, or
infinity or no number under their names. -/
def ofText? (s : List Char) : Option Float :=
  let (negative, s) := signed s
  let name := s.map Char.toLower
  if name = ['i', 'n', 'f'] ∨ name = "infinity".toList then
    some (if negative then -(1 / 0) else 1 / 0)
  else if name = ['n', 'a', 'n'] then some (0 / 0)
  else
    let whole := s.takeWhile Char.isDigit
    let (fraction, rest) := match s.dropWhile Char.isDigit with
      | '.' :: rest => (rest.takeWhile Char.isDigit, rest.dropWhile Char.isDigit)
      | rest => ([], rest)
    if whole = [] ∧ fraction = [] then none
    else (exponentOf? rest).map (nearest negative whole fraction)

end SwapDesk.Double
