import SwapDesk.Double.Nearest

/-!
# Doubles as text

How a double is written and how a decimal text becomes a double.
-/

namespace SwapDesk.Double

/-- A number is written with a point while the exponent of its leading digit is in this range,
and with an exponent outside it. -/
def leastPlain : Int := -5

/-- See `leastPlain`. -/
def mostPlain : Int := 15

/-- A fraction is always shown, if only as a zero. -/
private def plain (digits : List Char) (leading : Int) : List Char :=
  match leading with
  | .negSucc n => '0' :: '.' :: (List.replicate n '0' ++ digits)
  | .ofNat n =>
    if n + 1 < digits.length then digits.take (n + 1) ++ '.' :: digits.drop (n + 1)
    else digits ++ List.replicate (n + 1 - digits.length) '0' ++ ['.', '0']

/-- The exponent has a sign and at least two digits. -/
private def exponential (digits : List Char) (leading : Int) : List Char :=
  let mantissa := match digits with
    | c :: c' :: rest => c :: '.' :: c' :: rest
    | short => short
  let exponent := Nat.toDigits 10 leading.natAbs
  mantissa ++ 'e' :: (if leading < 0 then '-' else '+') ::
    (if exponent.length < 2 then '0' :: exponent else exponent)

private def magnitudeText (m : Magnitude) : List Char :=
  if m.significand = 0 then ['0', '.', '0']
  else
    let d := shortest m
    let digits := Nat.toDigits 10 d.digits
    let leading := d.exponent + (digits.length : Int) - 1
    if leastPlain ≤ leading ∧ leading ≤ mostPlain then plain digits leading
    else exponential digits leading

def signBit : Nat := 0x8000000000000000

/-- A finite double with a point or an exponent, in its shortest digits. -/
def text (x : Float) : List Char :=
  let bits := x.toBits
  let unsigned := magnitudeText (magnitude bits)
  if bits.toNat < signBit then unsigned else '-' :: unsigned

/-- A finite double without an exponent, and without a point if it is whole. -/
def plainText (x : Float) : List Char :=
  let bits := x.toBits
  let m := magnitude bits
  let unsigned :=
    if m.significand = 0 then ['0']
    else
      let d := shortest m
      let digits := Nat.toDigits 10 d.digits
      let leading := d.exponent + (digits.length : Int) - 1
      if 0 ≤ d.exponent then digits ++ List.replicate d.exponent.toNat '0'
      else plain digits leading
  if bits.toNat < signBit then unsigned else '-' :: unsigned

/-- The greatest significand that a reader keeps: later digits only move the point. -/
def greatestSignificand : Nat := 0xffffffffffffffff

/-- Takes digits into a significand while it stays in bounds, and gives back the others. -/
private def takeDigits (significand : Nat) : List Char → Nat × List Char
  | [] => (significand, [])
  | c :: rest =>
    let next := significand * 10 + (c.toNat - '0'.toNat)
    if next ≤ greatestSignificand then takeDigits next rest else (significand, c :: rest)

/-- The double nearest to `10 ^ e`. -/
private def power (e : Nat) : Float := nearest false ['1'] [] e

/-- The double `significand * 10 ^ exponent`, by one rounded multiplication or by rounded
divisions. There is none if it would be infinite. -/
private def scale? (significand : Nat) (exponent : Int) : Option Float :=
  let x := significand.toUInt64.toFloat
  match exponent with
  | .ofNat e =>
    if significand = 0 then some x
    else if 308 < e then none
    else
      let y := x * power e
      if y.isInf then none else some y
  | .negSucc e =>
    let down := e + 1
    if down ≤ 308 then some (x / power down)
    else if down ≤ 616 then some (x / power 308 / power (down - 308))
    else some 0

/-- The double that a decimal text stands for: its sign, its digits before and after the point
and its exponent. There is none beyond the range of the doubles. -/
def ofDecimal? (negative : Bool) (whole fraction : List Char) (exponent : Int) : Option Float :=
  let (front, dropped) := takeDigits 0 whole
  let (significand, unread) := takeDigits front fraction
  let shift := exponent + (dropped.length : Int) - ((fraction.length - unread.length : Nat) : Int)
  (scale? significand shift).map fun x => if negative then -x else x

end SwapDesk.Double
