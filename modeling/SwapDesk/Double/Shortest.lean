/-!
# Shortest decimals

A double as the decimal with the fewest digits that reads back as the same double, and of those
the nearest. All arithmetic is on natural numbers.
-/

namespace SwapDesk.Double

/-- A finite double without its sign: the number `significand * 2 ^ exponent`. -/
structure Magnitude where
  significand : Nat
  exponent : Int

/-- The bit of a significand that is not stored. -/
def hiddenBit : Nat := 0x10000000000000

/-- The magnitude of a finite double, from its bits. -/
def magnitude (bits : UInt64) : Magnitude :=
  let fraction : Nat := bits.toNat % hiddenBit
  let biased : Nat := bits.toNat / hiddenBit % 0x800
  if biased = 0 then ⟨fraction, -1074⟩ else ⟨hiddenBit + fraction, (biased : Int) - 1075⟩

/-- The decimal `digits * 10 ^ exponent`. -/
structure Decimal where
  digits : Nat
  exponent : Int

structure Ratio where
  num : Nat
  den : Nat

private def Ratio.lt (a b : Ratio) : Bool := a.num * b.den < b.num * a.den

private def Ratio.le (a b : Ratio) : Bool := a.num * b.den ≤ b.num * a.den

/-- The number `n * base ^ exponent`. -/
def scaled (n base : Nat) (exponent : Int) : Ratio :=
  match exponent with
  | .ofNat e => ⟨n * Nat.pow base e, 1⟩
  | .negSucc e => ⟨n, Nat.pow base (e + 1)⟩

/-- The decimals that read back as a double lie between two bounds, which belong to them only if
the significand is even. -/
private structure Interval where
  low : Ratio
  high : Ratio
  closed : Bool

/-- Half way to each neighbour. Below a power of two the neighbour is half as far. -/
private def Interval.around (m : Magnitude) : Interval :=
  let narrow := m.significand = hiddenBit ∧ -1074 < m.exponent
  { low := scaled (4 * m.significand - (if narrow then 1 else 2)) 2 (m.exponent - 2)
    high := scaled (4 * m.significand + 2) 2 (m.exponent - 2)
    closed := m.significand % 2 = 0 }

private def Interval.contains (i : Interval) (x : Ratio) : Bool :=
  if i.closed then i.low.le x && x.le i.high else i.low.lt x && x.lt i.high

/-- The exponent of the leading digit of a positive number, found by counting down from a bound
that is not too small. -/
private def leadingExponent (x : Ratio) : Nat → Int → Int
  | 0, e => e
  | steps + 1, e => if (scaled 1 10 e).le x then e else leadingExponent x steps (e - 1)

/-- The decimal on the grid of `10 ^ exponent` that is nearest to `x` among the two neighbours of
`x` in the interval. Of two equally near the even one counts. -/
private def onGrid? (i : Interval) (x : Ratio) (exponent : Int) : Option Decimal :=
  let unit := scaled 1 10 exponent
  let below := x.num * unit.den / (x.den * unit.num)
  let multiple (n : Nat) : Ratio := ⟨n * unit.num, unit.den⟩
  let lowIn := 0 < below && i.contains (multiple below)
  let highIn := i.contains (multiple (below + 1))
  let rest := x.num * unit.den % (x.den * unit.num)
  let nearLow := 2 * rest < x.den * unit.num || (2 * rest = x.den * unit.num && below % 2 = 0)
  match lowIn, highIn with
  | true, true => some ⟨if nearLow then below else below + 1, exponent⟩
  | true, false => some ⟨below, exponent⟩
  | false, true => some ⟨below + 1, exponent⟩
  | false, false => none

private def coarsest (i : Interval) (x : Ratio) : Nat → Int → Decimal
  | 0, exponent => ⟨0, exponent⟩
  | steps + 1, exponent =>
    match onGrid? i x exponent with
    | some d => d
    | none => coarsest i x steps (exponent - 1)

private def dropTrailingZeros : Nat → Decimal → Decimal
  | 0, d => d
  | steps + 1, d =>
    if d.digits % 10 = 0 then dropTrailingZeros steps ⟨d.digits / 10, d.exponent + 1⟩ else d

def shortest (m : Magnitude) : Decimal :=
  let x := scaled m.significand 2 m.exponent
  let interval := Interval.around m
  let top := leadingExponent x 640 309
  dropTrailingZeros 20 (coarsest interval x 20 top)

end SwapDesk.Double
