/-!
# Digit strings

Strings of decimal digits as numbers: the number a string denotes, the strings without needless
zeros, and the comparison of two strings by length first.
-/

namespace SwapDesk.Decimal

/-- The number that a string of decimal digits denotes. The empty string denotes zero. -/
def value (digits : List Char) : Nat :=
  Nat.ofDigitChars 10 digits 0

/-- The decimal digits of a number, without leading zeros. -/
def digits (n : Nat) : List Char :=
  Nat.toDigits 10 n

def dropZeros (s : List Char) : List Char :=
  s.dropWhile (· == '0')

/-- The text without the zeros it starts with, and `0` when nothing else is left. -/
def canonical (s : List Char) : List Char :=
  match dropZeros s with
  | [] => ['0']
  | c :: rest => c :: rest

def byteLength (s : List Char) : Nat :=
  s.foldr (fun c bytes => c.utf8Size + bytes) 0

/-- Compares two digit strings by value: of the texts without leading zeros the shorter is the
smaller, and texts of one length compare from the left. -/
def compareDigits (a b : List Char) : Ordering :=
  (compare (byteLength (dropZeros a)) (byteLength (dropZeros b))).then
    (compare (dropZeros a) (dropZeros b))

end SwapDesk.Decimal
