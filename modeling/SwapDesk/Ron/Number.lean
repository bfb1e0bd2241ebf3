import SwapDesk.Double.Nearest
import SwapDesk.Json.Parser

/-!
# Numbers in RON

Integers of 64 bits in four bases, with underscores between their digits, and doubles. An integer
that is too big is read as a double.
-/

namespace SwapDesk.Ron

def isDigitChar (c : Char) : Bool := (Json.Grammar.hexValue? c).isSome || c = '_'

def isDoubleChar (c : Char) : Bool :=
  c.isDigit || c = '.' || c = 'e' || c = 'E' || c = '+' || c = '-'

/-- The base of an integer, which a letter after a zero tells, and its digits. -/
def base : List Char → Nat × List Char
  | '0' :: 'x' :: rest => (16, rest)
  | '0' :: 'o' :: rest => (8, rest)
  | '0' :: 'b' :: rest => (2, rest)
  | s => (10, s)

def natural? (s : List Char) : Option (Nat × List Char) := do
  let (base, s) := base s
  let run := s.takeWhile isDigitChar
  let values ← (run.filter (· ≠ '_')).mapM fun c =>
    (Json.Grammar.hexValue? c).filter fun d => decide (d < base)
  if run = [] ∨ run.head? = some '_' then none
  else some (values.foldl (fun n d => n * base + d) 0, s.dropWhile isDigitChar)

/-- An integer of 64 bits. With a sign before it its own sign takes one of them. -/
def integer? (s : List Char) : Option (Json × List Char) := do
  match s with
  | '+' :: rest | '-' :: rest =>
    let (n, after) ← natural? rest
    some (← Json.signed? (s.head? == some '-') n, after)
  | s =>
    let (n, after) ← natural? s
    if n ≤ Json.greatestNatural then some (Json.natural n, after) else none

def double? (s : List Char) : Option (Json × List Char) := do
  let x ← Double.ofText? (s.takeWhile isDoubleChar)
  some (.number (.double x), s.dropWhile isDoubleChar)

/-- A number. It is a double if more of its characters may stand in one than in an integer, or if
it is no integer. -/
def number? (s : List Char) : Option (Json × List Char) :=
  let unsigned := (Double.signed s).2
  let isDouble :=
    (unsigned.takeWhile isDigitChar).length < (unsigned.takeWhile isDoubleChar).length
  if isDouble then double? s else (integer? s).or (double? s)

end SwapDesk.Ron
