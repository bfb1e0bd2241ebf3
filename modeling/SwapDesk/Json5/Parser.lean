import SwapDesk.Double.Nearest
import SwapDesk.Json.Parser
import SwapDesk.Json5.Name
import SwapDesk.Text.Blank

/-!
# Reading JSON5

JSON with comments, keys without quotes, strings in single quotes, commas after the last item and
more ways to write a number.
-/

namespace SwapDesk.Json5

def isLineEnd (c : Char) : Bool := c = '\n' || c = '\r' || c = '\u2028' || c = '\u2029'

def isSpace (c : Char) : Bool := (Text.isBlank c && c != '\u0085') || c == '\ufeff'

/-- A text after the end of a comment in the middle of a line. -/
def afterComment : List Char → Option (List Char)
  | [] => none
  | '*' :: '/' :: rest => some rest
  | _ :: rest => afterComment rest

/-- Blanks and comments. Each takes a step of the fuel. -/
def skip : Nat → List Char → List Char
  | 0, s => s
  | fuel + 1, s =>
    match s.dropWhile isSpace with
    | '/' :: '/' :: rest => skip fuel (rest.dropWhile fun c => !isLineEnd c)
    | '/' :: '*' :: rest =>
      match afterComment rest with
      | some rest => skip fuel rest
      | none => '/' :: '*' :: rest
    | rest => rest

def skipSpace (s : List Char) : List Char := skip (s.length + 1) s

/-- What an escaped character other than a code stands for. -/
def escaped? (c : Char) : Option (List Char) :=
  if c = 'b' then some ['\x08']
  else if c = 'f' then some ['\x0c']
  else if c = 'n' then some ['\n']
  else if c = 'r' then some ['\r']
  else if c = 't' then some ['\t']
  else if c = 'v' then some ['\x0b']
  else if c = '0' then some ['\x00']
  else if isLineEnd c then some []
  else if c.isDigit ∨ c = 'x' ∨ c = 'u' then none
  else some [c]

def code? (a b c d : Char) : Option Nat := do
  some ((((← Json.Grammar.hexValue? a) * 16 + (← Json.Grammar.hexValue? b)) * 16 +
    (← Json.Grammar.hexValue? c)) * 16 + (← Json.Grammar.hexValue? d))

def pieces? (quote : Char) : List Char → Option (List Json.Grammar.Piece × List Char)
  | [] => none
  | '\\' :: 'u' :: a :: b :: c :: d :: rest => do
    let n ← code? a b c d
    let (more, rest) ← pieces? quote rest
    some (.code n :: more, rest)
  | '\\' :: 'x' :: a :: b :: rest => do
    let n := (← Json.Grammar.hexValue? a) * 16 + (← Json.Grammar.hexValue? b)
    let (more, rest) ← pieces? quote rest
    some (.code n :: more, rest)
  | '\\' :: '\r' :: '\n' :: rest => pieces? quote rest
  | '\\' :: c :: rest => do
    let characters ← escaped? c
    let (more, rest) ← pieces? quote rest
    some (characters.map .character ++ more, rest)
  | c :: rest =>
    if c = quote then some ([], rest)
    else if c = '\\' ∨ isLineEnd c then none
    else do
      let (more, rest) ← pieces? quote rest
      some (.character c :: more, rest)

def string? (quote : Char) (s : List Char) : Option (String × List Char) := do
  let (parts, rest) ← pieces? quote s
  some (String.ofList (← Json.Grammar.joined? parts), rest)

/-- The parts of a key without quotes. An escaped character need not be one of a name. -/
def nameParts (first : Bool) : List Char → List Json.Grammar.Piece × List Char
  | [] => ([], [])
  | '\\' :: 'u' :: a :: b :: c :: d :: rest =>
    match code? a b c d with
    | some n =>
      let (more, rest) := nameParts false rest
      (.code n :: more, rest)
    | none => ([], '\\' :: 'u' :: a :: b :: c :: d :: rest)
  | c :: rest =>
    if (if first then isNameStart c else isNamePart c) then
      let (more, rest) := nameParts false rest
      (.character c :: more, rest)
    else ([], c :: rest)

def key? (s : List Char) : Option (String × List Char) :=
  match s with
  | '"' :: rest | '\'' :: rest => string? (s.headD '"') rest
  | s =>
    match nameParts true s with
    | ([], _) => none
    | (parts, rest) => (Json.Grammar.joined? parts).map fun name => (String.ofList name, rest)

/-- A decimal number after its sign. It is an integer if it has neither point nor exponent, and a
double may not be too big to be finite. -/
def decimal? (negative : Bool) (s : List Char) : Option (Json × List Char) := do
  let whole := s.takeWhile Char.isDigit
  let rest := s.dropWhile Char.isDigit
  let fraction := match rest with
    | '.' :: rest => rest.takeWhile Char.isDigit
    | _ => []
  if (whole = [] ∧ fraction = []) ∨ (whole.head? = some '0' ∧ 1 < whole.length) then none
  else
    let after := match rest with
      | '.' :: rest => rest.dropWhile Char.isDigit
      | rest => rest
    let (exponent, after) ← Json.Grammar.exponentRun? after
    if exponent.isNone ∧ rest.head? ≠ some '.' then
      some (← Json.signed? negative (Nat.ofDigitChars 10 whole 0), after)
    else
      let x := Double.nearest negative whole fraction (exponent.getD 0)
      if x.isInf then none else some (.number (.double x), after)

/-- Numbers in base 16 lie below this. -/
def basedBound : Nat := 0x100000000

/-- A number, or a word that stands for one. A sign before digits in base 16 is refused, and so is
a plus before a word. -/
def number? (s : List Char) : Option (Json × List Char) :=
  let (negative, unsigned) := Double.signed s
  let isPlus := s.head? == some '+'
  match unsigned with
  | '0' :: 'x' :: rest | '0' :: 'X' :: rest => do
    let isDigit (c : Char) : Bool := (Json.Grammar.hexValue? c).isSome
    let values ← (rest.takeWhile isDigit).mapM Json.Grammar.hexValue?
    let n := values.foldl (fun n d => n * 16 + d) 0
    if values = [] ∨ unsigned ≠ s ∨ basedBound ≤ n then none
    else some (Json.natural n, rest.dropWhile isDigit)
  | 'I' :: 'n' :: 'f' :: 'i' :: 'n' :: 'i' :: 't' :: 'y' :: rest =>
    if isPlus then none
    else some (.number (.double (if negative then -(1 / 0) else 1 / 0)), rest)
  | 'N' :: 'a' :: 'N' :: rest => if isPlus then none else some (.number (.double (0 / 0)), rest)
  | unsigned => decimal? negative unsigned

mutual

/-- A value. The fuel bounds the steps, of which each character takes at most two. -/
def value? (fuel : Nat) (s : List Char) : Option (Json × List Char) :=
  match fuel with
  | 0 => none
  | fuel + 1 =>
    match s with
    | 'n' :: 'u' :: 'l' :: 'l' :: rest => some (.null, rest)
    | 't' :: 'r' :: 'u' :: 'e' :: rest => some (.bool true, rest)
    | 'f' :: 'a' :: 'l' :: 's' :: 'e' :: rest => some (.bool false, rest)
    | '"' :: rest | '\'' :: rest => do
      let (text, rest) ← string? (s.headD '"') rest
      some (.string text, rest)
    | '[' :: rest => do
      let (items, rest) ← items? fuel (skipSpace rest)
      some (.array items, rest)
    | '\x7b' :: rest => do
      let (fields, rest) ← fields? fuel (skipSpace rest)
      some (.ofFields fields, rest)
    | s => number? s

def items? (fuel : Nat) (s : List Char) : Option (List Json × List Char) :=
  match fuel, s with
  | 0, _ => none
  | _, ']' :: rest => some ([], rest)
  | fuel + 1, s => do
    let (item, rest) ← value? fuel s
    match skipSpace rest with
    | ']' :: rest => some ([item], rest)
    | ',' :: rest => do
      let (items, rest) ← items? fuel (skipSpace rest)
      some (item :: items, rest)
    | _ => none

def fields? (fuel : Nat) (s : List Char) : Option (List (String × Json) × List Char) :=
  match fuel, s with
  | 0, _ => none
  | _, '\x7d' :: rest => some ([], rest)
  | fuel + 1, s => do
    let (key, rest) ← key? s
    match skipSpace rest with
    | ':' :: rest => do
      let (value, rest) ← value? fuel (skipSpace rest)
      match skipSpace rest with
      | '\x7d' :: rest => some ([(key, value)], rest)
      | ',' :: rest => do
        let (fields, rest) ← fields? fuel (skipSpace rest)
        some ((key, value) :: fields, rest)
      | _ => none
    | _ => none

end

/-- The object that a document is. Any other value is refused. -/
def parse? (text : String) : Option Json := do
  let s := text.toList
  let (value, rest) ← value? (2 * s.length + 2) (skipSpace s)
  match skipSpace rest, value with
  | [], .object fields => some (.object fields)
  | _, _ => none

end SwapDesk.Json5
