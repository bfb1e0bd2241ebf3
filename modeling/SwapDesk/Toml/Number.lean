import SwapDesk.Double.Nearest
import SwapDesk.Json.Basic
import SwapDesk.Toml.Date
import SwapDesk.Toml.Text

/-!
# Numbers in TOML

Integers of 64 bits, in four bases, and doubles. Digits may be grouped by single underscores.
-/

namespace SwapDesk.Toml

/-- A run of digits with single underscores between them, without the underscores, and what
follows it. Where `zeros` does not hold, no zero may stand before other digits. -/
def digitRun? (isDigit : Char → Bool) (zeros : Bool) (s : List Char) :
    Option (List Char × List Char) :=
  let inRun (c : Char) : Bool := isDigit c || c == '_'
  let run := s.takeWhile inRun
  let digits := run.filter (· != '_')
  let grouped := (run.zip (run.drop 1)).all fun (a, b) => a != '_' || b != '_'
  let headed := zeros || digits.length ≤ 1 || digits.head? != some '0'
  if run = [] ∨ run.head? = some '_' ∨ run.getLast? = some '_' ∨ !grouped ∨ !headed then none
  else some (digits, s.dropWhile inRun)

/-- The digits in a base that is a power of two. -/
def based? (base : Nat) (s : List Char) : Option Json := do
  let digitOf (c : Char) : Option Nat :=
    (Json.Grammar.hexValue? c).filter fun d => decide (d < base)
  let (digits, rest) ← digitRun? (fun c => (digitOf c).isSome) true s
  let n := digits.foldl (fun n c => n * base + (digitOf c).getD 0) 0
  if rest = [] then Json.signed? false n else none

/-- The text without a minus before it, and whether there was one. -/
def signed : List Char → Bool × List Char
  | '-' :: s => (true, s)
  | s => (false, s)

def integer? (s : List Char) : Option Json := do
  let (negative, s) := signed s
  let (digits, rest) ← digitRun? Char.isDigit false s
  if rest = [] then Json.signed? negative (Nat.ofDigitChars 10 digits 0) else none

def exponentOf (negative : Bool) (digits : List Char) : Int :=
  let n : Int := Nat.ofDigitChars 10 digits 0
  if negative then -n else n

/-- The exponent of a double, and what follows it. The text is that of a word; a plus, and the
digits after it, stand behind the word. -/
def exponent? (s rest : List Char) : Option (Int × List Char) :=
  match s with
  | [] => some (0, rest)
  | e :: s =>
    if e ≠ 'e' ∧ e ≠ 'E' then none
    else match s, rest with
      | [], '+' :: rest => do
        let (after, rest) := word rest
        let (digits, s) ← digitRun? Char.isDigit true after
        if s = [] then some (exponentOf false digits, rest) else none
      | s, rest => do
        let (negative, s) := signed s
        let (digits, s) ← digitRun? Char.isDigit true s
        if s = [] then some (exponentOf negative digits, rest) else none

def double? (first rest : List Char) : Option (Json × List Char) := do
  let (negative, s) := signed first
  let (whole, s) ← digitRun? Char.isDigit false s
  let (fraction, s, rest) ← match rest with
    | '.' :: rest => do
      let (after, rest) := word rest
      let (fraction, more) ← digitRun? Char.isDigit true after
      if s = [] then some (fraction, more, rest) else none
    | rest => some ([], s, rest)
  let (exponent, rest) ← exponent? s rest
  let x := Double.nearest negative whole fraction exponent
  if x.isInf then none else some (.number (.double x), rest)

def number? (first rest : List Char) : Option (Json × List Char) :=
  match first with
  | '0' :: 'x' :: digits => (based? 16 digits).map (·, rest)
  | '0' :: 'o' :: digits => (based? 8 digits).map (·, rest)
  | '0' :: 'b' :: digits => (based? 2 digits).map (·, rest)
  | _ =>
    if first.contains 'e' ∨ first.contains 'E' ∨ rest.head? = some '.' then double? first rest
    else match signed first with
      | (negative, ['i', 'n', 'f']) =>
        some (.number (.double (if negative then -(1 / 0) else 1 / 0)), rest)
      | (_, ['n', 'a', 'n']) => some (.number (.double (0 / 0)), rest)
      | _ => (integer? first).map (·, rest)

/-- Whether a word starts a date or a time, given what follows it. -/
def startsDate (first rest : List Char) : Bool :=
  let tail := first.drop 1
  first.contains 'T' || first.contains 't' || rest.head? == some ':' ||
    (tail.contains '-' && !(first.zip tail).any fun (a, b) => (a == 'e' || a == 'E') && b == '-')

/-- A date or a time that starts with a word. A day and a time of day may have one blank between
them. -/
def dated? (first rest : List Char) : Option (Json × List Char) := do
  let join (mark : Char) (text rest : List Char) : Option (List Char × List Char) :=
    match word rest with
    | ([], _) => none
    | (more, rest) => some (text ++ mark :: more, rest)
  let (text, rest) := match rest with
    | ' ' :: after => (join ' ' first after).getD (first, rest)
    | rest => (first, rest)
  let (text, rest) ← match rest with
    | ':' :: rest => do
      let (text, rest) ← join ':' text rest
      let (text, rest) ← match rest with
        | ':' :: rest => join ':' text rest
        | _ => none
      let (text, rest) ← match rest with
        | '.' :: rest => join '.' text rest
        | rest => some (text, rest)
      let (text, rest) ← match rest with
        | '+' :: rest => join '+' text rest
        | rest => some (text, rest)
      match rest with
        | ':' :: rest => join ':' text rest
        | rest => some (text, rest)
    | rest => some (text, rest)
  some (.string (String.ofList (← date? text)), rest)

/-- A value that starts with a word: a flag, a date or a number. -/
def wordValue? (s : List Char) : Option (Json × List Char) :=
  match word s with
  | (['t', 'r', 'u', 'e'], rest) => some (.bool true, rest)
  | (['f', 'a', 'l', 's', 'e'], rest) => some (.bool false, rest)
  | (first, rest) =>
    match first.head? with
    | none => none
    | some c =>
      if c = '-' ∨ c.isDigit ∨ first = ['i', 'n', 'f'] ∨ first = ['n', 'a', 'n'] then
        if startsDate first rest then dated? first rest else number? first rest
      else none

/-- A number after a plus. -/
def plusValue? (s : List Char) : Option (Json × List Char) :=
  match word s with
  | ([], _) => none
  | (first, rest) => number? first rest

end SwapDesk.Toml
