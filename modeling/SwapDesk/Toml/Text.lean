import SwapDesk.Json.Parser

/-!
# Strings in TOML

Basic strings, between double quotes, have escapes; literal strings, between single quotes, have
none. Three quotes open and close a string that may span lines. A reader takes the text after
what has been recognized and gives back the text after the string.
-/

namespace SwapDesk.Toml

/-- A character of a bare key, a number or a date. -/
def isWordChar (c : Char) : Bool := c.isAlphanum || c = '-' || c = '_'

/-- The longest word that a text starts with, and what follows it. -/
def word (s : List Char) : List Char × List Char := (s.takeWhile isWordChar, s.dropWhile isWordChar)

def isGap (c : Char) : Bool := c = ' ' || c = '\t'

def skipGap (s : List Char) : List Char := s.dropWhile isGap

/-- Characters that may stand in a string or a comment: all but the controls other than tabs. -/
def isPlain (c : Char) : Bool := c = '\t' || 0x20 ≤ c.toNat

/-- A character whose code has `count` hexadecimal digits. -/
def codeEscape? (count : Nat) (s : List Char) : Option (List Char × List Char) := do
  let digits := s.take count
  if digits.length < count then none
  else
    let values ← digits.mapM Json.Grammar.hexValue?
    let code := values.foldl (fun n d => n * 16 + d) 0
    if code.isValidChar then some ([Char.ofNat code], s.drop count) else none

/-- A backslash at the end of a line joins the lines: the blanks up to the next text vanish. -/
def lineJoin? (s : List Char) : Option (List Char × List Char) :=
  match skipGap s with
  | '\n' :: rest => some ([], rest.dropWhile fun c => isGap c || c = '\n')
  | _ => none

/-- What an escape stands for, after the backslash. -/
def escape? (spansLines : Bool) : List Char → Option (List Char × List Char)
  | [] => none
  | c :: rest =>
    if c = '"' ∨ c = '\\' then some ([c], rest)
    else if c = 'b' then some (['\x08'], rest)
    else if c = 'f' then some (['\x0c'], rest)
    else if c = 'n' then some (['\n'], rest)
    else if c = 'r' then some (['\r'], rest)
    else if c = 't' then some (['\t'], rest)
    else if c = 'u' then codeEscape? 4 rest
    else if c = 'U' then codeEscape? 8 rest
    else if spansLines then lineJoin? (c :: rest)
    else none

/-- What follows three quotes that close a string: up to two more quotes belong to it. -/
def closing (quote : Char) (s : List Char) : List Char × List Char :=
  let extra := (s.take 2).takeWhile (· == quote)
  (extra, s.drop extra.length)

/-- The rest of a string. Each character takes at most one step of the fuel. -/
def content? (quote : Char) (spansLines : Bool) :
    Nat → List Char → Option (List Char × List Char)
  | 0, _ => none
  | _, [] => none
  | fuel + 1, c :: rest =>
    let more (head rest : List Char) := do
      let (tail, rest) ← content? quote spansLines fuel rest
      some (head ++ tail, rest)
    if c = quote then
      if !spansLines then some ([], rest)
      else match rest with
        | c' :: c'' :: after =>
          if c' = quote ∧ c'' = quote then some (closing quote after) else more [c] rest
        | _ => more [c] rest
    else if c = '\n' then if spansLines then more [c] rest else none
    else if c = '\\' ∧ quote = '"' then do
      let (head, rest) ← escape? spansLines rest
      more head rest
    else if isPlain c ∧ c ≠ '\x7f' then more [c] rest
    else none

/-- A string after its first quote, and whether it may span lines. A line break right after three
quotes is not part of it. -/
def string? (quote : Char) (s : List Char) : Option ((List Char × Bool) × List Char) :=
  let read (spansLines : Bool) (s : List Char) := do
    let (content, rest) ← content? quote spansLines (s.length + 1) s
    some ((content, spansLines), rest)
  match s with
  | c :: rest =>
    if c ≠ quote then read false s
    else match rest with
      | c' :: '\n' :: after => if c' = quote then read true after else some (([], false), rest)
      | c' :: after => if c' = quote then read true after else some (([], false), rest)
      | [] => some (([], false), rest)
  | [] => none

end SwapDesk.Toml
