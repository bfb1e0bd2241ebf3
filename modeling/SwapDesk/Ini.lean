import SwapDesk.Json.Parser
import SwapDesk.Text.Blank

/-!
# Reading INI

Keys and values with `=` or `:` between them, in sections. All values are strings. A comment
starts at the beginning of a line; a key reaches up to the sign after it, whatever is in between.
-/

namespace SwapDesk.Ini

/-- Where a piece of text ends. -/
inductive Stop
  | sign
  | bracket
  | line
  | quote (c : Char)

/-- Whether the text ends before this character. -/
def Stop.isAt (c : Char) : Stop → Bool
  | sign => c = '=' || c = ':'
  | bracket => c = ']'
  | line => c = '\n' || c = '\r'
  | quote q => c = q

/-- Whether the end of the document ends the text, too. -/
def Stop.isAtEnd : Stop → Bool
  | line => true
  | _ => false

/-- The character of a code of four places, of which the first may be a plus. -/
def code? (a b c d : Char) : Option Char := do
  let digits := if a = '+' then [b, c, d] else [a, b, c, d]
  let values ← digits.mapM Json.Grammar.hexValue?
  let code := values.foldl (fun n d => n * 16 + d) 0
  if code.isValidChar then some (Char.ofNat code) else none

/-- What an escaped character other than `x` stands for. A line break vanishes. -/
def escaped (c : Char) : List Char :=
  if c = '0' then ['\x00']
  else if c = 'a' then ['\x07']
  else if c = 'b' then ['\x08']
  else if c = 't' then ['\t']
  else if c = 'r' then ['\r']
  else if c = 'n' then ['\n']
  else if c = '\n' then []
  else [c]

/-- The text up to where it stops, and what follows from there on. -/
def textUntil? (stop : Stop) : List Char → Option (List Char × List Char)
  | [] => if stop.isAtEnd then some ([], []) else none
  | '\\' :: 'x' :: a :: b :: c :: d :: rest => do
    let character ← code? a b c d
    let (more, rest) ← textUntil? stop rest
    some (character :: more, rest)
  | '\\' :: c :: rest =>
    if c = 'x' then none
    else do
      let (more, rest) ← textUntil? stop rest
      some (escaped c ++ more, rest)
  | c :: rest =>
    if stop.isAt c then some ([], c :: rest)
    else if c = '\\' then none
    else do
      let (more, rest) ← textUntil? stop rest
      some (c :: more, rest)

/-- A value after its sign. Quotes around its beginning are dropped. -/
def value? (s : List Char) : Option (String × List Char) := do
  let inLine (c : Char) : Bool := c = '\t' || (Text.isBlank c && c != '\n' && c != '\r')
  let (text, rest) ← match s.dropWhile inLine with
    | '"' :: rest | '\'' :: rest => do
      let (quoted, rest) ← textUntil? (.quote ((s.dropWhile inLine).headD '"')) rest
      let (more, rest) ← textUntil? .line (rest.drop 1)
      some (quoted ++ more, rest)
    | rest => textUntil? .line rest
  some (String.ofList (Text.trim text), rest)

/-- A section or a value, as a document names them one after the other. -/
inductive Statement
  | section (name : String)
  | value (key value : String)

/-- Blanks and line breaks, and whether what follows them stands at the beginning of a line. -/
def skipBlanks (atStart : Bool) : List Char → Bool × List Char
  | [] => (atStart, [])
  | c :: rest =>
    if Text.isBlank c then skipBlanks (c == '\n') rest else (atStart, c :: rest)

/-- Reads the statements that are left. Each piece of text takes a step of the fuel. -/
def statements? (fuel : Nat) (key : String) (atStart : Bool) (s : List Char) :
    Option (List Statement) :=
  match fuel with
  | 0 => none
  | fuel + 1 =>
    match skipBlanks atStart s with
    | (_, []) => some []
    | (atStart, c :: rest) =>
      if c = ';' ∨ c = '#' then
        if atStart then statements? fuel key true ((rest.dropWhile (· != '\n')).drop 1) else none
      else if c = '[' then do
        let (name, rest) ← textUntil? .bracket rest
        let more ← statements? fuel key false (rest.drop 1)
        some (.section (String.ofList (Text.trim name)) :: more)
      else if c = '=' ∨ c = ':' then
        if key = "" then none
        else do
          let (value, rest) ← value? rest
          let more ← statements? fuel "" false rest
          some (.value key value :: more)
      else do
        let (text, rest) ← textUntil? .sign (c :: rest)
        statements? fuel (String.ofList (Text.trim text)) false rest

/-- The values up to the next section, and the sections after that with their values. -/
def sections : List Statement → List (String × Json) × List (String × Json)
  | [] => ([], [])
  | .value key value :: rest =>
    let (values, more) := sections rest
    ((key, .string value) :: values, more)
  | .section name :: rest =>
    let (values, more) := sections rest
    ([], (name, .ofFields values) :: more)

/-- The value that a document is. Values outside of all sections stand beside the sections. -/
def parse? (text : String) : Option Json := do
  let s := text.toList
  let (values, more) := sections (← statements? (s.length + 1) "" true s)
  some (.ofFields (values ++ more))

end SwapDesk.Ini
