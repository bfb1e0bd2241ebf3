import SwapDesk.Toml.Number
import SwapDesk.Toml.Table

/-!
# Reading TOML

Keys, values and lines, and a document as the value that its lines build up. Every reader gives
back the text after what it has read.
-/

namespace SwapDesk.Toml

/-- One part of a key: a word, or a string on one line. -/
def keyPart? (s : List Char) : Option (String × List Char) :=
  match s with
  | '"' :: rest | '\'' :: rest => do
    let ((content, spansLines), after) ← string? (s.headD '"') rest
    if spansLines then none else some (String.ofList content, after)
  | s =>
    match word s with
    | ([], _) => none
    | (key, rest) => some (String.ofList key, rest)

/-- The parts of a key with points between them. Each part takes a step of the fuel. -/
def keyParts? : Nat → List Char → Option (List String × List Char)
  | 0, _ => none
  | fuel + 1, s => do
    let (part, rest) ← keyPart? s
    match skipGap rest with
    | '.' :: after => do
      let (parts, rest) ← keyParts? fuel (skipGap after)
      some (part :: parts, rest)
    | rest => some ([part], rest)

def key? (s : List Char) : Option (List String × List Char) := keyParts? (s.length + 1) s

/-- The path to the table of a key, and its last part. -/
def splitKey : List String → List String × String
  | [] => ([], "")
  | [key] => ([], key)
  | parent :: rest => let (path, key) := splitKey rest; (parent :: path, key)

def skipComment (s : List Char) : List Char := s.dropWhile isPlain

/-- Blanks, line breaks and comments. Each takes a step of the fuel. -/
def skipLines : Nat → List Char → List Char
  | 0, s => s
  | fuel + 1, s =>
    match skipGap s with
    | '\n' :: rest => skipLines fuel rest
    | '#' :: rest =>
      match skipComment rest with
      | '\n' :: rest => skipLines fuel rest
      | rest => rest
    | rest => rest

mutual

/-- A value. The fuel bounds the steps, of which each character takes at most two. -/
def value? (fuel : Nat) (s : List Char) : Option (Json × List Char) :=
  match fuel with
  | 0 => none
  | fuel + 1 =>
    match s with
    | '"' :: rest => do
      let ((content, _), rest) ← string? '"' rest
      some (.string (String.ofList content), rest)
    | '\'' :: rest => do
      let ((content, _), rest) ← string? '\'' rest
      some (.string (String.ofList content), rest)
    | '[' :: rest => do
      let (items, rest) ← items? fuel (skipLines rest.length rest)
      some (.array items, rest)
    | '{' :: rest =>
      match skipGap rest with
      | '}' :: rest => some (.object [], rest)
      | rest => do
        let (fields, rest) ← fields? fuel [] rest
        some (.ofFields (jsonFields fields), rest)
    | '+' :: rest => plusValue? rest
    | s => wordValue? s

/-- The items of an array up to its closing bracket. A comma may follow the last one. -/
def items? (fuel : Nat) (s : List Char) : Option (List Json × List Char) :=
  match fuel, s with
  | 0, _ => none
  | _, ']' :: rest => some ([], rest)
  | fuel + 1, s => do
    let (item, rest) ← value? fuel s
    match skipLines rest.length rest with
    | ']' :: rest => some ([item], rest)
    | ',' :: rest => do
      let (items, rest) ← items? fuel (skipLines rest.length rest)
      some (item :: items, rest)
    | _ => none

/-- The fields of a table on one line up to its closing brace. No comma may follow the last. -/
def fields? (fuel : Nat) (fields : Fields) (s : List Char) : Option (Fields × List Char) :=
  match fuel with
  | 0 => none
  | fuel + 1 => do
    let (parts, rest) ← key? s
    match rest with
    | '=' :: rest => do
      let (value, rest) ← value? fuel (skipGap rest)
      let (path, key) := splitKey parts
      let fields ← insert? path key value fields
      match skipGap rest with
      | '}' :: rest => some (fields, rest)
      | ',' :: rest => fields? fuel fields (skipGap rest)
      | _ => none
    | _ => none

end

/-- The end of a line, after which the next one starts. -/
def lineEnd? (s : List Char) : Option (List Char) :=
  let rest := match skipGap s with
    | '#' :: comment => skipComment comment
    | rest => rest
  match rest with
  | [] => some []
  | '\n' :: rest => some rest
  | _ => none

/-- The header of a table, after its opening bracket: whether the table stands in a list, and the
parts of its name. -/
def header? (s : List Char) : Option ((Bool × List String) × List Char) := do
  let (inList, s) := match s with
    | '[' :: rest => (true, rest)
    | rest => (false, rest)
  let (parts, rest) ← key? (skipGap s)
  match inList, rest with
  | false, ']' :: rest => some ((false, parts), rest)
  | true, ']' :: ']' :: rest => some ((true, parts), rest)
  | _, _ => none

/-- What the lines of a document have built up, and the path to the open table. -/
structure State where
  fields : Fields
  path : List String

/-- Reads the lines that are left. Each takes a step of the fuel. -/
def lines? : Nat → State → List Char → Option Fields
  | 0, _, _ => none
  | fuel + 1, state, s =>
    match skipLines s.length s with
    | [] => some state.fields
    | '[' :: rest => do
      let ((inList, parts), rest) ← header? rest
      let fields ← open? inList parts state.fields
      lines? fuel ⟨fields, parts⟩ (← lineEnd? rest)
    | s => do
      let (parts, rest) ← key? s
      match rest with
      | '=' :: rest => do
        let (value, rest) ← value? (2 * rest.length + 2) (skipGap rest)
        let (path, key) := splitKey parts
        let fields ← within? (insert? path key value) state.path state.fields
        lines? fuel ⟨fields, state.path⟩ (← lineEnd? rest)
      | _ => none

/-- A carriage return before a line break counts for nothing. -/
def foldBreaks : List Char → List Char
  | '\r' :: '\n' :: rest => '\n' :: foldBreaks rest
  | c :: rest => c :: foldBreaks rest
  | [] => []

/-- The value that a document is. A byte order mark before it is skipped. -/
def parse? (text : String) : Option Json := do
  let s := match foldBreaks text.toList with
    | '\ufeff' :: rest => rest
    | rest => rest
  let fields ← lines? (s.length + 1) ⟨[], []⟩ s
  some (.ofFields (jsonFields fields))

end SwapDesk.Toml
