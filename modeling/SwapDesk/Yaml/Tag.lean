import SwapDesk.Json.Parser
import SwapDesk.Yaml.Cursor

/-!
# Names in YAML

Tags, which tell what kind of value a text stands for, the names of anchors, and directives.
-/

namespace SwapDesk.Yaml

def isNameChar (c : Char) : Bool := c.isAlphanum || c = '_' || c = '-'

/-- The characters of a tag that need no escape. -/
def isTagChar (c : Char) : Bool :=
  isNameChar c || ";/?:@&=+$,.!~*'()[]".toList.contains c

def octet? : List Char → Option (Nat × List Char)
  | '%' :: a :: b :: rest => do
    some ((← Json.Grammar.hexValue? a) * 16 + (← Json.Grammar.hexValue? b), rest)
  | _ => none

/-- An escape in a tag: an octet of ASCII, or two octets that spell a code. Longer sequences are
beyond all codes. -/
def tagEscape? (s : List Char) : Option (Char × List Char) := do
  let (first, rest) ← octet? s
  if first < 0x80 then some (Char.ofNat first, rest)
  else if 0xc0 ≤ first ∧ first < 0xe0 then
    let (second, rest) ← octet? rest
    let code := first * 256 + second
    if 0x80 ≤ second ∧ second < 0xc0 ∧ code.isValidChar then some (Char.ofNat code, rest)
    else none
  else none

/-- The characters of a tag. Each takes a step of the fuel. -/
def tagText? : Nat → List Char → Option (List Char × List Char)
  | 0, _ => none
  | _, [] => some ([], [])
  | fuel + 1, c :: rest =>
    if c = '%' then do
      let (d, rest) ← tagEscape? (c :: rest)
      let (more, rest) ← tagText? fuel rest
      some (d :: more, rest)
    else if isTagChar c then do
      let (more, rest) ← tagText? fuel rest
      some (c :: more, rest)
    else some ([], c :: rest)

/-- The characters of a tag, of which there is at least one. -/
def tagTextRun? (s : List Char) : Option (List Char × List Char) := do
  let (text, rest) ← tagText? (s.length + 1) s
  if text = [] then none else some (text, rest)

/-- A tag: its handle, and its name under that handle. -/
structure Tag where
  handle : List Char
  name : List Char

/-- A tag after its exclamation mark. It is a name between angle brackets, a name after a second
exclamation mark, or a name. -/
def tag? (s : List Char) : Option (Tag × List Char) := do
  let (tag, rest) ← match s with
    | '<' :: rest =>
      match ← tagTextRun? rest with
      | (name, '>' :: rest) => some (Tag.mk [] name, rest)
      | _ => none
    | s => do
      let word := s.takeWhile isNameChar
      match s.dropWhile isNameChar with
      | '!' :: rest => do
        let (name, rest) ← tagTextRun? rest
        some (Tag.mk ('!' :: word ++ ['!']) name, rest)
      | rest => do
        let (more, rest) ← tagText? (rest.length + 1) rest
        match word ++ more with
        | [] => some (Tag.mk [] ['!'], rest)
        | name => some (Tag.mk ['!'] name, rest)
  if endsWord rest then some (tag, rest) else none

/-- The name of an anchor or of a reference, after its sign. -/
def anchorName? (s : List Char) : Option (String × List Char) :=
  let rest := s.dropWhile isNameChar
  let ends := endsWord rest || rest.head?.any "?:,]\x7d%@`".toList.contains
  match s.takeWhile isNameChar with
  | [] => none
  | name => if ends then some (String.ofList name, rest) else none

/-- The text after a number of a version, which has up to nine digits. -/
def versionNumber? (s : List Char) : Option (List Char) :=
  let digits := s.takeWhile Char.isDigit
  if digits = [] ∨ 9 < digits.length then none else some (s.drop digits.length)

/-- The text after what a directive says. Directives other than those of the version and of a tag
may say anything. -/
def directiveText? (name s : List Char) : Option (List Char) :=
  let skipGap (s : List Char) : List Char := s.dropWhile isGap
  if name = "YAML".toList then do
    match ← versionNumber? (skipGap s) with
    | '.' :: rest => versionNumber? rest
    | _ => none
  else if name = "TAG".toList then
    match skipGap s with
    | '!' :: rest => do
      let rest ← match rest.takeWhile isNameChar, rest.dropWhile isNameChar with
        | _, '!' :: rest => some rest
        | [], rest => some rest
        | _, _ => none
      let (_, rest) ← tagTextRun? (skipGap rest)
      if endsWord rest then some rest else none
    | _ => none
  else some (s.dropWhile fun c => !isBreak c)

/-- The text after the line of a directive, of which the percent sign has been read. -/
def directive? (s : List Char) : Option (List Char) := do
  let name := s.takeWhile isNameChar
  let rest := s.dropWhile isNameChar
  if name = [] ∨ !endsWord rest then none
  else
    let rest := match (← directiveText? name rest).dropWhile isGap with
      | '#' :: comment => comment.dropWhile fun c => !isBreak c
      | rest => rest
    if rest.head?.all isBreak then some (dropBreak rest) else none

end SwapDesk.Yaml
