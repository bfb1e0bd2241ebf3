/-!
# Places in a YAML text

The text that is left with the place where it starts, and the blanks and line breaks of a text.
Columns matter: they tell how deep a collection is nested.
-/

namespace SwapDesk.Yaml

def isGap (c : Char) : Bool := c = ' ' || c = '\t'

def isBreak (c : Char) : Bool := c = '\n' || c = '\r'

def isSpace (c : Char) : Bool := isGap c || isBreak c

/-- Whether a word ends before this text. -/
def endsWord (s : List Char) : Bool := s.head?.all isSpace

/-- Whether a text starts with a mark: three times this character, and then the end of a word. -/
def startsMark (c : Char) (s : List Char) : Bool :=
  s.take 3 == [c, c, c] && endsWord (s.drop 3)

def dropBreak : List Char → List Char
  | '\r' :: '\n' :: rest => rest
  | c :: rest => if isBreak c then rest else c :: rest
  | [] => []

/-- The number of line breaks. A carriage return and the line feed after it are one. -/
def breakCount : List Char → Nat
  | [] => 0
  | '\r' :: '\n' :: rest => breakCount rest + 1
  | c :: rest => breakCount rest + if isBreak c then 1 else 0

/-- What blanks and line breaks in the middle of a text stand for. One line break is a blank, and
the first of several vanishes. -/
def foldGap (gap : List Char) : List Char :=
  match breakCount gap with
  | 0 => gap
  | 1 => [' ']
  | n + 2 => List.replicate (n + 1) '\n'

/-- A text that is left, and the place where it starts: the number of characters before it, the
line and the column. Only a line feed starts a new line. -/
structure Cursor where
  rest : List Char
  index : Nat
  line : Nat
  column : Nat

namespace Cursor

def start (text : List Char) : Cursor := ⟨text, 0, 0, 0⟩

def next (c : Cursor) : Cursor :=
  match c.rest with
  | [] => c
  | '\n' :: rest => ⟨rest, c.index + 1, c.line + 1, 0⟩
  | _ :: rest => ⟨rest, c.index + 1, c.line, c.column + 1⟩

def skip : Nat → Cursor → Cursor
  | 0, c => c
  | n + 1, c => c.next.skip n

def skipWhile (p : Char → Bool) (c : Cursor) : Cursor := c.skip (c.rest.takeWhile p).length

/-- Moves on to where only this much of the text is left. -/
def moveTo (rest : List Char) (c : Cursor) : Cursor := c.skip (c.rest.length - rest.length)

def skipBreak (c : Cursor) : Cursor := c.moveTo (dropBreak c.rest)

/-- Whether a mark between documents starts here. -/
def atMark (c : Cursor) : Bool :=
  c.column == 0 && (startsMark '-' c.rest || startsMark '.' c.rest)

end Cursor

end SwapDesk.Yaml
