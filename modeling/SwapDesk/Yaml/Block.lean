import SwapDesk.Yaml.Cursor

/-!
# Block texts in YAML

Texts of whole lines after the sign of a literal or of a folded text. All lines lose the same
indent; a folded text joins those that start with no blank.
-/

namespace SwapDesk.Yaml

/-- What becomes of the line breaks at the end of a block text. -/
inductive Chomping
  | strip
  | clip
  | keep

/-- What stands after the sign of a block text: the chomping, and the indent if it is told. -/
structure BlockHeader where
  chomping : Chomping
  indent : Option Nat

def chompingOf (c : Char) : Option Chomping :=
  if c = '+' then some .keep else if c = '-' then some .strip else none

/-- The digit of an indent, which is not zero. -/
def indentOf (c : Char) : Option Nat :=
  if c.isDigit ∧ c ≠ '0' then some (c.toNat - '0'.toNat) else none

/-- The header after the sign, and the text after the end of its line. -/
def blockHeader? (s : List Char) : Option (BlockHeader × List Char) :=
  let (header, rest) : BlockHeader × List Char := match s with
    | [] => (⟨.clip, none⟩, [])
    | c :: rest =>
      match chompingOf c, indentOf c with
      | some chomping, _ =>
        match rest.head?.bind indentOf with
        | some n => (⟨chomping, some n⟩, rest.drop 1)
        | none => (⟨chomping, none⟩, rest)
      | none, some n =>
        match rest.head?.bind chompingOf with
        | some chomping => (⟨chomping, some n⟩, rest.drop 1)
        | none => (⟨.clip, some n⟩, rest)
      | none, none => (⟨.clip, none⟩, c :: rest)
  let rest := match rest.dropWhile isGap with
    | '#' :: comment => comment.dropWhile fun c => !isBreak c
    | rest => rest
  if rest.head?.all isBreak then some (header, dropBreak rest) else none

/-- Skips empty lines and then the indent of the next line, as far as it belongs to the text. Gives
the number of the lines, the deepest column where one of them starts, and the place. There is
none where a tab stands in the indent. Each line takes a step of the fuel. -/
def emptyLines? (indent : Option Nat) : Nat → Cursor → Option ((Nat × Nat) × Cursor)
  | 0, _ => none
  | fuel + 1, c => do
    let blanks := (c.rest.takeWhile (· == ' ')).length
    let c := c.skip (indent.elim blanks fun n => min blanks (n - c.column))
    if c.rest.head? == some '\t' && indent.all fun n => c.column < n then none
    else if c.rest.head?.any isBreak then
      let ((count, deepest), after) ← emptyLines? indent fuel c.skipBreak
      some ((count + 1, max c.column deepest), after)
    else some ((0, c.column), c)

/-- The lines of a text with this indent. Before the first of them there is neither a line break
to join (`joins`) nor an empty line (`empty`); `deep` tells whether the line before starts with a
blank. Each line takes a step of the fuel. -/
def blockLines? (folded : Bool) (chomping : Chomping) (indent : Nat) :
    Nat → (joins : Bool) → (empty : Nat) → (deep : Bool) → Cursor →
      Option (List Char × Cursor)
  | 0, _, _, _, _ => none
  | fuel + 1, joins, empty, deep, c => do
    if c.column ≠ indent ∨ c.rest = [] then
      let last := if joins then ['\n'] else []
      let ending := match chomping with
        | .strip => []
        | .clip => last
        | .keep => last ++ List.replicate empty '\n'
      some (ending, c)
    else
      let deepNow := c.rest.head?.any isGap
      let joint :=
        if !joins then []
        else if folded ∧ !deep ∧ !deepNow then (if empty = 0 then [' '] else [])
        else ['\n']
      let line := c.rest.takeWhile fun c => !isBreak c
      let head := joint ++ List.replicate empty '\n' ++ line
      let c := c.skip line.length
      if c.rest = [] then some (head, c)
      else
        let ((empty, _), c) ← emptyLines? (some indent) (c.rest.length + 1) c.skipBreak
        let (more, c) ← blockLines? folded chomping indent fuel true empty deepNow c
        some (head ++ more, c)

/-- The block text after its sign, inside a collection of this column. Without a told indent the
deepest column among the empty lines and the first line counts. -/
def blockText? (folded : Bool) (parent : Option Nat) (c : Cursor) :
    Option (List Char × Cursor) := do
  let (header, rest) ← blockHeader? c.rest
  let told := header.indent.map fun n => parent.getD 0 + n
  let ((empty, deepest), c) ← emptyLines? told (rest.length + 1) (c.moveTo rest)
  let least := parent.elim 1 (· + 1)
  let indent := told.getD (if deepest < least then least else deepest)
  blockLines? folded header.chomping indent (c.rest.length + 1) false empty false c

end SwapDesk.Yaml
