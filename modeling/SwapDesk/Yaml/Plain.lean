import SwapDesk.Yaml.Cursor

/-!
# Plain texts in YAML

Texts without quotes. They end before a colon, a comment or, inside brackets, before a sign that
has a meaning there, and they may span lines that stand deep enough.
-/

namespace SwapDesk.Yaml

/-- The signs that have a meaning inside brackets. -/
def isFlowSign (c : Char) : Bool := ",[]\x7b\x7d".toList.contains c

/-- The characters up to the next blank or the end of the plain text. -/
def plainWord (inFlow : Bool) : List Char → List Char
  | [] => []
  | c :: rest =>
    if isSpace c then []
    else if c = ':' && (endsWord rest || (inFlow && rest.head?.any isFlowSign)) then []
    else if inFlow && isFlowSign c then []
    else c :: plainWord inFlow rest

/-- Whether a gap that starts in this column has a tab before column `least` of a later line. -/
def hasEarlyTab (least column : Nat) (broken : Bool) : List Char → Bool
  | [] => false
  | '\n' :: rest => hasEarlyTab least 0 true rest
  | c :: rest =>
    (broken && c == '\t' && column < least) ||
      hasEarlyTab least (column + 1) (broken || isBreak c) rest

/-- A plain text and whether a line break follows it, with the place after that. Its lines start
at column `least` or deeper, which only matters outside of brackets. Each word takes a step of
the fuel. -/
def plain? (inFlow : Bool) (least : Nat) : Nat → Cursor → Option ((List Char × Bool) × Cursor)
  | 0, _ => none
  | fuel + 1, c => do
    let word := plainWord inFlow c.rest
    let c := c.skip word.length
    let gap := c.rest.takeWhile isSpace
    if gap = [] then some ((word, false), c)
    else if hasEarlyTab least c.column false gap then none
    else
      let after := c.skip gap.length
      let broken := breakCount gap != 0
      if (!inFlow && after.column < least) || after.atMark || after.rest.head? == some '#' then
        some ((word, broken), after)
      else
        match ← plain? inFlow least fuel after with
        | (([], _), after) => some ((word, broken), after)
        | ((more, broken), after) => some ((word ++ foldGap gap ++ more, broken), after)

end SwapDesk.Yaml
