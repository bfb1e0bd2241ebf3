import SwapDesk.Text.Width

/-!
# Elastic columns

Rows of cells laid out in columns. A cell that another one follows is filled up with blanks to
the width of its column, which is the widest cell among the neighbouring rows that have a cell
there and one after it; the last cell of a row is written as it is.
-/

namespace SwapDesk.Text.Columns

abbrev Row := List (List Char)

def minimum : Nat := 2

/-- The blanks between a column and the next. -/
def gap : Nat := 2

/-- Whether the row has a cell in this column and another one after it. -/
def reaches (column : Nat) (row : Row) : Bool :=
  column + 1 < row.length

def cellWidth (column : Nat) (row : Row) : Nat :=
  width (row.getD column [])

/-- The width of a column at a row, given the rows above it, nearest first, and those below. -/
def columnWidth (column : Nat) (above : List Row) (row : Row) (below : List Row) : Nat :=
  let neighbours := above.takeWhile (reaches column) ++ row :: below.takeWhile (reaches column)
  neighbours.foldl (fun widest other => max widest (cellWidth column other)) minimum

def layCells (above : List Row) (row : Row) (below : List Row) :
    Nat → List (List Char) → List Char
  | _, [] => []
  | _, [cell] => cell
  | column, cell :: rest =>
    cell ++ List.replicate (columnWidth column above row below - width cell + gap) ' ' ++
      layCells above row below (column + 1) rest

def layRows (above : List Row) : List Row → List (List Char)
  | [] => []
  | row :: below => layCells above row below 0 row :: layRows (row :: above) below

/-- The rows as aligned lines. -/
def align (rows : List Row) : List (List Char) :=
  layRows [] rows

end SwapDesk.Text.Columns
