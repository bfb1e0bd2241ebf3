import SwapDesk.Decimal.Digits
import SwapDesk.Text.Blank

/-!
# Zeros that do not count

A decimal text without the zeros that carry no value. Any text is accepted.
-/

namespace SwapDesk.Decimal

/-- The text without leading zeros and, if it has a point, without trailing ones. A text that
would be empty or a bare point becomes `0`. -/
def trimZeros (s : List Char) : List Char :=
  let leading := dropZeros s
  let kept := if s.contains '.' then Text.dropEndWhile (· == '0') leading else leading
  if kept = [] ∨ kept = ['.'] then ['0'] else kept

end SwapDesk.Decimal
