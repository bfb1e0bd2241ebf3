/-!
# Blanks around a text

The characters with the Unicode property White_Space, and a text without those at its ends.
-/

namespace SwapDesk.Text

/-- The characters with the Unicode property White_Space. -/
def isBlank (c : Char) : Bool :=
  let n := c.toNat
  (9 ≤ n && n ≤ 13) || n == 0x20 || n == 0x85 || n == 0xa0 || n == 0x1680 ||
    (0x2000 ≤ n && n ≤ 0x200a) || n == 0x2028 || n == 0x2029 || n == 0x202f ||
    n == 0x205f || n == 0x3000

/-- The text without its longest ending in which every character satisfies `p`. -/
def dropEndWhile (p : Char → Bool) (s : List Char) : List Char :=
  (s.reverse.dropWhile p).reverse

/-- The text without the blanks at both ends. -/
def trim (s : List Char) : List Char :=
  dropEndWhile isBlank (s.dropWhile isBlank)

end SwapDesk.Text
