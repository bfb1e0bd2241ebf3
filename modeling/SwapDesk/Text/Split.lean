/-!
# Pieces of a text

A text cut at every occurrence of one character.
-/

namespace SwapDesk.Text

/-- The pieces between the occurrences of `separator`: one more than there are occurrences. -/
def splitAt (separator : Char) : List Char → List (List Char)
  | [] => [[]]
  | c :: rest =>
    match splitAt separator rest with
    | [] => [[]]
    | piece :: pieces =>
      if c = separator then [] :: piece :: pieces else (c :: piece) :: pieces

end SwapDesk.Text
