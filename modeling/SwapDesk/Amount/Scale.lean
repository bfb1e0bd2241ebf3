import SwapDesk.Amount.Error

/-!
# From tokens to units

A decimal text in whole tokens becomes a digit string in units: the point is dropped and zeros
fill the fraction up to all its places. No arithmetic is done, so a text of any length is exact.
-/

namespace SwapDesk.Decimal

/-- The first character that keeps a text from being digits with at most one point. The text
starts at `position`, after a point if `fraction` holds. -/
def firstFault? (fraction : Bool) (position : Nat) : List Char → Option AmountFault
  | [] => none
  | c :: rest =>
    if c.isDigit then firstFault? fraction (position + 1) rest
    else if c ≠ '.' then some (.unexpected c position)
    else if fraction then some .secondPoint
    else firstFault? true (position + 1) rest

def wholePart (s : List Char) : List Char :=
  s.takeWhile (· != '.')

def decimals (s : List Char) : List Char :=
  (s.dropWhile (· != '.')).drop 1

/-- The digits after the point, without the zeros at the end. -/
def fractionPart (s : List Char) : List Char :=
  Text.dropEndWhile (· == '0') (decimals s)

/-- A decimal text in whole tokens as a digit string in units. Blanks around the text and zeros
that carry no value are ignored; of the parts around the point either may be empty. The scan is
over the text without these zeros, and tells where a character stands in the whole text. -/
def scale (s : List Char) : Except AmountError (List Char) :=
  let text := Text.trim s
  let amount := trimZeros text
  let refuse (fault : AmountFault) : Except AmountError (List Char) :=
    .error ⟨String.ofList text, fault⟩
  match firstFault? false (text.takeWhile (· == '0')).length amount with
  | some fault => refuse fault
  | none =>
    let fraction := decimals amount
    if places < fraction.length then refuse (.tooPrecise fraction.length)
    else .ok (amount.filter (· != '.') ++ List.replicate (places - fraction.length) '0')

/-- The result of `scale`, from the parts of the whole text. -/
def scaleParts (s : List Char) : Except AmountError (List Char) :=
  let text := Text.trim s
  let refuse (fault : AmountFault) : Except AmountError (List Char) :=
    .error ⟨String.ofList text, fault⟩
  match firstFault? false 0 text with
  | some fault => refuse fault
  | none =>
    let whole := dropZeros (wholePart text)
    let fraction := fractionPart text
    if places < fraction.length then refuse (.tooPrecise fraction.length)
    else
      let significant := whole ++ fraction
      let zeros := List.replicate (places - fraction.length) '0'
      .ok ((if significant = [] then ['0'] else significant) ++ zeros)

end SwapDesk.Decimal
