import SwapDesk.Amount.Basic
import SwapDesk.Json.Printer
import SwapDesk.Text.Columns
import SwapDesk.Text.Split

/-!
# The converter

A filter for lists of amounts. Every line that is not blank is converted for itself, from whole
tokens to units or back, and shown in a table or as one JSON record a line.
-/

namespace SwapDesk.Converter

/-- Converts one amount: to units, or from units when `reverse` holds. -/
def convert (reverse : Bool) (input : List Char) : Except AmountError (List Char) :=
  if reverse then
    (Amount.ofText (String.ofList input)).map fun amount => Decimal.pointed .full amount.digits
  else Decimal.scale input

/-- The lines of a text that are not blank, without the blanks around them. -/
def inputs (text : List Char) : List (List Char) :=
  ((Text.splitAt '\n' text).map Text.trim).filter (· ≠ [])

/-- What is shown of an amount that is refused in a table. -/
def refusal (e : AmountError) : List Char := "error: ".toList ++ e.fault.message.toList

/-- A row of the table. A tab inside the input starts another cell. -/
def row (reverse : Bool) (input : List Char) : Text.Columns.Row :=
  let shown := match convert reverse input with
    | .ok output => output
    | .error e => refusal e
  Text.splitAt '\t' input ++ [shown]

def record (reverse : Bool) (input : List Char) : Json :=
  let shown := match convert reverse input with
    | .ok output => ("output", .string (String.ofList output))
    | .error e => ("error", .string e.message)
  .object [("input", .string (String.ofList input)), shown]

def run (asJson reverse : Bool) (text : String) : String :=
  let inputs := inputs text.toList
  let lines :=
    if asJson then inputs.map fun input => (record reverse input).chars
    else Text.Columns.align (inputs.map (row reverse))
  String.ofList (lines.flatMap (· ++ ['\n']))

/-- Converts as the arguments tell: `--json` asks for records, `--reverse` for the way back. -/
def runWith (arguments : List String) (text : String) : String :=
  run (arguments.contains "--json") (arguments.contains "--reverse") text

end SwapDesk.Converter
