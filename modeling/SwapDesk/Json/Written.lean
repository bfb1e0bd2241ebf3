import SwapDesk.Json.Basic

/-!
# JSON documents as written

A document before it is known what it is read for. A record refuses a field that is written
twice and skips the fields it does not know, a free-form value keeps the last of several fields
with one key; so a written object holds its fields as they stand, and what denotes no value is
kept until it is known whether it is read at all.
-/

namespace SwapDesk.Json

inductive Written
  | null
  | bool (b : Bool)
  | number (n : Number)
  | string (s : String)
  /-- A number beyond the doubles, a string with half of a surrogate pair, or an object with
  such a string for a key. -/
  | unreadable
  | array (items : List Written)
  | object (fields : List (String × Written))

mutual

/-- A value as if it had been written out. -/
def written : Json → Written
  | null => .null
  | bool b => .bool b
  | number n => .number n
  | string s => .string s
  | array items => .array (writtenItems items)
  | object fields => .object (writtenFields fields)

def writtenItems : List Json → List Written
  | [] => []
  | item :: items => item.written :: writtenItems items

def writtenFields : List (String × Json) → List (String × Written)
  | [] => []
  | (key, value) :: fields => (key, value.written) :: writtenFields fields

end

/-- How deep arrays and objects may nest. -/
def deepest : Nat := 127

namespace Written

mutual

/-- The free-form value that a document denotes, if it nests at most `levels` deep. -/
def value? (levels : Nat) : Written → Option Json
  | null => some .null
  | bool b => some (.bool b)
  | number n => some (.number n)
  | string s => some (.string s)
  | unreadable => none
  | array items =>
    match levels with
    | 0 => none
    | levels + 1 => (itemValues? levels items).map .array
  | object fields =>
    match levels with
    | 0 => none
    | levels + 1 => (fieldValues? levels fields).map ofFields

def itemValues? (levels : Nat) : List Written → Option (List Json)
  | [] => some []
  | item :: items => do
    let first ← value? levels item
    let rest ← itemValues? levels items
    some (first :: rest)

def fieldValues? (levels : Nat) : List (String × Written) → Option (List (String × Json))
  | [] => some []
  | (key, field) :: fields => do
    let first ← value? levels field
    let rest ← fieldValues? levels fields
    some ((key, first) :: rest)

end

end Written

end SwapDesk.Json
