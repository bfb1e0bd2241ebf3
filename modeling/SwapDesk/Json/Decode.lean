import SwapDesk.Amount.Basic
import SwapDesk.Json.Written

/-!
# Typed readings of JSON

A document read as a value of a known form. A record is an object with its fields in any order,
or an array of exactly its fields in their order; a choice is the name of an alternative, or an
object with that name as its only field.
-/

namespace SwapDesk

/-- Why a document is not of the expected form: the text of an amount in it is refused, or
something else is not as expected. -/
inductive DecodeError
  | amount (e : AmountError)
  | form

abbrev Decoded (α : Type) := Except DecodeError α

/-- What is found, or a document of another form. -/
def Decoded.ofOption {α : Type} : Option α → Decoded α
  | some a => .ok a
  | none => .error .form

def Amount.json (a : Amount) : Json := .string a.text

namespace Json.Written

def text : Written → Decoded String
  | string s => .ok s
  | _ => .error .form

def flag : Written → Decoded Bool
  | bool b => .ok b
  | _ => .error .form

/-- A natural number of 64 bits. -/
def word : Written → Decoded UInt64
  | number (.int n) =>
    if 0 ≤ n ∧ n ≤ greatestNatural then .ok (UInt64.ofNat n.toNat) else .error .form
  | _ => .error .form

/-- An amount is a string that holds its text. -/
def amount : Written → Decoded Amount
  | string s => (Amount.ofText s).mapError .amount
  | _ => .error .form

def nullable {α : Type} (read : Written → Decoded α) : Written → Decoded (Option α)
  | null => .ok none
  | document => (read document).map some

/-- A field that may be missing or `null`. -/
def perhaps {α : Type} (read : Written → Decoded α) : Option Written → Decoded (Option α)
  | none => .ok none
  | some document => nullable read document

/-- The fields of a record, in the order of their names. Unknown fields are skipped and none may
come twice; an object may lack some, an array may not. -/
def record (names : List String) : Written → Decoded (List (Option Written))
  | array items => if items.length = names.length then .ok (items.map some) else .error .form
  | object fields =>
    if names.all fun name => (fields.filter (·.1 == name)).length ≤ 1 then
      .ok (names.map fun name => fields.lookup name)
    else .error .form
  | _ => .error .form

/-- An alternative of a choice: its name and what comes with it. -/
def alternative : Written → Decoded (String × Option Written)
  | string name => .ok (name, none)
  | object [(name, content)] => .ok (name, some content)
  | _ => .error .form

/-- One of several names that nothing comes with. -/
def oneOf {α : Type} (names : List (String × α)) (document : Written) : Decoded α := do
  match ← alternative document with
  | (name, none) => .ofOption (names.lookup name)
  | (name, some null) => .ofOption (names.lookup name)
  | _ => .error .form

end Json.Written

end SwapDesk
