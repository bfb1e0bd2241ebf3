/-!
# JSON values

A value as a program holds it. An integer that fits 64 bits is exact, any other number is a
double. The fields of an object are kept in the order in which they are written out; free-form
objects keep them sorted by key, which `Json.ofFields` sees to.
-/

namespace SwapDesk

inductive Json.Number
  | int (n : Int)
  | double (x : Float)

inductive Json
  | null
  | bool (b : Bool)
  | number (n : Json.Number)
  | string (s : String)
  | array (items : List Json)
  | object (fields : List (String × Json))

namespace Json

instance : Inhabited Json := ⟨null⟩

def natural (n : Nat) : Json := .number (.int n)

/-- The value, or `null` when there is none. -/
def optional {α : Type} (write : α → Json) : Option α → Json
  | none => null
  | some a => write a

/-- Puts a field into a list sorted by key. A field with the same key gives way. -/
def insertField {α : Type} (key : String) (a : α) : List (String × α) → List (String × α)
  | [] => [(key, a)]
  | (k, b) :: rest =>
    if key < k then (key, a) :: (k, b) :: rest
    else if key = k then (key, a) :: rest
    else (k, b) :: insertField key a rest

/-- Fields sorted by key. Of several with one key the last stays. -/
def sortFields {α : Type} (fields : List (String × α)) : List (String × α) :=
  fields.foldl (fun sorted (key, a) => insertField key a sorted) []

/-- A free-form object. -/
def ofFields (fields : List (String × Json)) : Json := .object (sortFields fields)

def get? (key : String) : Json → Option Json
  | object fields => fields.lookup key
  | _ => none

def string? : Json → Option String
  | string s => some s
  | _ => none

def array? : Json → Option (List Json)
  | array items => some items
  | _ => none

def greatestNatural : Nat := 0xffffffffffffffff

/-- Integers of 64 bits with a sign lie below this, and above or at its negative. -/
def signedBound : Nat := 0x8000000000000000

/-- An integer of 64 bits with a sign. -/
def signed? (negative : Bool) (n : Nat) : Option Json :=
  if negative then
    if n ≤ signedBound then some (.number (.int (-(n : Int)))) else none
  else if n < signedBound then some (natural n)
  else none

/-- The natural number below `2 ^ 64` that the value is. -/
def natural? : Json → Option Nat
  | number (.int n) => if 0 ≤ n ∧ n ≤ greatestNatural then some n.toNat else none
  | _ => none

end Json

end SwapDesk
