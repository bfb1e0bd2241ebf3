import SwapDesk.Json.Basic

/-!
# Tables in TOML

The tree that a document builds up. A table may be opened by its header once, and only implied
ones may be opened later; a key may be given once; tables that dotted keys have made are complete
when the next header comes.
-/

namespace SwapDesk.Toml

/-- How a table came about. -/
inductive Origin
  /-- As the parent of another table. -/
  | implied
  | header
  /-- As the parent of a dotted key. -/
  | dotted
deriving DecidableEq

inductive Node
  | value (value : Json)
  | table (origin : Origin) (fields : List (String × Node))
  /-- A list of tables, of which the last one is open. -/
  | tables (earlier : List Json) (fields : List (String × Node))

abbrev Fields := List (String × Node)

/-- Sets the field with this key, at its place if it is there. -/
def setField (key : String) (node : Node) : Fields → Fields
  | [] => [(key, node)]
  | (k, other) :: rest =>
    if k = key then (key, node) :: rest else (k, other) :: setField key node rest

mutual

def Node.json : Node → Json
  | .value value => value
  | .table _ fields => .ofFields (jsonFields fields)
  | .tables earlier fields => .array (earlier ++ [.ofFields (jsonFields fields)])

def jsonFields : Fields → List (String × Json)
  | [] => []
  | (key, node) :: rest => (key, node.json) :: jsonFields rest

end

/-- Gives a key a value, below the tables that the path names. -/
def insert? : List String → String → Json → Fields → Option Fields
  | [], key, value, fields =>
    match fields.lookup key with
    | none => some (fields ++ [(key, .value value)])
    | some _ => none
  | parent :: path, key, value, fields =>
    match fields.lookup parent with
    | none => do
      some (fields ++ [(parent, .table .dotted (← insert? path key value []))])
    | some (.table .dotted inner) => do
      some (setField parent (.table .dotted (← insert? path key value inner)) fields)
    | some _ => none

/-- Changes the table that a header has opened. -/
def within? (change : Fields → Option Fields) : List String → Fields → Option Fields
  | [], fields => change fields
  | key :: path, fields =>
    match fields.lookup key with
    | some (.table origin inner) => do
      some (setField key (.table origin (← within? change path inner)) fields)
    | some (.tables earlier inner) => do
      some (setField key (.tables earlier (← within? change path inner)) fields)
    | _ => none

/-- Opens a table, or the next table of a list. -/
def openLast? (inList : Bool) (key : String) (fields : Fields) : Option Fields :=
  match fields.lookup key, inList with
  | none, false => some (fields ++ [(key, .table .header [])])
  | none, true => some (fields ++ [(key, .tables [] [])])
  | some (.table .implied inner), false => some (setField key (.table .header inner) fields)
  | some (.tables earlier inner), true =>
    some (setField key (.tables (earlier ++ [.ofFields (jsonFields inner)]) []) fields)
  | _, _ => none

/-- Opens the table of a header, below the tables that it names first. -/
def open? (inList : Bool) : List String → Fields → Option Fields
  | [], _ => none
  | [key], fields => openLast? inList key fields
  | key :: path, fields =>
    match fields.lookup key with
    | none => do some (fields ++ [(key, .table .implied (← open? inList path []))])
    | some (.table .dotted _) => none
    | some (.table origin inner) => do
      some (setField key (.table origin (← open? inList path inner)) fields)
    | some (.tables earlier inner) => do
      some (setField key (.tables earlier (← open? inList path inner)) fields)
    | some (.value _) => none

end SwapDesk.Toml
