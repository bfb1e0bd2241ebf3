import SwapDesk.Double.Nearest
import SwapDesk.Json.Basic
import SwapDesk.Yaml.Tag

/-!
# Nodes of a YAML document

What a text, a list or a map of a document stands for.
-/

namespace SwapDesk.Yaml

/-- What a part of a document stands for. -/
inductive Node
  /-- Nothing: a text that its tag does not fit, or a reference inside of what it stands for. -/
  | refused
  /-- A value with a number in it that has no double. -/
  | unreadable
  | value (value : Json)

namespace Node

def value? : Node → Option Json
  | refused => some .null
  | unreadable => none
  | value v => some v

/-- An integer of 64 bits, after a sign or none. -/
def integer? (base : Nat) (s : List Char) : Option Json := do
  let (negative, digits) := Double.signed s
  let values ← digits.mapM fun c =>
    (Json.Grammar.hexValue? c).filter fun d => decide (d < base)
  if digits = [] then none
  else Json.signed? negative (values.foldl (fun n d => n * base + d) 0)

/-- An integer as a plain text writes it, in one of three bases. A plus may stand before it and
another sign. -/
def plainInteger? : List Char → Option Json
  | '0' :: 'x' :: rest => integer? 16 rest
  | '0' :: 'o' :: rest => integer? 8 rest
  | '+' :: rest => integer? 10 rest
  | s => integer? 10 s

/-- Names of numbers that are recognized, but are not read as doubles. -/
def unreadableNames : List String := [
  ".inf", ".Inf", ".INF", "+.inf", "+.Inf", "+.INF", "-.inf", "-.Inf", "-.INF", ".nan", ".NAN"]

def double? (s : List Char) : Option Node :=
  if unreadableNames.contains (String.ofList s) then some unreadable
  else (Double.ofText? s).map fun x => value (.number (.double x))

def bool? (s : List Char) : Option Json :=
  if s = "true".toList then some (.bool true)
  else if s = "false".toList then some (.bool false)
  else none

def null? (s : List Char) : Option Json :=
  if s = "~".toList ∨ s = "null".toList then some .null else none

def ofString (s : List Char) : Node := value (.string (String.ofList s))

/-- The node of an optional value, which is refused if there is none. -/
def ofValue? (v : Option Json) : Node := v.elim refused value

/-- What a plain text without a tag stands for. -/
def ofPlain (s : List Char) : Node :=
  match ((plainInteger? s).or (null? s)).or (bool? s) with
  | some v => value v
  | none => (double? s).getD (ofString s)

/-- What a plain text with a tag stands for. Only four tags change it. -/
def ofTagged (tag : Tag) (s : List Char) : Node :=
  if tag.handle ≠ ['!', '!'] then ofString s
  else if tag.name = "bool".toList then ofValue? (bool? s)
  else if tag.name = "int".toList then ofValue? (integer? 10 s)
  else if tag.name = "float".toList then (double? s).getD refused
  else if tag.name = "null".toList then ofValue? (null? s)
  else ofString s

def ofItems (items : List Node) : Node :=
  (items.mapM value?).elim unreadable fun items => value (.array items)

/-- Keys and values, which take turns. A refused key counts for nothing, so that what should be
its value is the next key. -/
def pairs : List Node → List (Node × Node)
  | [] => []
  | refused :: rest => pairs rest
  | [_] => []
  | key :: node :: rest => (key, node) :: pairs rest

/-- The map of these keys and values, which take turns. Only keys that are strings count, and of
several equal ones the last. -/
def ofChildren (children : List Node) : Node :=
  let fields := (pairs children).filterMap fun (key, node) =>
    match key with
    | value (.string name) => some (name, node)
    | _ => none
  let read := (Json.sortFields fields).mapM fun (name, node) => node.value?.map (name, ·)
  read.elim unreadable fun fields => value (.object fields)

end Node

end SwapDesk.Yaml
