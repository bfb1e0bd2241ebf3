import SwapDesk.Ron.Number
import SwapDesk.Ron.Text

/-!
# Reading RON

Records with named fields between round brackets, maps, lists and scalars. A name before a bracket
counts for nothing; `Some` stands for its content, `None` and `()` for no value.
-/

namespace SwapDesk.Ron

/-- What a part of a document stands for. A map with a key that is not a text has no value, and
neither has what such a map is a part of. -/
abbrev Content := Option Json

namespace Content

def ofItems (items : List Content) : Content := (items.mapM id).map .array

def ofText (s : List Char) : Content := some (.string (String.ofList s))

/-- A map. Of several fields with one key the last counts. -/
def ofFields (fields : List (Content × Content)) : Content := do
  let named ← fields.mapM fun (key, content) => do
    let name ← (← key).string?
    some (name, content)
  let read ← (Json.sortFields named).mapM fun (name, content) => content.map (name, ·)
  some (.object read)

end Content

/-- The parts that a document may change the rules with, of which one matters here: with
`implicit_some`, what `Some` stands before needs no brackets. -/
def extensions : List (String × Bool) :=
  [("implicit_some", true), ("unwrap_newtypes", false), ("unwrap_variant_newtypes", false)]

/-- The text after these parts, with blanks around each of them. -/
def afterAll? (parts : List String) (s : List Char) : Option (List Char) :=
  parts.foldlM (fun s part => (after? part.toList s).map skipSpace) s

/-- The names of extensions with commas between them. Tells whether one of them matters. Each name
takes a step of the fuel. -/
def extensionNames? : Nat → List Char → Option (Bool × List Char)
  | 0, _ => none
  | fuel + 1, s => do
    let (name, rest) ← name? s
    let matters ← extensions.lookup (String.ofList name)
    match skipSpace rest with
    | ',' :: rest =>
      let rest := skipSpace rest
      if rest.head?.any isNameChar then
        let (more, rest) ← extensionNames? fuel rest
        some (matters || more, rest)
      else some (matters, rest)
    | rest => some (matters, rest)

/-- The extensions at the beginning of a document. Each group takes a step of the fuel. -/
def header? : Nat → List Char → Option (Bool × List Char)
  | 0, _ => none
  | fuel + 1, s =>
    if s.head? ≠ some '#' then some (false, s)
    else do
      let rest ← afterAll? ["#", "!", "[", "enable", "("] s
      let (matters, rest) ← extensionNames? (rest.length + 1) rest
      let rest ← afterAll? [")", "]"] (skipSpace rest)
      let (more, rest) ← header? fuel rest
      some (matters || more, rest)

mutual

/-- What stands for a part of a document. The fuel bounds the steps. -/
def content? (loose : Bool) (fuel : Nat) (s : List Char) : Option (Content × List Char) :=
  match fuel with
  | 0 => none
  | fuel + 1 =>
    if let some rest := keyword? "true" s then some (some (.bool true), rest)
    else if let some rest := keyword? "false" s then some (some (.bool false), rest)
    else if let some rest := keyword? "Some" s then some? loose fuel (skipSpace rest)
    else if let some rest := keyword? "None" s then some (some .null, rest)
    else if let some rest := after? ['(', ')'] s then some (some .null, rest)
    else if let some rest := keyword? "inf" s then some (some (.number (.double (1 / 0))), rest)
    else if let some rest := keyword? "-inf" s then
      some (some (.number (.double (-(1 / 0)))), rest)
    else if let some rest := keyword? "NaN" s then some (some (.number (.double (0 / 0))), rest)
    else if let some (_, rest) := name? s then
      match skipSpace rest with
      | '(' :: rest => brackets? loose fuel (skipSpace rest)
      | rest => some (some .null, rest)
    else match s with
      | '(' :: rest => brackets? loose fuel (skipSpace rest)
      | '[' :: rest => do
        let (items, rest) ← items? loose fuel ']' (skipSpace rest)
        some (.ofItems items, rest)
      | '\x7b' :: rest => do
        let (fields, rest) ← mapFields? loose fuel (skipSpace rest)
        some (.ofFields fields, rest)
      | '"' :: rest => do
        let (text, rest) ← stringRest? (rest.length + 1) rest
        some (.ofText text, rest)
      | 'r' :: rest => do
        let (text, rest) ← rawString? rest
        some (.ofText text, rest)
      | '\'' :: rest => do
        let (c, rest) ← character? rest
        some (.ofText [c], rest)
      | '.' :: _ => do
        let (x, rest) ← double? s
        some (some x, rest)
      | c :: _ =>
        if c.isDigit ∨ c = '+' ∨ c = '-' then do
          let (n, rest) ← number? s
          some (some n, rest)
        else none
      | [] => none

/-- What `Some` stands before. The brackets may be missing where `loose` holds. -/
def some? (loose : Bool) (fuel : Nat) (s : List Char) : Option (Content × List Char) :=
  match fuel with
  | 0 => none
  | fuel + 1 =>
    match s with
    | '(' :: rest => do
      let (content, rest) ← content? loose fuel (skipSpace rest)
      let rest := match skipSpace rest with
        | ',' :: rest => skipSpace rest
        | rest => rest
      match rest with
      | ')' :: rest => some (content, rest)
      | _ => none
    | s => if loose then content? loose fuel s else none

/-- What stands between round brackets: fields if a name and a colon come first, and else a
list. -/
def brackets? (loose : Bool) (fuel : Nat) (s : List Char) : Option (Content × List Char) :=
  match fuel with
  | 0 => none
  | fuel + 1 =>
    let isRecord := (name? s).any fun (_, rest) => (skipSpace rest).head? == some ':'
    if isRecord then do
      let (fields, rest) ← recordFields? loose fuel s
      some (.ofFields fields, rest)
    else do
      let (items, rest) ← items? loose fuel ')' s
      some (.ofItems items, rest)

/-- Items up to a closing bracket. A comma may follow the last one. -/
def items? (loose : Bool) (fuel : Nat) (close : Char) (s : List Char) :
    Option (List Content × List Char) :=
  match fuel with
  | 0 => none
  | fuel + 1 =>
    if s.head? = some close then some ([], s.drop 1)
    else do
      let (item, rest) ← content? loose fuel s
      match skipSpace rest with
      | ',' :: rest => do
        let (items, rest) ← items? loose fuel close (skipSpace rest)
        some (item :: items, rest)
      | rest => if rest.head? = some close then some ([item], rest.drop 1) else none

def recordFields? (loose : Bool) (fuel : Nat) (s : List Char) :
    Option (List (Content × Content) × List Char) :=
  match fuel with
  | 0 => none
  | fuel + 1 =>
    if s.head? = some ')' then some ([], s.drop 1)
    else do
      let (name, rest) ← name? s
      let (content, rest) ← fieldContent? loose fuel rest
      match skipSpace rest with
      | ',' :: rest => do
        let (fields, rest) ← recordFields? loose fuel (skipSpace rest)
        some ((.ofText name, content) :: fields, rest)
      | ')' :: rest => some ([(.ofText name, content)], rest)
      | _ => none

/-- The fields of a map up to its closing brace. What `Some` stands before is no key. -/
def mapFields? (loose : Bool) (fuel : Nat) (s : List Char) :
    Option (List (Content × Content) × List Char) :=
  match fuel with
  | 0 => none
  | fuel + 1 =>
    if s.head? = some '\x7d' then some ([], s.drop 1)
    else do
      let (key, rest) ← content? loose fuel s
      let key := if (keyword? "Some" s).isSome then none else key
      let (content, rest) ← fieldContent? loose fuel rest
      match skipSpace rest with
      | ',' :: rest => do
        let (fields, rest) ← mapFields? loose fuel (skipSpace rest)
        some ((key, content) :: fields, rest)
      | '\x7d' :: rest => some ([(key, content)], rest)
      | _ => none

def fieldContent? (loose : Bool) (fuel : Nat) (s : List Char) :
    Option (Content × List Char) :=
  match fuel with
  | 0 => none
  | fuel + 1 =>
    match skipSpace s with
    | ':' :: rest => content? loose fuel (skipSpace rest)
    | _ => none

end

def parse? (text : String) : Option Json := do
  let s := skipSpace text.toList
  let (loose, s) ← header? (s.length + 1) s
  let (content, rest) ← content? loose (4 * s.length + 4) s
  if skipSpace rest = [] then content else none

end SwapDesk.Ron
