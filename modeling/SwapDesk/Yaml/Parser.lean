import SwapDesk.Yaml.Node
import SwapDesk.Yaml.Token

/-!
# Reading YAML

A document as the value that its tokens stand for. What has an anchor can be named again by
references after it.
-/

namespace SwapDesk.Yaml

/-- The tokens that are left, and the anchors before them. An anchor stands for nothing until its
node has been read. -/
structure Reader where
  tokens : List Token
  anchors : Array (String × Node)

/-- Reads a part of the tokens. -/
abbrev Reading := StateT Reader Option

namespace Reading

def next? : Reading (Option Token) := return (← get).tokens.head?

def skip : Reading Unit := modify fun r => { r with tokens := r.tokens.drop 1 }

def startAnchor (name : String) : Reading Nat := do
  let r ← get
  set { r with anchors := r.anchors.push (name, .refused) }
  return r.anchors.size

def endAnchor (number : Option Nat) (node : Node) : Reading Unit :=
  match number with
  | none => pure ()
  | some n => modify fun r =>
    { r with anchors := r.anchors.modify n fun (name, _) => (name, node) }

def anchored (name : String) : Reading Node := do
  match (← get).anchors.toList.reverse.lookup name with
  | some node => return node
  | none => failure

def tagToken? : Reading (Option Tag) := do
  match ← next? with
  | some (.tag tag) =>
    skip
    return some tag
  | _ => return none

def anchorToken? : Reading (Option Nat) := do
  match ← next? with
  | some (.anchor name) =>
    skip
    return some (← startAnchor name)
  | _ => return none

/-- A tag and an anchor in front of a node, in any order. -/
def properties : Reading (Option Tag × Option Nat) := do
  match ← anchorToken? with
  | some anchor => return (← tagToken?, some anchor)
  | none =>
    match ← tagToken? with
    | some tag => return (some tag, ← anchorToken?)
    | none => return (none, none)

def plainNode (tag : Option Tag) (text : List Char) : Node :=
  tag.elim (Node.ofPlain text) fun tag => Node.ofTagged tag text

def absent : Node := .value .null

def isBlockFieldEnd : Token → Bool
  | .key | .value | .blockEnd => true
  | _ => false

mutual

/-- A node. Block collections start only where `block` holds, and a list of items without an
indent of its own only where `items` holds. The fuel bounds the steps. -/
def node (fuel : Nat) (block items : Bool) : Reading Node := do
  match fuel with
  | 0 => failure
  | fuel + 1 =>
    match ← next? with
    | some (.reference name) =>
      skip
      anchored name
    | _ =>
      let (tag, anchor) ← properties
      let node ← content fuel block items tag anchor.isSome
      endAnchor anchor node
      return node

/-- A node after its tag and its anchor, without which it has to be written. -/
def content (fuel : Nat) (block items : Bool) (tag : Option Tag) (hasAnchor : Bool) :
    Reading Node := do
  match fuel with
  | 0 => failure
  | fuel + 1 =>
    match ← next?, block, items with
    | some (.plain text), _, _ =>
      skip
      return plainNode tag text
    | some (.text text), _, _ =>
      skip
      return .ofString text
    | some .item, _, true => return .ofItems (← looseItems fuel)
    | some .flowList, _, _ =>
      skip
      return .ofItems (← flowItems fuel true)
    | some .flowMap, _, _ =>
      skip
      return .ofChildren (← flowFields fuel true)
    | some .blockList, true, _ =>
      skip
      return .ofItems (← blockItems fuel)
    | some .blockMap, true, _ =>
      skip
      return .ofChildren (← blockFields fuel)
    | _, _, _ => if tag.isSome || hasAnchor then return plainNode tag [] else failure

def blockItems (fuel : Nat) : Reading (List Node) := do
  match fuel with
  | 0 => failure
  | fuel + 1 =>
    match ← next? with
    | some .blockEnd =>
      skip
      return []
    | some .item =>
      skip
      let isAbsent := match ← next? with
        | some .item | some .blockEnd => true
        | _ => false
      let item ← if isAbsent then pure absent else node fuel true false
      return item :: (← blockItems fuel)
    | _ => failure

/-- The items of a list that stand in the column of the map around it. -/
def looseItems (fuel : Nat) : Reading (List Node) := do
  match fuel with
  | 0 => failure
  | fuel + 1 =>
    match ← next? with
    | some .item =>
      skip
      let isAbsent := match ← next? with
        | some .item => true
        | some token => isBlockFieldEnd token
        | none => false
      let item ← if isAbsent then pure absent else node fuel true false
      return item :: (← looseItems fuel)
    | _ => return []

/-- A key or a value of a block map, after its sign. -/
def blockField (fuel : Nat) : Reading Node := do
  match fuel with
  | 0 => failure
  | fuel + 1 =>
    match ← next? with
    | some token => if isBlockFieldEnd token then return absent else node fuel true true
    | none => failure

def blockFields (fuel : Nat) : Reading (List Node) := do
  match fuel with
  | 0 => failure
  | fuel + 1 =>
    match ← next? with
    | some .blockEnd =>
      skip
      return []
    | some .key =>
      skip
      let key ← blockField fuel
      return key :: (← blockValue fuel)
    | some .value => return absent :: (← blockValue fuel)
    | _ => failure

/-- The value of a key of a block map, and the keys and values after it. -/
def blockValue (fuel : Nat) : Reading (List Node) := do
  match fuel with
  | 0 => failure
  | fuel + 1 =>
    match ← next? with
    | some .value =>
      skip
      let value ← blockField fuel
      return value :: (← blockFields fuel)
    | _ => return absent :: (← blockFields fuel)

/-- The items of a list in brackets. A comma stands before each but the first. -/
def flowItems (fuel : Nat) (first : Bool) : Reading (List Node) := do
  match fuel with
  | 0 => failure
  | fuel + 1 =>
    match ← next?, first with
    | some .flowListEnd, _ =>
      skip
      return []
    | some .comma, false =>
      skip
      flowItem fuel
    | _, true => flowItem fuel
    | _, false => failure

/-- An item of a list in brackets and those after it, or the end of the list. -/
def flowItem (fuel : Nat) : Reading (List Node) := do
  match fuel with
  | 0 => failure
  | fuel + 1 =>
    match ← next? with
    | some .flowListEnd =>
      skip
      return []
    | some .key =>
      skip
      let item ← flowPair fuel
      return item :: (← flowItems fuel false)
    | _ =>
      let item ← node fuel false false
      return item :: (← flowItems fuel false)

/-- A map of one key in a list in brackets, after the sign of the key. What ends an absent key is
skipped. -/
def flowPair (fuel : Nat) : Reading Node := do
  match fuel with
  | 0 => failure
  | fuel + 1 =>
    let key ← match ← next? with
      | some .value | some .comma | some .flowListEnd =>
        skip
        pure absent
      | _ => node fuel false false
    match ← next? with
    | some .value =>
      skip
      let value ← match ← next? with
        | some .comma | some .flowListEnd => pure absent
        | _ => node fuel false false
      return .ofChildren [key, value]
    | _ => return .ofChildren [key, absent]

/-- The keys and values of a map in braces. A comma stands before each key but the first. -/
def flowFields (fuel : Nat) (first : Bool) : Reading (List Node) := do
  match fuel with
  | 0 => failure
  | fuel + 1 =>
    match ← next?, first with
    | some .flowMapEnd, _ =>
      skip
      return []
    | some .comma, false =>
      skip
      flowField fuel
    | _, true => flowField fuel
    | _, false => failure

/-- A key of a map in braces with its value and what comes after them, or the end of the map. -/
def flowField (fuel : Nat) : Reading (List Node) := do
  match fuel with
  | 0 => failure
  | fuel + 1 =>
    match ← next? with
    | some .flowMapEnd =>
      skip
      return []
    | some .key =>
      skip
      let key ← match ← next? with
        | some .value | some .comma | some .flowMapEnd => pure absent
        | _ => node fuel false false
      return key :: (← flowValue fuel)
    | some .value => return absent :: (← flowValue fuel)
    | _ =>
      let key ← node fuel false false
      return key :: absent :: (← flowFields fuel false)

/-- The value of a key of a map in braces, and what comes after it. -/
def flowValue (fuel : Nat) : Reading (List Node) := do
  match fuel with
  | 0 => failure
  | fuel + 1 =>
    match ← next? with
    | some .value =>
      skip
      let value ← match ← next? with
        | some .comma | some .flowMapEnd => pure absent
        | _ => node fuel false false
      return value :: (← flowFields fuel false)
    | _ => return absent :: (← flowFields fuel false)

end

/-- The node of a document after its mark, which may be missing. -/
def markedNode (fuel : Nat) : Reading Node := do
  match ← next? with
  | none | some .directive | some .documentStart | some .documentEnd => return absent
  | _ => node fuel true false

/-- The only document, if there is one. Directives need a mark after them. -/
def document (fuel : Nat) : Reading (Option Node) := do
  match ← next? with
  | none => return none
  | some .directive | some .documentStart =>
    modify fun r => { r with tokens := r.tokens.dropWhile fun t => t matches .directive }
    match ← next? with
    | some .documentStart =>
      skip
      return some (← markedNode fuel)
    | _ => failure
  | _ => return some (← node fuel true false)

end Reading

/-- The value that a text stands for. A text without a document is an empty map; one with several
documents is refused. -/
def parse? (text : String) : Option Json := do
  let tokens ← tokens? text.toList
  let (node, rest) ← (Reading.document (4 * tokens.length + 4)).run ⟨tokens, #[]⟩
  if rest.tokens.all fun t => t matches .documentEnd then
    (node.getD (.value (.object []))).value?
  else none

end SwapDesk.Yaml
