import SwapDesk.Yaml.Block
import SwapDesk.Yaml.Plain
import SwapDesk.Yaml.Quoted
import SwapDesk.Yaml.Tag

/-!
# The tokens of a YAML text

A text as a list of tokens. Block collections have no signs at their ends, so that the columns of
what stands in them decide; and whether a token is a key shows only when a colon follows, so that
the tokens of a key are put in afterwards, before what has turned out to be it.
-/

namespace SwapDesk.Yaml

inductive Token
  | directive
  | documentStart
  | documentEnd
  | blockList
  | blockMap
  | blockEnd
  | flowList
  | flowListEnd
  | flowMap
  | flowMapEnd
  | item
  | comma
  | key
  | value
  | reference (name : String)
  | anchor (name : String)
  | tag (tag : Tag)
  | plain (text : List Char)
  /-- A text between quotes or of whole lines. -/
  | text (text : List Char)

/-- Where a key may have started: the number of the tokens before it, and its place. A required
key stands inside brackets in the column of the collection around them. -/
structure Candidate where
  number : Nat
  start : Cursor
  required : Bool

/-- A key ends on its line, and within this number of characters. -/
def longestKey : Nat := 1024

def Candidate.isStale (now : Cursor) (c : Candidate) : Bool :=
  c.start.line < now.line || c.start.index + longestKey < now.index

/-- The tokens that have been read and what decides about the next ones. -/
structure Lexer where
  cursor : Cursor
  tokens : Array Token
  /-- Whether a key may start here. -/
  keyAllowed : Bool
  /-- The key that may have started inside the innermost brackets. -/
  candidate : Option Candidate
  /-- The keys that may have started outside of them, for every pair of open brackets. -/
  outer : List (Option Candidate)
  /-- The columns of the open block collections, the innermost first. -/
  columns : List Nat
  /-- Where the last text between quotes ended. -/
  quotedEnd : Nat

namespace Lexer

def start (text : List Char) : Lexer where
  cursor := .start text
  tokens := #[]
  keyAllowed := true
  candidate := none
  outer := []
  columns := []
  quotedEnd := 0

def inFlow (l : Lexer) : Bool := !l.outer.isEmpty

def least (l : Lexer) : Nat :=
  match l.columns with
  | [] => 0
  | column :: _ => column + 1

def push (token : Token) (l : Lexer) : Lexer := { l with tokens := l.tokens.push token }

/-- Puts in a token after the first ones. -/
def insert (number : Nat) (token : Token) (l : Lexer) : Lexer :=
  { l with tokens :=
      (l.tokens.extract 0 number).push token ++ l.tokens.extract number l.tokens.size }

/-- A token that is this number of characters long. -/
def sign (length : Nat) (token : Token) (l : Lexer) : Lexer :=
  { l.push token with cursor := l.cursor.skip length }

/-- Ends the block collections from this column on. -/
def closeFrom (column : Nat) (l : Lexer) : Lexer :=
  if l.inFlow then l
  else
    let ended := l.columns.takeWhile (column ≤ ·)
    { l with
      tokens := l.tokens ++ List.replicate ended.length Token.blockEnd
      columns := l.columns.drop ended.length }

/-- Starts a block collection after the first tokens, if one of this column is not yet open. -/
def openBlock (column number : Nat) (token : Token) (l : Lexer) : Lexer :=
  if l.inFlow || column < l.least then l
  else { l.insert number token with columns := column :: l.columns }

/-- Gives up the keys that have become too long. -/
def dropStale? (l : Lexer) : Option Lexer :=
  let isStale (c : Option Candidate) : Bool := c.any (·.isStale l.cursor)
  let isMissed (c : Option Candidate) : Bool := isStale c && c.any (·.required)
  let kept (c : Option Candidate) : Option Candidate := if isStale c then none else c
  if isMissed l.candidate || l.outer.any isMissed then none
  else some { l with candidate := kept l.candidate, outer := l.outer.map kept }

/-- Gives up the key that may have started. -/
def dropCandidate? (l : Lexer) : Option Lexer :=
  if l.candidate.any (·.required) then none else some { l with candidate := none }

/-- What comes next may be a key, if one is allowed here. -/
def startCandidate? (l : Lexer) : Option Lexer :=
  if !l.keyAllowed then some l
  else do
    let l ← l.dropCandidate?
    let required := l.inFlow && l.columns.head? == some l.cursor.column
    some { l with candidate := some ⟨l.tokens.size, l.cursor, required⟩ }

/-- Blanks, line breaks and comments. A tab where a key may start is not blank. Each takes a step
of the fuel. -/
def skipSpace : Nat → Lexer → Lexer
  | 0, l => l
  | fuel + 1, l =>
    match l.cursor.rest with
    | [] => l
    | c :: _ =>
      if c = ' ' || (c = '\t' && (l.inFlow || !l.keyAllowed)) then
        skipSpace fuel { l with cursor := l.cursor.next }
      else if isBreak c then
        skipSpace fuel
          { l with cursor := l.cursor.skipBreak, keyAllowed := l.keyAllowed || !l.inFlow }
      else if c = '#' then
        skipSpace fuel { l with cursor := l.cursor.skipWhile fun c => !isBreak c }
      else l

/-! ## Tokens of signs -/

def documentMark? (token : Token) (l : Lexer) : Option Lexer := do
  let l ← (l.closeFrom 0).dropCandidate?
  some ({ l with keyAllowed := false }.sign 3 token)

def directiveLine? (rest : List Char) (l : Lexer) : Option Lexer := do
  let l ← (l.closeFrom 0).dropCandidate?
  let rest ← directive? rest
  some ({ l with keyAllowed := false, cursor := l.cursor.moveTo rest }.push .directive)

/-- Brackets inside of each other are at most this deep. -/
def deepestFlow : Nat := 255

def openFlow? (token : Token) (l : Lexer) : Option Lexer := do
  let l ← l.startCandidate?
  if l.outer.length < deepestFlow then
    some ({ l with keyAllowed := true, candidate := none, outer := l.candidate :: l.outer }.sign
      1 token)
  else none

def closeFlow? (token : Token) (l : Lexer) : Option Lexer := do
  let l ← l.dropCandidate?
  let l := match l.outer with
    | [] => l
    | candidate :: outer => { l with candidate := candidate, outer := outer }
  some ({ l with keyAllowed := false }.sign 1 token)

def comma? (l : Lexer) : Option Lexer := do
  let l ← l.dropCandidate?
  some ({ l with keyAllowed := true }.sign 1 .comma)

def item? (l : Lexer) : Option Lexer := do
  if l.inFlow || !l.keyAllowed then none
  else
    let l ← (l.openBlock l.cursor.column l.tokens.size .blockList).dropCandidate?
    some ({ l with keyAllowed := true }.sign 1 .item)

/-- The sign of a key that need not be short. -/
def key? (l : Lexer) : Option Lexer := do
  if !l.inFlow && !l.keyAllowed then none
  else
    let l ← (l.openBlock l.cursor.column l.tokens.size .blockMap).dropCandidate?
    some ({ l with keyAllowed := !l.inFlow }.sign 1 .key)

/-- The colon before a value. It tells that the candidate is a key. -/
def value? (l : Lexer) : Option Lexer :=
  match l.candidate with
  | some c =>
    let l := (l.insert c.number .key).openBlock c.start.column c.number .blockMap
    some ({ l with keyAllowed := false, candidate := none }.sign 1 .value)
  | none =>
    if !l.inFlow && !l.keyAllowed then none
    else
      let l := l.openBlock l.cursor.column l.tokens.size .blockMap
      some ({ l with keyAllowed := !l.inFlow }.sign 1 .value)

/-! ## Tokens of words -/

/-- A token after which this much of the text is left. It may start a key. -/
def word? (token : Token) (rest : List Char) (l : Lexer) : Option Lexer := do
  let l ← l.startCandidate?
  some ({ l with keyAllowed := false, cursor := l.cursor.moveTo rest }.push token)

def quotedText? (quote : Char) (s : List Char) (l : Lexer) : Option Lexer := do
  let (text, rest) ← quoted? quote (s.length + 1) s
  let l ← l.word? (.text text) rest
  some { l with quotedEnd := l.cursor.index }

def blockText? (folded : Bool) (l : Lexer) : Option Lexer := do
  let l ← l.startCandidate?
  let (text, cursor) ← Yaml.blockText? folded l.columns.head? l.cursor.next
  some ({ l with keyAllowed := true, cursor := cursor }.push (.text text))

def plainText? (l : Lexer) : Option Lexer := do
  let l ← l.startCandidate?
  let ((text, broken), cursor) ←
    plain? l.inFlow l.least (l.cursor.rest.length + 1) l.cursor
  some ({ l with keyAllowed := broken, cursor := cursor }.push (.plain text))

/-- Whether the colon before this text ends a key. Inside brackets it may stand close to what
follows, after a text between quotes. -/
def endsKey (rest : List Char) (l : Lexer) : Bool :=
  endsWord rest ||
    (l.inFlow && (rest.head?.any isFlowSign || l.cursor.index == l.quotedEnd))

/-- The next token, which starts with the character `c`. -/
def token? (c : Char) (rest : List Char) (l : Lexer) : Option Lexer :=
  if l.cursor.column = 0 ∧ c = '%' then l.directiveLine? rest
  else if l.cursor.column = 0 ∧ startsMark '-' (c :: rest) then l.documentMark? .documentStart
  else if l.cursor.column = 0 ∧ startsMark '.' (c :: rest) then l.documentMark? .documentEnd
  else if c = '[' then l.openFlow? .flowList
  else if c = '\x7b' then l.openFlow? .flowMap
  else if c = ']' then l.closeFlow? .flowListEnd
  else if c = '\x7d' then l.closeFlow? .flowMapEnd
  else if c = ',' then l.comma?
  else if c = '-' ∧ endsWord rest then l.item?
  else if c = '?' ∧ endsWord rest then l.key?
  else if c = ':' ∧ l.endsKey rest then l.value?
  else if c = '*' then do
    let (name, rest) ← anchorName? rest
    l.word? (.reference name) rest
  else if c = '&' then do
    let (name, rest) ← anchorName? rest
    l.word? (.anchor name) rest
  else if c = '!' then do
    let (tag, rest) ← tag? rest
    l.word? (.tag tag) rest
  else if c = '|' ∧ !l.inFlow then l.blockText? false
  else if c = '>' ∧ !l.inFlow then l.blockText? true
  else if c = '\'' ∨ c = '"' then l.quotedText? c rest
  else if c = '%' ∨ c = '@' ∨ c = '\x60' then none
  else l.plainText?

/-- Reads what is left, up to the end of the text. Each token takes a step of the fuel. -/
def run? : Nat → Lexer → Option Lexer
  | 0, _ => none
  | fuel + 1, l => do
    let l ← (l.skipSpace (l.cursor.rest.length + 1)).dropStale?
    let l := l.closeFrom (l.cursor.column + 1)
    match l.cursor.rest with
    | [] => (l.closeFrom 0).dropCandidate?
    | c :: rest => run? fuel (← l.token? c rest)

end Lexer

/-- The tokens of a text. A text ends before its first null character. -/
def tokens? (text : List Char) : Option (List Token) := do
  let text := text.takeWhile (· ≠ '\x00')
  some (← (Lexer.start text).run? (text.length + 1)).tokens.toList

end SwapDesk.Yaml
