import SwapDesk.Double.Text
import SwapDesk.Json.Written

/-!
# Reading JSON

The grammar of JSON text, from the parts of a string and of a number up to a whole document.
Every reader takes the text from where it stands and gives back the text after what it has read.
-/

namespace SwapDesk.Json

namespace Grammar

def isSpace (c : Char) : Bool :=
  c = ' ' || c = '\n' || c = '\t' || c = '\r'

def skipSpace (s : List Char) : List Char := s.dropWhile isSpace

/-- A part of a string: a character, or a code of 16 bits from an escape. -/
inductive Piece
  | character (c : Char)
  | code (n : Nat)

def hexValue? (c : Char) : Option Nat :=
  if '0' ≤ c ∧ c ≤ '9' then some (c.toNat - '0'.toNat)
  else if 'a' ≤ c ∧ c ≤ 'f' then some (c.toNat - 'a'.toNat + 10)
  else if 'A' ≤ c ∧ c ≤ 'F' then some (c.toNat - 'A'.toNat + 10)
  else none

def shortEscape? (c : Char) : Option Char :=
  if c = '"' ∨ c = '\\' ∨ c = '/' then some c
  else if c = 'b' then some '\x08'
  else if c = 'f' then some '\x0c'
  else if c = 'n' then some '\n'
  else if c = 'r' then some '\r'
  else if c = 't' then some '\t'
  else none

/-- The parts of a string after its opening quote. -/
def pieces? : List Char → Option (List Piece × List Char)
  | [] => none
  | '"' :: rest => some ([], rest)
  | '\\' :: 'u' :: a :: b :: c :: d :: rest => do
    let n := (((← hexValue? a) * 16 + (← hexValue? b)) * 16 + (← hexValue? c)) * 16 +
      (← hexValue? d)
    let (more, rest) ← pieces? rest
    some (.code n :: more, rest)
  | '\\' :: c :: rest => do
    let c ← shortEscape? c
    let (more, rest) ← pieces? rest
    some (.character c :: more, rest)
  | c :: rest =>
    if c.toNat < 0x20 ∨ c = '\\' then none
    else do
      let (more, rest) ← pieces? rest
      some (.character c :: more, rest)

def isLeading (n : Nat) : Bool := 0xd800 ≤ n && n < 0xdc00

def isTrailing (n : Nat) : Bool := 0xdc00 ≤ n && n < 0xe000

/-- The characters that the parts stand for. Half of a surrogate pair stands for none. -/
def joined? : List Piece → Option (List Char)
  | [] => some []
  | .character c :: rest => (joined? rest).map (c :: ·)
  | .code n :: rest =>
    if isTrailing n then none
    else if isLeading n then
      match rest with
      | .code m :: rest =>
        if isTrailing m then
          (joined? rest).map (Char.ofNat (0x10000 + (n - 0xd800) * 0x400 + (m - 0xdc00)) :: ·)
        else none
      | _ => none
    else (joined? rest).map (Char.ofNat n :: ·)

/-- A string after its opening quote. It denotes nothing if it holds half of a pair. -/
def stringRest? (s : List Char) : Option (Option String × List Char) := do
  let (parts, rest) ← pieces? s
  some ((joined? parts).map String.ofList, rest)

def digitRun? (s : List Char) : Option (List Char × List Char) :=
  match s.takeWhile Char.isDigit with
  | [] => none
  | run => some (run, s.dropWhile Char.isDigit)

/-- The digits before the point: a zero alone, or digits that do not start with one. -/
def wholeRun? : List Char → Option (List Char × List Char)
  | '0' :: rest => some (['0'], rest)
  | s => digitRun? s

def fractionRun? : List Char → Option (List Char × List Char)
  | '.' :: rest => digitRun? rest
  | s => some ([], s)

def exponentRun? (s : List Char) : Option (Option Int × List Char) :=
  match s with
  | c :: rest =>
    if c = 'e' ∨ c = 'E' then do
      let (negative, rest) := match rest with
        | '+' :: rest => (false, rest)
        | '-' :: rest => (true, rest)
        | rest => (false, rest)
      let (run, rest) ← digitRun? rest
      let size : Int := Nat.ofDigitChars 10 run 0
      some (some (if negative then -size else size), rest)
    else some (none, s)
  | [] => some (none, [])

/-- The number that digits without a point and an exponent stand for. Minus zero is a double. -/
def integer? (negative : Bool) (whole : List Char) : Option Number :=
  let n := Nat.ofDigitChars 10 whole 0
  if negative then
    if 0 < n ∧ n ≤ signedBound then some (.int (-n))
    else (Double.ofDecimal? true whole [] 0).map .double
  else if n ≤ greatestNatural then some (.int n)
  else (Double.ofDecimal? false whole [] 0).map .double

/-- A number, which denotes nothing if it is beyond the doubles. -/
def number? (s : List Char) : Option (Option Number × List Char) := do
  let (negative, s) := match s with
    | '-' :: rest => (true, rest)
    | rest => (false, rest)
  let (whole, s) ← wholeRun? s
  let (fraction, s) ← fractionRun? s
  let (exponent, s) ← exponentRun? s
  let n := match fraction, exponent with
    | [], none => integer? negative whole
    | _, _ => (Double.ofDecimal? negative whole fraction (exponent.getD 0)).map .double
  some (n, s)

/-- The object with these fields, which denotes nothing if a key does not. -/
def objectOf (fields : List (Option String × Written)) : Written :=
  match fields.mapM fun (key, field) => key.map fun key => (key, field) with
  | some fields => .object fields
  | none => .unreadable

mutual

/-- A document. The fuel bounds the steps, of which each character takes at most two. -/
def document? (fuel : Nat) (s : List Char) : Option (Written × List Char) :=
  match fuel with
  | 0 => none
  | fuel + 1 =>
    match s with
    | 'n' :: 'u' :: 'l' :: 'l' :: rest => some (.null, rest)
    | 't' :: 'r' :: 'u' :: 'e' :: rest => some (.bool true, rest)
    | 'f' :: 'a' :: 'l' :: 's' :: 'e' :: rest => some (.bool false, rest)
    | '"' :: rest => do
      let (text, rest) ← stringRest? rest
      some (text.elim .unreadable .string, rest)
    | '[' :: rest =>
      match skipSpace rest with
      | ']' :: rest => some (.array [], rest)
      | rest => do
        let (items, rest) ← items? fuel rest
        some (.array items, rest)
    | '{' :: rest =>
      match skipSpace rest with
      | '}' :: rest => some (.object [], rest)
      | rest => do
        let (fields, rest) ← fields? fuel rest
        some (objectOf fields, rest)
    | s => do
      let (n, rest) ← number? s
      some (n.elim .unreadable .number, rest)

/-- The items of an array up to its closing bracket, of which there is at least one. -/
def items? (fuel : Nat) (s : List Char) : Option (List Written × List Char) :=
  match fuel with
  | 0 => none
  | fuel + 1 => do
    let (item, rest) ← document? fuel s
    match skipSpace rest with
    | ']' :: rest => some ([item], rest)
    | ',' :: rest => do
      let (items, rest) ← items? fuel (skipSpace rest)
      some (item :: items, rest)
    | _ => none

/-- The fields of an object up to its closing brace, of which there is at least one. -/
def fields? (fuel : Nat) (s : List Char) :
    Option (List (Option String × Written) × List Char) :=
  match fuel, s with
  | fuel + 1, '"' :: rest => do
    let (key, rest) ← stringRest? rest
    match skipSpace rest with
    | ':' :: rest => do
      let (field, rest) ← document? fuel (skipSpace rest)
      match skipSpace rest with
      | '}' :: rest => some ([(key, field)], rest)
      | ',' :: rest => do
        let (fields, rest) ← fields? fuel (skipSpace rest)
        some ((key, field) :: fields, rest)
      | _ => none
    | _ => none
  | _, _ => none

end

end Grammar

def Written.parse? (text : String) : Option Written := do
  let s := text.toList
  let (document, rest) ← Grammar.document? (2 * s.length + 2) (Grammar.skipSpace s)
  if Grammar.skipSpace rest = [] then some document else none

def parse? (text : String) : Option Json := do
  (← Written.parse? text).value? deepest

/-- The free-form value whose text in UTF-8 the bytes are. -/
def ofBytes? (bytes : ByteArray) : Option Json := do
  parse? (← String.fromUTF8? bytes)

end SwapDesk.Json
