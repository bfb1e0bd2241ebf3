import SwapDesk.Double.Text
import SwapDesk.Json.Basic

/-!
# JSON text

A value as compact text, without blanks, and as indented text, two blanks a level.
-/

namespace SwapDesk.Json

def hexDigit (n : Nat) : Char :=
  if n < 10 then Char.ofNat ('0'.toNat + n) else Char.ofNat ('a'.toNat + (n - 10))

/-- One character inside a string. Only quotes, backslashes and the controls below the space
are escaped. -/
def escape (c : Char) : List Char :=
  if c = '"' then ['\\', '"']
  else if c = '\\' then ['\\', '\\']
  else if c = '\x08' then ['\\', 'b']
  else if c = '\t' then ['\\', 't']
  else if c = '\n' then ['\\', 'n']
  else if c = '\x0c' then ['\\', 'f']
  else if c = '\r' then ['\\', 'r']
  else if c.toNat < 0x20 then
    ['\\', 'u', '0', '0', hexDigit (c.toNat / 16), hexDigit (c.toNat % 16)]
  else [c]

/-- A string between quotes. -/
def quote (s : String) : List Char :=
  '"' :: (s.toList.flatMap escape ++ ['"'])

def Number.chars : Number → List Char
  | .int n => if n < 0 then '-' :: Nat.toDigits 10 n.natAbs else Nat.toDigits 10 n.natAbs
  | .double x => Double.text x

mutual

def chars : Json → List Char
  | null => ['n', 'u', 'l', 'l']
  | bool true => ['t', 'r', 'u', 'e']
  | bool false => ['f', 'a', 'l', 's', 'e']
  | number n => n.chars
  | string s => quote s
  | array [] => ['[', ']']
  | array (item :: items) => '[' :: (item.chars ++ moreItems items)
  | object [] => ['{', '}']
  | object ((key, value) :: fields) =>
    '{' :: (quote key ++ ':' :: (value.chars ++ moreFields fields))

def moreItems : List Json → List Char
  | [] => [']']
  | item :: items => ',' :: (item.chars ++ moreItems items)

def moreFields : List (String × Json) → List Char
  | [] => ['}']
  | (key, value) :: fields =>
    ',' :: (quote key ++ ':' :: (value.chars ++ moreFields fields))

end

def render (value : Json) : String := String.ofList value.chars

def newLine (level : Nat) : List Char :=
  '\n' :: List.replicate (2 * level) ' '

mutual

/-- The indented text of a value that stands `level` levels deep. -/
def indented (level : Nat) : Json → List Char
  | null => ['n', 'u', 'l', 'l']
  | bool true => ['t', 'r', 'u', 'e']
  | bool false => ['f', 'a', 'l', 's', 'e']
  | number n => n.chars
  | string s => quote s
  | array [] => ['[', ']']
  | array (item :: items) =>
    '[' :: (newLine (level + 1) ++ indented (level + 1) item ++ indentedItems level items)
  | object [] => ['{', '}']
  | object ((key, value) :: fields) =>
    '{' :: (newLine (level + 1) ++ quote key ++ ':' :: ' ' ::
      (indented (level + 1) value ++ indentedFields level fields))

def indentedItems (level : Nat) : List Json → List Char
  | [] => newLine level ++ [']']
  | item :: items =>
    ',' :: (newLine (level + 1) ++ indented (level + 1) item ++ indentedItems level items)

def indentedFields (level : Nat) : List (String × Json) → List Char
  | [] => newLine level ++ ['}']
  | (key, value) :: fields =>
    ',' :: (newLine (level + 1) ++ quote key ++ ':' :: ' ' ::
      (indented (level + 1) value ++ indentedFields level fields))

end

def renderIndented (value : Json) : String := String.ofList (indented 0 value)

end SwapDesk.Json
