import SwapDesk.Text.Printable

/-!
# Quoted text

A text or a character between quotes, as error messages show it: the closing quote and the
backslash get a backslash, four controls have names, and whatever is not printable is written
as its code in hexadecimal.
-/

namespace SwapDesk.Text

def escapeCode (c : Char) : List Char :=
  "\\u\x7b".toList ++ Nat.toDigits 16 c.toNat ++ ['\x7d']

/-- One character inside a pair of the given quotes. -/
def escape (quote c : Char) : List Char :=
  if c = '\x00' then ['\\', '0']
  else if c = '\t' then ['\\', 't']
  else if c = '\n' then ['\\', 'n']
  else if c = '\r' then ['\\', 'r']
  else if c = '\\' ∨ c = quote then ['\\', c]
  else if isPrintable c then [c]
  else escapeCode c

def quoted (s : List Char) : List Char :=
  '"' :: (s.flatMap (escape '"') ++ ['"'])

def quotedChar (c : Char) : List Char :=
  '\'' :: (escape '\'' c ++ ['\''])

end SwapDesk.Text
