import SwapDesk.Json.Parser
import SwapDesk.Yaml.Cursor

/-!
# Quoted texts in YAML

Texts between single or double quotes. They may span lines; only double quotes know escapes.
-/

namespace SwapDesk.Yaml

def codeEscape? (count : Nat) (s : List Char) : Option (Char × List Char) := do
  let values ← (s.take count).mapM Json.Grammar.hexValue?
  let code := values.foldl (fun n d => n * 16 + d) 0
  if values.length = count ∧ code.isValidChar then some (Char.ofNat code, s.drop count) else none

/-- The characters that single letters stand for after a backslash. -/
def letters : List (Char × Char) := [
  ('0', '\x00'), ('a', '\x07'), ('b', '\x08'), ('t', '\t'), ('\t', '\t'), ('n', '\n'),
  ('v', '\x0b'), ('f', '\x0c'), ('r', '\r'), ('e', '\x1b'), (' ', ' '), ('"', '"'), ('\'', '\''),
  ('\\', '\\'), ('N', '\u0085'), ('_', '\u00a0'), ('L', '\u2028'), ('P', '\u2029')]

def escape? : List Char → Option (Char × List Char)
  | 'x' :: rest => codeEscape? 2 rest
  | 'u' :: rest => codeEscape? 4 rest
  | 'U' :: rest => codeEscape? 8 rest
  | c :: rest => (letters.lookup c).map fun d => (d, rest)
  | [] => none

/-- The text after its opening quote, up to the closing one. A mark between documents may not
stand in it. A line break after a backslash vanishes, and so do the blanks after it. Each
character takes at most one step of the fuel. -/
def quoted? (quote : Char) : Nat → List Char → Option (List Char × List Char)
  | 0, _ => none
  | _, [] => none
  | fuel + 1, c :: rest =>
    let more (head rest : List Char) := do
      let (tail, rest) ← quoted? quote fuel rest
      some (head ++ tail, rest)
    let moreAfter (head gap rest : List Char) :=
      if gap.getLast? = some '\n' ∧ (startsMark '-' rest ∨ startsMark '.' rest) then none
      else more head rest
    if c = quote then
      match rest with
      | c' :: after => if quote = '\'' ∧ c' = quote then more [c] after else some ([], rest)
      | [] => some ([], [])
    else if isSpace c then
      let gap := (c :: rest).takeWhile isSpace
      moreAfter (foldGap gap) gap (rest.dropWhile isSpace)
    else if c = '\\' ∧ quote = '"' then
      if rest.head?.any isBreak then
        let gap := rest.takeWhile isSpace
        moreAfter (List.replicate (breakCount gap - 1) '\n') gap (rest.dropWhile isSpace)
      else do
        let (d, rest) ← escape? rest
        more [d] rest
    else more [c] rest

end SwapDesk.Yaml
