import SwapDesk.Json.Parser

/-!
# Words of RON

Blanks, names, strings and characters. Every reader takes the text from where it stands and gives
back the text after what it has read.
-/

namespace SwapDesk.Ron

/-- A text after the end of a comment in the middle of a line. Such comments nest, `depth` deep. -/
def afterComment (depth : Nat) : List Char → Option (List Char)
  | [] => none
  | '*' :: '/' :: rest =>
    match depth with
    | 0 => some rest
    | depth + 1 => afterComment depth rest
  | '/' :: '*' :: rest => afterComment (depth + 1) rest
  | _ :: rest => afterComment depth rest

/-- Blanks and comments. Each takes a step of the fuel. -/
def skip : Nat → List Char → List Char
  | 0, s => s
  | fuel + 1, s =>
    match s.dropWhile Json.Grammar.isSpace with
    | '/' :: '/' :: rest => skip fuel (rest.dropWhile (· != '\n'))
    | '/' :: '*' :: rest =>
      match afterComment 0 rest with
      | some rest => skip fuel rest
      | none => '/' :: '*' :: rest
    | rest => rest

def skipSpace (s : List Char) : List Char := skip (s.length + 1) s

def isNameChar (c : Char) : Bool := c.isAlphanum || c = '_'

/-- The characters of a raw name, which `r#` stands before. -/
def isRawChar (c : Char) : Bool := isNameChar c || c = '.' || c = '+' || c = '-'

/-- A name. What starts like a raw string is none. -/
def name? : List Char → Option (List Char × List Char)
  | [] => none
  | ['r'] => none
  | 'r' :: '"' :: _ => none
  | 'r' :: '#' :: rest =>
    match rest.takeWhile isRawChar with
    | [] => none
    | name => some (name, rest.dropWhile isRawChar)
  | c :: rest =>
    if c.isAlpha ∨ c = '_' then some (c :: rest.takeWhile isNameChar, rest.dropWhile isNameChar)
    else none

def after? (head s : List Char) : Option (List Char) :=
  if head.isPrefixOf s then some (s.drop head.length) else none

def keyword? (word : String) (s : List Char) : Option (List Char) :=
  (after? word.toList s).filter fun rest => rest.head?.all fun c => !isNameChar c

/-- The character of a code of up to six digits, after its opening brace. -/
def bracedCode? (s : List Char) : Option (Char × List Char) := do
  let digits := s.takeWhile (· != '\x7d')
  let values ← digits.mapM Json.Grammar.hexValue?
  let code := values.foldl (fun n d => n * 16 + d) 0
  match s.drop digits.length with
  | '\x7d' :: rest =>
    if digits ≠ [] ∧ digits.length ≤ 6 ∧ code.isValidChar then some (Char.ofNat code, rest)
    else none
  | _ => none

/-- What an escape stands for, after the backslash. -/
def escape? : List Char → Option (Char × List Char)
  | 'x' :: a :: b :: rest => do
    some (Char.ofNat ((← Json.Grammar.hexValue? a) * 16 + (← Json.Grammar.hexValue? b)), rest)
  | 'u' :: '\x7b' :: rest => bracedCode? rest
  | c :: rest =>
    ([('"', '"'), ('\'', '\''), ('\\', '\\'), ('n', '\n'), ('r', '\r'), ('t', '\t'),
      ('0', '\x00')].lookup c).map fun d => (d, rest)
  | [] => none

/-- A string after its opening quote. Each character takes at most one step of the fuel. -/
def stringRest? : Nat → List Char → Option (List Char × List Char)
  | 0, _ => none
  | _, [] => none
  | _, '"' :: rest => some ([], rest)
  | fuel + 1, '\\' :: rest => do
    let (head, rest) ← escape? rest
    let (tail, rest) ← stringRest? fuel rest
    some (head :: tail, rest)
  | fuel + 1, c :: rest => do
    let (tail, rest) ← stringRest? fuel rest
    some (c :: tail, rest)

/-- The text up to the first place where `ending` stands, and what follows the ending. -/
def upTo? (ending : List Char) : List Char → Option (List Char × List Char)
  | [] => none
  | c :: rest =>
    match after? ending (c :: rest) with
    | some after => some ([], after)
    | none => do
      let (head, after) ← upTo? ending rest
      some (c :: head, after)

/-- A raw string after its `r`. It ends with a quote and as many signs as stand before it. -/
def rawString? (s : List Char) : Option (List Char × List Char) :=
  let signs := s.takeWhile (· == '#')
  match s.drop signs.length with
  | '"' :: rest => upTo? ('"' :: signs) rest
  | _ => none

def character? : List Char → Option (Char × List Char)
  | '\\' :: rest => do
    let (c, rest) ← escape? rest
    if rest.head? = some '\'' then some (c, rest.drop 1) else none
  | c :: '\'' :: rest => if c = '\'' then none else some (c, rest)
  | _ => none

end SwapDesk.Ron
