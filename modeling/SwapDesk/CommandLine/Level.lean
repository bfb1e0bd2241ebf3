/-!
# Arguments of one level

A command line has two levels: what stands before the name of a command and what stands after
it. A level takes named arguments, such as `--to=near` or `-c file`, and operands, which stand
for themselves. After `--` every argument is an operand.
-/

namespace SwapDesk.CommandLine

/-- Why a command line is not carried out. -/
inductive Refusal
  /-- Help was asked for. -/
  | help
  /-- The version was asked for. -/
  | version
  /-- There are no arguments at all. -/
  | noArguments
  | noCommand
  | unknownCommand
  | unknownArgument
  /-- A named argument came twice. -/
  | repeated
  /-- A named argument came without its value. -/
  | noValue
  /-- The value of a named argument is not of the kind it takes. -/
  | badValue
  /-- A named argument that takes no value came with one. -/
  | needlessValue
  /-- A required argument did not come. -/
  | missing
deriving DecidableEq

/-- An argument with a name and a value. -/
structure Named where
  name : String
  /-- The letter that may stand for the name. -/
  letter : Option Char
  /-- Whether a value is of the kind that the argument takes. -/
  accepts : String → Bool

/-- What a level takes. -/
structure Level where
  named : List Named
  operands : Nat
  /-- Whether the version can be asked for. -/
  hasVersion : Bool

/-- The arguments of a level that have come. -/
structure Given where
  named : List (String × String)
  operands : List String

def Given.value? (given : Given) (name : String) : Option String := given.named.lookup name

def Given.operand? (given : Given) (index : Nat) : Option String := given.operands[index]?

/-- How far the arguments of a level have been read. -/
structure Progress where
  given : Given
  /-- A named argument that has come last. It counts once the next argument shows that it is
  complete; its value may still be missing. -/
  pending : Option (Named × Option String)
  /-- Whether `--` has come. -/
  isTrailing : Bool

namespace Progress

def start : Progress := ⟨⟨[], []⟩, none, false⟩

/-- Whether the next argument is the value of a named one. -/
def awaitsValue (progress : Progress) : Bool :=
  !progress.isTrailing && progress.pending.any fun (_, value) => value.isNone

def take (progress : Progress) (named : Named) (value : String) : Except Refusal Progress :=
  if (progress.given.value? named.name).isSome then .error .repeated
  else if !named.accepts value then .error .badValue
  else
    .ok { progress with given.named := progress.given.named ++ [(named.name, value)] }

def settle (progress : Progress) : Except Refusal Progress :=
  match progress.pending with
  | none => .ok progress
  | some (_, none) => .error .noValue
  | some (named, some value) => { progress with pending := none }.take named value

/-- Reads the name of a named argument, with its value if it comes along. -/
def begin (progress : Progress) (named : Named) : Option String → Except Refusal Progress
  | some value => do (← progress.settle).take named value
  | none => return { ← progress.settle with pending := some (named, none) }

/-- Takes an operand. Where none is left to take the level refuses it. -/
def operand (level : Level) (surplus : Refusal) (progress : Progress) (argument : String) :
    Except Refusal Progress :=
  if progress.given.operands.length < level.operands then do
    let settled ← progress.settle
    return { settled with given.operands := settled.given.operands ++ [argument] }
  else .error surplus

/-- Leaves the level with a wish that takes no value, if what came before is complete. -/
def wish (progress : Progress) (refusal : Refusal) : Option String → Except Refusal Progress
  | some _ => .error .needlessValue
  | none => do
    let _ ← progress.settle
    .error refusal

/-- Reads an argument that starts with two dashes: a name, and a value after an equals sign. -/
def long (level : Level) (progress : Progress) (text : List Char) : Except Refusal Progress :=
  let name := String.ofList (text.takeWhile (· != '='))
  let value := match text.dropWhile (· != '=') with
    | [] => none
    | _ :: rest => some (String.ofList rest)
  match level.named.find? (·.name == name) with
  | some named => progress.begin named value
  | none =>
    if name = "help" then progress.wish .help value
    else if level.hasVersion ∧ name = "version" then progress.wish .version value
    else .error .unknownArgument

/-- Reads an argument that starts with one dash: a letter, and a value right after it, before
which an equals sign may stand. -/
def short (level : Level) (progress : Progress) (letter : Char) (rest : List Char) :
    Except Refusal Progress :=
  match level.named.find? (·.letter == some letter) with
  | some named =>
    match rest with
    | [] => progress.begin named none
    | '=' :: value => progress.begin named (some (String.ofList value))
    | value => progress.begin named (some (String.ofList value))
  | none =>
    if letter = 'h' then progress.wish .help none
    else if level.hasVersion ∧ letter = 'V' then progress.wish .version none
    else .error .unknownArgument

/-- Reads an argument that is neither a name nor the end of the names. -/
def other (level : Level) (surplus : Refusal) (progress : Progress) (argument : String) :
    Except Refusal Progress :=
  match progress.pending, progress.awaitsValue with
  | some (named, _), true => .ok { progress with pending := some (named, some argument) }
  | _, _ => progress.operand level surplus argument

def step (level : Level) (surplus : Refusal) (progress : Progress) (argument : String) :
    Except Refusal Progress :=
  if progress.isTrailing then progress.operand level surplus argument
  else match argument.toList with
    | ['-', '-'] => .ok { progress with isTrailing := true }
    | '-' :: '-' :: text => progress.long level text
    | '-' :: letter :: rest => progress.short level letter rest
    | _ => progress.other level surplus argument

end Progress

def Level.read (level : Level) (arguments : List String) : Except Refusal Given := do
  let progress ← arguments.foldlM (Progress.step level .unknownArgument) .start
  return (← progress.settle).given

end SwapDesk.CommandLine
