import SwapDesk.CommandLine.Level
import SwapDesk.Decimal.Digits

/-!
# Commands

What the program can be told to do, and the arguments that each command takes.
-/

namespace SwapDesk

/-- A command, with its arguments as they were typed. -/
inductive Command
  | toYocto (amount : String)
  | toHuman (yocto : String) (digits : Option Nat)
  | pools
  | poolInfo (token : String)
  | quoteIn (source target amount : String)
  | quoteOut (source target amount : String)
  | allowance (token : String)
  | balance (token : String)
  | gasCheck
  | swapIn (source target amount least : String)
  | swapOut (source target amount : String) (most : Option String)
  | approve (token amount : String)
deriving DecidableEq

namespace CommandLine

/-- The most digits that can be asked for. -/
def mostDigits : Nat := 255

/-- A natural number up to `mostDigits`, before which a sign may stand. -/
def readDigits? (s : String) : Option Nat :=
  let (negative, digits) := match s.toList with
    | '+' :: rest => (false, rest)
    | '-' :: rest => (true, rest)
    | rest => (false, rest)
  let n := Decimal.value digits
  if digits = [] ∨ digits.any (fun c => !c.isDigit) then none
  else if n ≤ (if negative then 0 else mostDigits) then some n
  else none

/-- A named argument whose value may be any text. -/
def textNamed (name : String) (letter : Option Char) : Named := ⟨name, letter, fun _ => true⟩

def sides : List Named := [textNamed "from" none, textNamed "to" none]

/-- How many digits a conversion shows. -/
def digitsNamed : Named := ⟨"digits", none, fun s => (readDigits? s).isSome⟩

/-- How a command is given: its name, what it takes, and what it is once that has come. There is
no command while a required argument is missing. -/
structure Usage where
  name : String
  level : Level
  command? : Given → Option Command

def Usage.of (name : String) (named : List Named) (operands : Nat)
    (command? : Given → Option Command) : Usage :=
  ⟨name, ⟨named, operands, false⟩, command?⟩

def usages : List Usage := [
  .of "to-yocto" [] 1 fun given => do
    return .toYocto (← given.operand? 0),
  .of "to-human" [digitsNamed] 1 fun given => do
    return .toHuman (← given.operand? 0) ((given.value? "digits").bind readDigits?),
  .of "pools" [] 0 fun _ => some .pools,
  .of "pool-info" [] 1 fun given => do
    return .poolInfo (← given.operand? 0),
  .of "quote-in" sides 1 fun given => do
    return .quoteIn (← given.value? "from") (← given.value? "to") (← given.operand? 0),
  .of "quote-out" sides 1 fun given => do
    return .quoteOut (← given.value? "from") (← given.value? "to") (← given.operand? 0),
  .of "allowance" [] 1 fun given => do
    return .allowance (← given.operand? 0),
  .of "balance" [] 1 fun given => do
    return .balance (← given.operand? 0),
  .of "gas-check" [] 0 fun _ => some .gasCheck,
  .of "swap-in" (sides ++ [textNamed "min-out" none]) 1 fun given => do
    return .swapIn (← given.value? "from") (← given.value? "to") (← given.operand? 0)
      (← given.value? "min-out"),
  .of "swap-out" (sides ++ [textNamed "max-in" none]) 1 fun given => do
    return .swapOut (← given.value? "from") (← given.value? "to") (← given.operand? 0)
      (given.value? "max-in"),
  .of "approve" [] 2 fun given => do
    return .approve (← given.operand? 0) (← given.operand? 1)]

def usage? (name : String) : Option Usage := usages.find? (·.name == name)

def Usage.read (usage : Usage) (arguments : List String) : Except Refusal Command := do
  match usage.command? (← usage.level.read arguments) with
  | some command => return command
  | none => .error .missing

end CommandLine

end SwapDesk
