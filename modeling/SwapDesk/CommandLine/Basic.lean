import SwapDesk.CommandLine.Command

/-!
# Command lines

Arguments of the program itself, then a command with arguments of its own. The word `help` in
place of a command asks for help on the program or on a command.
-/

namespace SwapDesk

structure CommandLine where
  /-- Where settings are read from. -/
  config : Option String
  rpcUrl : Option String
  contract : Option String
  account : Option String
  command : Command
deriving DecidableEq

namespace CommandLine

def helpWord : String := "help"

/-- What stands before the name of a command. -/
def programLevel : Level where
  named := [textNamed "config" (some 'c'), textNamed "rpc-url" none, textNamed "contract" none,
    textNamed "account" none]
  operands := 0
  hasVersion := true

/-- Whether a word can stand in place of a command. -/
def isCommandWord (word : String) : Bool := word == helpWord || (usage? word).isSome

/-- Answers a request for help on a command. Commands have no commands of their own. -/
def readHelp : List String → Refusal
  | [] => .help
  | [word] => if isCommandWord word then .help else .unknownCommand
  | _ => .unknownCommand

/-- Why the program takes no operand. After `--` a command is not recognized, but its name is. -/
def surplus (progress : Progress) (argument : String) : Refusal :=
  if progress.isTrailing && isCommandWord argument then .unknownArgument else .unknownCommand

def withCommand (given : Given) (command : Command) : CommandLine where
  config := given.value? "config"
  rpcUrl := given.value? "rpc-url"
  contract := given.value? "contract"
  account := given.value? "account"
  command := command

/-- Reads what follows. The arguments of a command are read before the last argument of the
program counts. -/
def readFrom (progress : Progress) : List String → Except Refusal CommandLine
  | [] => do
    let settled ← progress.settle
    .error (if settled.given.named = [] then .noArguments else .noCommand)
  | argument :: rest =>
    if progress.isTrailing || progress.awaitsValue || !isCommandWord argument then do
      readFrom (← progress.step programLevel (surplus progress argument) argument) rest
    else match usage? argument with
      | some usage => do
        let command ← usage.read rest
        let settled ← progress.settle
        return withCommand settled.given command
      | none => .error (readHelp rest)

def read (arguments : List String) : Except Refusal CommandLine :=
  readFrom .start arguments

end CommandLine

end SwapDesk
