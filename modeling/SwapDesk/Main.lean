import SwapDesk.Converter
import SwapDesk.Program.Basic
import SwapDesk.Rpc.Basic

/-!
# The programs

The swap program, and the converter under the name `yocto`. The swap program leaves the transport
to whoever runs it: each request to the node is written to the standard error as one line, and
the answer is read from the standard input, one line as well.
-/

namespace SwapDesk.Main

def report (failure : Program.Failure) : IO UInt32 := do
  IO.eprintln ("Error: " ++ failure.message)
  return 1

/-- The next answer of the node, or none where the input has ended. -/
def answer : IO (Option ByteArray) := do
  let line ← (← IO.getStdin).getLine
  return if line.isEmpty then none else some line.toUTF8

def request (body : Json) : IO (Except ClientError Json) := do
  IO.eprintln body.render
  return Rpc.readBody (← answer)

/-- Carries on a dialog with the node and the user. The account stays signed in throughout. -/
def converse (account : Option String) : Dialog Program.Verdict → IO UInt32
  | .done .fine => return 0
  | .done .lowGas => report .lowGas
  | .fail e => report (.client e)
  | .tell (.line text) next => do
    IO.println text
    converse account next
  | .tell (.approveFirst symbol) next => do
    IO.eprintln ("allowance below input, approve first: " ++ symbol)
    converse account next
  | .ask (.view call) next => do
    match (← request (Rpc.viewBody call)).bind (Rpc.readView call.method) with
    | .ok value => converse account (next value)
    | .error e => report (.client e)
  | .ask (.balance owner) next => do
    match (← request (Rpc.balanceBody owner)).bind Rpc.readBalance with
    | .ok balance => converse account (next balance)
    | .error e => report (.client e)
  | .ask (.submit call) next => do
    IO.print (DryRun.shown call)
    converse account (next account)

/-- The names by which settings are looked up where the environment cannot be listed. -/
def variableNames : List String :=
  ["SWAPCTL_ACCOUNT_ID", "SWAPCTL_CONTRACT_NAME", "SWAPCTL_NETWORK", "SWAPCTL_RPC_URL"]

/-- All variables of the environment, whatever their names. -/
def environment : IO (List (String × String)) := do
  try return Settings.namedValues (← IO.FS.readBinFile "/proc/self/environ").toList
  catch _ => variableNames.filterMapM fun name => do
    return (← IO.getEnv name).map (name, ·)

def content? (path : String) : IO (Option String) := do
  try return some (← IO.FS.readFile path)
  catch _ => return none

/-- The order in which the formats of a file without an ending are tried. -/
def formats : List Settings.Format := Settings.Format.all

/-- The files that the arguments may mean. -/
def files (arguments : List String) : IO (List (String × String)) := do
  match CommandLine.read arguments with
  | .ok line =>
    (line.config.elim [] (Settings.candidates formats)).filterMapM fun path => do
      return (← content? path).map (path, ·)
  | .error _ => return []

def finish (ending : Program.Ending) : IO UInt32 := do
  IO.print ending.output
  match ending.failure with
  | some failure => report failure
  | none => return ending.status.toUInt32

def swap (arguments : List String) : IO UInt32 := do
  let files ← files arguments
  match Program.plan formats arguments (← environment) (fun path => files.lookup path) with
  | .refuse refusal => finish (Program.endingOfRefusal refusal)
  | .print text => finish (Program.endingOfPrint text)
  | .talk settings dialog => converse settings.account dialog

def convert (arguments : List String) : IO UInt32 := do
  let input ← (← IO.getStdin).readToEnd
  IO.print (Converter.runWith arguments input)
  return 0

end SwapDesk.Main

def main (arguments : List String) : IO UInt32 := do
  if (← IO.appPath).fileName = some "yocto" then SwapDesk.Main.convert arguments
  else SwapDesk.Main.swap arguments
