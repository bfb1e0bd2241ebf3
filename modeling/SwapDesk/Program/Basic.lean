import SwapDesk.Program.Dialog
import SwapDesk.Session.DryRun
import SwapDesk.Settings.Basic

/-!
# The program

From arguments to a plan, and from a plan to what is printed and how the program ends. Function
calls are shown instead of signed.
-/

namespace SwapDesk.Program

inductive Failure
  | amount (e : AmountError)
  | settings (fault : SettingsFault)
  | client (e : ClientError)
  | lowGas

def Failure.message : Failure → String
  | amount e => e.message
  | settings _ => "loading configuration"
  | client e => e.message
  | lowGas => "less than 0.6 NEAR available for fees"

inductive Plan
  | refuse (refusal : CommandLine.Refusal)
  /-- Nothing has to be asked: the text is printed. -/
  | print (text : Except Failure String)
  /-- A dialog with the node of the settings. -/
  | talk (settings : Settings) (dialog : Dialog Verdict)

/-- The text of a command that converts an amount. -/
def conversion? : Command → Option (Except AmountError (List Char))
  | .toYocto amount => some (Decimal.scale amount.toList)
  | .toHuman yocto digits =>
    let precision := digits.elim .full Decimal.Precision.truncated
    some ((Amount.ofText yocto).map fun amount => Decimal.pointed precision amount.digits)
  | _ => none

/-- What a command line asks for. -/
def planFor (formats : List Settings.Format) (line : CommandLine)
    (environment : List (String × String)) (files : String → Option String) : Plan :=
  match conversion? line.command with
  | some (.ok text) => .print (.ok (String.ofList text ++ "\n"))
  | some (.error e) => .print (.error (.amount e))
  | none =>
    match Settings.load formats line environment files with
    | .error fault => .print (.error (.settings fault))
    | .ok settings =>
      .talk settings (dialog ⟨⟨settings.contract⟩, settings.account⟩ line.command)

def plan (formats : List Settings.Format) (arguments : List String)
    (environment : List (String × String)) (files : String → Option String) : Plan :=
  match CommandLine.read arguments with
  | .error refusal => .refuse refusal
  | .ok line => planFor formats line environment files

structure Ending where
  /-- The status: 0 for success, 1 for failures, 2 for refused arguments. -/
  status : UInt8
  output : String
  failure : Option Failure

/-- What an event of a dialog prints. -/
def printed : Event → String
  | .told (.line text) => text ++ "\n"
  | .asked (.submit call) true => DryRun.shown call
  | _ => ""

/-- How the program ends after a dialog. What was printed before a failure stays. -/
def endingOf {σ ω : Type} (outcome : Outcome σ ω Verdict) : Ending :=
  let output := String.join (outcome.events.map printed)
  match outcome.result with
  | .ok .fine => ⟨0, output, none⟩
  | .ok .lowGas => ⟨1, output, some .lowGas⟩
  | .error e => ⟨1, output, some (.client e)⟩

def versionText : String := "swapctl 0.1.0\n"

/-- How the program ends when nothing is asked. -/
def endingOfPrint : Except Failure String → Ending
  | .ok text => ⟨0, text, none⟩
  | .error failure => ⟨1, "", some failure⟩

/-- How the program ends when its arguments are refused. A wish for help or for the version is no
failure. -/
def endingOfRefusal : CommandLine.Refusal → Ending
  | .help => ⟨0, "", none⟩
  | .version => ⟨0, versionText, none⟩
  | _ => ⟨2, "", none⟩

end SwapDesk.Program
