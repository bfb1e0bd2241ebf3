import SwapDesk.CommandLine.Basic
import SwapDesk.Settings.Format

/-!
# Settings

What the program works with. Settings come in layers: defaults, a file, the environment and the
command line, of which later ones win.
-/

namespace SwapDesk

structure Settings where
  network : String
  rpcUrl : String
  contract : String
  account : Option String
deriving DecidableEq

inductive SettingsFault
  | noFile (path : String)
  | unknownFormat (path : String)
  | malformed (path : String)
  /-- The value of a setting is not a text. -/
  | notText (name : String)
deriving DecidableEq

namespace Settings

def initial : Settings where
  network := "testnet"
  rpcUrl := "https://rpc.testnet.near.org"
  contract := "nearswap.testnet"
  account := none

/-- What one layer gives: values under the names of settings. -/
abbrev Layer := List (String × Json)

def isNameChar (c : Char) : Bool := c.isAlphanum || c = ' ' || c = '_' || c = '-'

/-- A place in a list, after the opening bracket, and what follows it. The place is an integer of
64 bits. -/
def place? (s : List Char) : Option (List Char) := do
  let skipGap (s : List Char) := s.dropWhile fun c => c = ' ' || c = '\t'
  let (negative, s) := match skipGap s with
    | '-' :: rest => (true, rest)
    | rest => (false, rest)
  let digits := s.takeWhile Char.isDigit
  let _ ← Json.signed? negative (← (String.ofList digits).toNat?)
  match skipGap (s.drop digits.length) with
  | ']' :: rest => some rest
  | _ => none

/-- Whether a text leads on from a name to a value below it: names after points and places in
brackets, of which there is at least one. Each takes a step of the fuel. -/
def leadsOn : Nat → List Char → Bool
  | 0, _ => false
  | fuel + 1, s =>
    let rest? := match s with
      | '.' :: rest =>
        if (rest.takeWhile isNameChar).isEmpty then none else some (rest.dropWhile isNameChar)
      | '[' :: rest => place? rest
      | _ => none
    match rest? with
    | none => false
    | some [] => true
    | some rest => leadsOn fuel rest

/-- Whether a key means a value below the setting of this name. -/
def isBelow (name key : String) : Bool :=
  name.toList.isPrefixOf key.toList &&
    leadsOn key.length (key.toList.drop name.length)

/-- What the setting of a name is when a layer gives a value under a key. An empty table changes
nothing that is there, and a value below the setting makes it a group of values. -/
def lay (name : String) (current : Option Json) : String × Json → Option Json
  | (key, value) =>
    if key = name then
      match value, current with
      | .object [], some old => some old
      | value, _ => some value
    else if isBelow name key then some (.array [value])
    else current

/-- The value of a setting after all layers, the first one first. -/
def value? (layers : List Layer) (name : String) : Option Json :=
  layers.flatten.foldl (lay name) none

def doubleText (x : Float) : String :=
  if x.isNaN then "NaN"
  else if x.isInf then (if x < 0 then "-inf" else "inf")
  else String.ofList (Double.plainText x)

/-- A value as a text. An integer beyond 63 bits counts as a double. -/
def text? : Json → Option String
  | .string s => some s
  | .bool b => some (if b then "true" else "false")
  | .number (.int n) =>
    some (if n < Json.signedBound then toString n else doubleText n.toNat.toUInt64.toFloat)
  | .number (.double x) => some (doubleText x)
  | _ => none

def defaults : Layer :=
  [("network", .string initial.network), ("rpc_url", .string initial.rpcUrl),
    ("contract_name", .string initial.contract)]

/-- The layer of a value that a file denotes. Only an object has settings. -/
def ofValue : Json → Layer
  | .object fields => fields
  | _ => []

/-- The names of the files that a path may mean: the path, or an ending of a format after it.
Nothing settles which format is tried first. -/
def candidates (formats : List Format) (path : String) : List String :=
  path :: formats.flatMap fun format => format.endings.map fun ending => path ++ "." ++ ending

/-- The layer of the file that a path means. -/
def ofFile (formats : List Format) (files : String → Option String) (path : String) :
    Except SettingsFault Layer := do
  match (candidates formats path).find? fun candidate => (files candidate).isSome with
  | none => .error (.noFile path)
  | some path =>
    match Format.ofPath? path with
    | none => .error (.unknownFormat path)
    | some format =>
      match (files path).bind format.read? with
      | none => .error (.malformed path)
      | some value => .ok (ofValue value)

/-- The variable of an entry of the environment. The first equals sign ends its name. -/
def namedValue? (entry : List UInt8) : Option (String × String) := do
  let text := (← String.fromUTF8? ⟨entry.toArray⟩).toList
  match text.dropWhile (· != '=') with
  | '=' :: value => some (String.ofList (text.takeWhile (· != '=')), String.ofList value)
  | _ => none

/-- The variables of the environment as the system keeps them, each ended by a zero. What is no text
is left out. -/
def namedValues (block : List UInt8) : List (String × String) :=
  (block.splitOn 0).filterMap namedValue?

/-- What the names of the variables start with, in lower case. -/
def variableMark : List Char := "swapctl_".toList

/-- The lower case of a character, if it is a character of ASCII. -/
def lowerChar (c : Char) : Char := if c = '\u212a' then 'k' else c.toLower

/-- The layer of the environment: the variables with the mark, whatever their case. -/
def ofEnvironment (environment : List (String × String)) : Layer :=
  environment.filterMap fun (name, value) =>
    let lower := name.toList.map lowerChar
    if variableMark.isPrefixOf lower then
      some (String.ofList (lower.drop variableMark.length), .string value)
    else none

/-- The setting of a name that has to be there. -/
def required (layers : List Layer) (name : String) : Except SettingsFault String :=
  match (value? layers name).bind text? with
  | some text => .ok text
  | none => .error (.notText name)

def account? (layers : List Layer) : Except SettingsFault (Option String) :=
  match value? layers "account_id" with
  | none | some .null => .ok none
  | some value =>
    match text? value with
    | some text => .ok (some text)
    | none => .error (.notText "account_id")

/-- The settings of the layers below the command line. -/
def ofLayers (layers : List Layer) : Except SettingsFault Settings := do
  return {
    network := ← required layers "network"
    rpcUrl := ← required layers "rpc_url"
    contract := ← required layers "contract_name"
    account := ← account? layers }

/-- The settings with those of the command line over them. -/
def withLine (settings : Settings) (line : CommandLine) : Settings where
  network := settings.network
  rpcUrl := line.rpcUrl.getD settings.rpcUrl
  contract := line.contract.getD settings.contract
  account := line.account.or settings.account

/-- The settings for a command line, given the variables of the environment, the files, and the
order in which the formats of a file without an ending are tried. -/
def load (formats : List Format) (line : CommandLine) (environment : List (String × String))
    (files : String → Option String) : Except SettingsFault Settings := do
  let file ← match line.config with
    | some path => ofFile formats files path
    | none => .ok []
  let settings ← ofLayers [defaults, file, ofEnvironment environment]
  return settings.withLine line

end Settings

end SwapDesk
