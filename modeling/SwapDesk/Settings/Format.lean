import SwapDesk.Ini
import SwapDesk.Json5.Parser
import SwapDesk.Ron.Parser
import SwapDesk.Toml.Parser
import SwapDesk.Yaml.Parser

/-!
# Formats of settings files

A file of settings is written in one of several formats, which the ending of its name tells. In
each of them the file denotes a value.
-/

namespace SwapDesk.Settings

inductive Format
  | toml
  | json
  | yaml
  | ini
  | ron
  | json5
deriving DecidableEq

namespace Format

def all : List Format := [toml, json, yaml, ini, ron, json5]

def endings : Format → List String
  | toml => ["toml"]
  | json => ["json"]
  | yaml => ["yaml", "yml"]
  | ini => ["ini"]
  | ron => ["ron"]
  | json5 => ["json5"]

/-- The ending of a file name after its last point, if something stands before the point. -/
def ending? (path : String) : Option String :=
  let name := path.toList.reverse.takeWhile (· != '/')
  match name.dropWhile (· != '.') with
  | [] | [_] => none
  | _ => some (String.ofList (name.takeWhile (· != '.')).reverse)

/-- The format that the name of a file tells. -/
def ofPath? (path : String) : Option Format := do
  let ending ← ending? path
  all.find? fun format => format.endings.contains ending

def read? (format : Format) (text : String) : Option Json :=
  match format with
  | toml => Toml.parse? text
  | json => Json.parse? text
  | yaml => Yaml.parse? text
  | ini => Ini.parse? text
  | ron => Ron.parse? text
  | json5 => Json5.parse? text

end Format

end SwapDesk.Settings
