import Pinpoint.Json

/-!
# Settings

What the user can choose.  Editors send the settings as a JSON object or, with
the members in order, as an array, on its own or under the name of the
program.
-/

namespace Pinpoint

/-- The choices of the user. -/
structure Settings where
  /-- The linter to run. -/
  executable : Text
  /-- Further arguments for the linter. -/
  extraArgs : List Text
  /-- Whether to lint a text on every change. -/
  lintOnChange : Bool
  /-- Where the linter's configuration is, if it is not to be looked for. -/
  configPath : Option Text
  deriving DecidableEq

/-- What was expected in place of a value. -/
inductive Expectation where
  | settings
  | path
  | arguments
  | argument
  | flag
  deriving DecidableEq

/-- A reason why settings cannot be read. -/
inductive SettingsError where
  | wrongType (found : Json) (expected : Expectation)
  | tooLong (length : Nat)

namespace SettingsError

/-- A value as named in a message. -/
def describe : Json → Text
  | .null => "null".toList
  | .bool value => "boolean `".toList ++ (Json.bool value).compact ++ ['`']
  | .int value => "integer `".toList ++ Json.intText value ++ ['`']
  | .float value => "floating point `".toList ++ value.toText ++ ['`']
  | .str text => "string ".toList ++ Text.quoted (text.getD [])
  | .arr _ => "sequence".toList
  | .obj _ => "map".toList

/-- An expectation as named in a message. -/
def wanted : Expectation → String
  | .settings => "struct Settings"
  | .path => "path string"
  | .arguments => "a sequence"
  | .argument => "a string"
  | .flag => "a boolean"

/-- The wording of an error. -/
def message : SettingsError → String
  | wrongType found expected =>
      "invalid type: " ++ String.ofList (describe found) ++ ", expected " ++ wanted expected
  | tooLong length => s!"invalid length {length}, expected fewer elements in array"

end SettingsError

namespace Settings

/-- The settings where nothing is chosen. -/
def initial : Settings :=
  ⟨"protolint".toList, [], true, none⟩

/-- A path. -/
def readPath : Json → Except SettingsError Text
  | .ofText path => .ok path
  | json => .error (.wrongType json .path)

/-- A path or nothing. -/
def readOptionalPath : Json → Except SettingsError (Option Text)
  | .null => .ok none
  | json => (readPath json).map some

/-- An argument. -/
def readArgument : Json → Except SettingsError Text
  | .ofText argument => .ok argument
  | json => .error (.wrongType json .argument)

/-- A list of arguments. -/
def readArguments : Json → Except SettingsError (List Text)
  | .arr items => items.mapM readArgument
  | json => .error (.wrongType json .arguments)

/-- A choice between yes and no. -/
def readFlag : Json → Except SettingsError Bool
  | .bool value => .ok value
  | json => .error (.wrongType json .flag)

/-- Read a value if it is given. -/
def readOr {α : Type} (read : Json → Except SettingsError α) (fallback : α) :
    Option Json → Except SettingsError α
  | none => .ok fallback
  | some json => read json

/-- Settings from an object.  The first member that cannot be read, in the
order of their names, is the one reported. -/
def ofMembers (json : Json) : Except SettingsError Settings := do
  let configPath ← readOr readOptionalPath initial.configPath (json.get? "configPath")
  let executable ← readOr readPath initial.executable (json.get? "executable")
  let extraArgs ← readOr readArguments initial.extraArgs (json.get? "extraArgs")
  let lintOnChange ← readOr readFlag initial.lintOnChange (json.get? "lintOnChange")
  return ⟨executable, extraArgs, lintOnChange, configPath⟩

/-- Settings from an array. -/
def ofItems (items : List Json) : Except SettingsError Settings := do
  let executable ← readOr readPath initial.executable items[0]?
  let extraArgs ← readOr readArguments initial.extraArgs items[1]?
  let lintOnChange ← readOr readFlag initial.lintOnChange items[2]?
  let configPath ← readOr readOptionalPath initial.configPath items[3]?
  if 4 < items.length then .error (.tooLong items.length)
  else return ⟨executable, extraArgs, lintOnChange, configPath⟩

/-- Settings from the value that holds them. -/
def ofValue : Json → Except SettingsError Settings
  | .null => .ok initial
  | .obj members => ofMembers (.obj members)
  | .arr items => ofItems items
  | json => .error (.wrongType json .settings)

/-- Settings as editors send them. -/
def ofJson (json : Json) : Except SettingsError Settings :=
  ofValue ((json.get? "protolens").getD json)

end Settings

end Pinpoint
