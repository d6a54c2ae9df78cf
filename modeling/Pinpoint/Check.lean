import Pinpoint.Diagnostic
import Pinpoint.Linter

/-!
# Checking files

Lint files one after the other and print their diagnostics.  A file that
cannot be read or linted does not keep the others from being checked.
-/

namespace Pinpoint

namespace Check

/-- Files to check, and the settings to check them with. -/
structure Options where
  settings : Settings
  files : List Path
  deriving DecidableEq

/-- A reason why the arguments make no sense. -/
inductive UsageError where
  | unknownOption (option : Text)
  | missingFile
  deriving DecidableEq

/-- The wording of an error. -/
def UsageError.message : UsageError → String
  | unknownOption option => "unknown option `" ++ String.ofList option ++ "`"
  | missingFile => "missing file path"

/-- What follows a given start of a text. -/
def after? (start : String) (text : Text) : Option Text :=
  if start.toList.isPrefixOf text then some (text.drop start.toList.length) else none

/-- Take in one argument. -/
def addArgument (options : Options) (argument : Text) : Except UsageError Options :=
  match after? "--protolint=" argument with
  | some executable =>
      .ok { options with settings := { options.settings with executable := executable } }
  | none =>
      match after? "--config=" argument with
      | some path =>
          .ok { options with settings := { options.settings with configPath := some path } }
      | none =>
          if argument.head? = some '-' then .error (.unknownOption argument)
          else .ok { options with files := options.files ++ [argument] }

/-- The meaning of the arguments. -/
def parseArguments (arguments : List Text) : Except UsageError Options :=
  match arguments.foldlM addArgument ⟨.initial, []⟩ with
  | .error error => .error error
  | .ok options => if options.files.isEmpty then .error .missingFile else .ok options

/-- The printed diagnostics of a file or an error, and the commands that were
run. -/
structure FileCheck where
  path : Path
  outcome : Except LintError Text
  runs : List Run

/-- Check one file. -/
def checkFile (around : Surroundings) (settings : Settings) (path : Path) : FileCheck :=
  match around.readText path with
  | .error cause => ⟨path, .error (.file cause), []⟩
  | .ok text =>
      let document := IndexedText.ofText text
      let lint := Linter.lintFile around settings path
      let printed := lint.outcome.map fun findings =>
        (Diagnostic.ofFindings document findings).flatMap (Diagnostic.format path document)
      ⟨path, printed, lint.runs⟩

/-- What was printed for a file. -/
def FileCheck.printed (check : FileCheck) : Text :=
  match check.outcome with
  | .ok text => text
  | .error _ => []

/-- What is said about a file that could not be checked. -/
def FileCheck.complaint (check : FileCheck) : Text :=
  match check.outcome with
  | .ok _ => []
  | .error error =>
      "error: ".toList ++ check.path ++ ": ".toList ++ error.message.toList ++ ['\n']

/-- Whether a file could not be checked. -/
def FileCheck.failed (check : FileCheck) : Bool :=
  match check.outcome with
  | .ok _ => false
  | .error _ => true

/-- The status after checking: two if a file could not be checked, one if
there are diagnostics, and zero otherwise. -/
def status (checks : List FileCheck) : Nat :=
  if checks.any FileCheck.failed then 2
  else if checks.any fun check => !check.printed.isEmpty then 1
  else 0

end Check

end Pinpoint
