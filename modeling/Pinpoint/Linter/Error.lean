import Pinpoint.Settings
import Pinpoint.Surroundings

/-!
# Why linting fails

The causes for which there are no findings, and their wording.
-/

namespace Pinpoint

/-- A reason why linting has no result. -/
inductive LintError where
  /-- The linter could not be started. -/
  | spawn (executable : Text) (cause : FileError)
  /-- A file could not be used. -/
  | file (cause : FileError)
  /-- The linter ended with anything but success or findings. -/
  | linterFailed (ending : Ending) (stderr : Text)
  /-- The report is malformed. -/
  | report
  /-- The settings are malformed. -/
  | settings (cause : SettingsError)

/-- The wording of an error. -/
def LintError.message : LintError → String
  | spawn executable cause =>
      "failed to run `" ++ String.ofList executable ++ "`: " ++ cause.message
  | file cause => cause.message
  | linterFailed ending stderr =>
      "protolint exited with " ++ ending.label ++ ": " ++ String.ofList stderr
  | report => "malformed protolint report:"
  | settings cause => "invalid settings: " ++ cause.message

end Pinpoint
