import Pinpoint.Text

/-!
# Findings

What the linter reports: a place, counted from one and in characters, a
message, and the rule that was broken.
-/

namespace Pinpoint

/-- How serious a finding is. -/
inductive Severity where
  | error
  | warning
  | info
  deriving DecidableEq

namespace Severity

/-- The severity that a word stands for, whatever the case of its ASCII
letters; unknown words stand for a warning. -/
def parse (value : Text) : Severity :=
  let word := value.map Char.toLower
  if word = "error".toList then error
  else if word = "info".toList ∨ word = "note".toList then info
  else warning

/-- The word for a severity. -/
def label : Severity → String
  | error => "error"
  | warning => "warning"
  | info => "info"

end Severity

/-- One finding of the linter. -/
structure Finding where
  filename : Text
  line : Nat
  column : Nat
  message : Text
  rule : Text
  severity : Option Text
  deriving DecidableEq

/-- How serious a finding is; a warning if nothing is said. -/
def Finding.level (finding : Finding) : Severity :=
  (finding.severity.map Severity.parse).getD .warning

end Pinpoint
