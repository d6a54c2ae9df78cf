import Pinpoint.Fix

/-!
# Diagnostics

A finding with the range it is about and the fixes that mend it, and the way
it is printed.
-/

namespace Pinpoint

/-- A finding ready to be shown. -/
structure Diagnostic where
  range : Range
  severity : Severity
  rule : Text
  message : Text
  fixes : List Fix
  deriving DecidableEq

namespace Diagnostic

/-- The diagnostic of a finding in a document. -/
def ofFinding (document : IndexedText) (finding : Finding) : Diagnostic :=
  let rule := Rule.find? finding.rule
  let resolved := ResolvedRange.ofFinding document finding rule
  let fix := rule.bind fun rule =>
    Fix.ofRule document rule (rule.readMessage finding.message) resolved
  ⟨resolved.range, finding.level, finding.rule, finding.message, fix.toList⟩

/-- The diagnostics of findings that belong to a document. -/
def ofFindings (document : IndexedText) (findings : List Finding) : List Diagnostic :=
  findings.map (ofFinding document)

/-- The column of a position as printed: in characters, counted from one. -/
def printedColumn (document : IndexedText) (position : Position) : Nat :=
  match document.line? position.line with
  | some line => line.charColumn position.column + 1
  | none => position.column + 1

/-- The number of a column or line as text. -/
def number (n : Nat) : Text :=
  Nat.toDigits 10 n

/-- A diagnostic as printed: one line, and one for every fix. -/
def format (file : Text) (document : IndexedText) (diagnostic : Diagnostic) : Text :=
  let range := diagnostic.range
  let place := file ++ [':'] ++ number (range.start.line + 1) ++ [':'] ++
    number (printedColumn document range.start) ++ ['-'] ++
    number (printedColumn document range.stop)
  let head := place ++ ": ".toList ++ diagnostic.severity.label.toList ++ ['['] ++
    diagnostic.rule ++ "] ".toList ++ diagnostic.message ++ ['\n']
  head ++ diagnostic.fixes.flatMap fun fix => "    fix: ".toList ++ fix.title ++ ['\n']

end Diagnostic

end Pinpoint
