import Pinpoint.Finding
import Pinpoint.Json.Reader
import Pinpoint.Text.Blank

/-!
# Reports of the linter

The linter prints its findings as a JSON object, sometimes with other text
around it.  Objects may also be given as arrays, with their members in order.
-/

namespace Pinpoint

namespace Report

/-- Number of the values a line or column can take. -/
def numberLimit : Nat :=
  Nat.pow 2 64

/-- A line or column. -/
def place? (json : Json) : Option Nat :=
  json.asNat?.filter (· < numberLimit)

/-- A severity; it may be missing. -/
def severity? : Json → Option (Option Text)
  | .null => some none
  | .ofText value => some (some value)
  | _ => none

/-- A finding from its parts. -/
def findingOf? (filename line column message rule : Json) (severity : Option Json) :
    Option Finding := do
  let filename ← filename.asText?
  let line ← place? line
  let column ← place? column
  let message ← message.asText?
  let rule ← rule.asText?
  let severity ←
    match severity with
    | none => some none
    | some json => severity? json
  return ⟨filename, line, column, message, rule, severity⟩

/-- The value of a member that may occur once at most: nothing if it occurs
again. -/
def atMostOnce? (name : String) (members : List (Option Text × Json)) :
    Option (Option Json) :=
  match Json.valuesOf name members with
  | [] => some none
  | [value] => some (some value)
  | _ => none

/-- The value of a member that occurs exactly once. -/
def once? (name : String) (members : List (Option Text × Json)) : Option Json :=
  (atMostOnce? name members).join

/-- Whether every member has a name. -/
def allNamed (members : List (Option Text × Json)) : Bool :=
  members.all (·.1.isSome)

/-- A finding of a report. -/
def finding? : Json → Option Finding
  | .arr [filename, line, column, message, rule] =>
      findingOf? filename line column message rule none
  | .arr [filename, line, column, message, rule, severity] =>
      findingOf? filename line column message rule (some severity)
  | .obj members =>
      if allNamed members then do
        let severity ← atMostOnce? "severity" members
        findingOf? (← once? "filename" members) (← once? "line" members)
          (← once? "column" members) (← once? "message" members) (← once? "rule" members)
          severity
      else none
  | _ => none

/-- The findings of a report. -/
def findings? : Json → Option (List Finding)
  | .arr items => items.mapM finding?
  | _ => none

/-- The findings of a report as a whole. -/
def ofJson? : Json → Option (List Finding)
  | .arr [] => some []
  | .arr [lints] => findings? lints
  | .obj members =>
      if allNamed members then
        match atMostOnce? "lints" members with
        | none => none
        | some none => some []
        | some (some lints) => findings? lints
      else none
  | _ => none

/-- Where the report starts in what the linter printed: at the first brace, if
there is one. -/
def body (output : Text) : Text :=
  if output.contains '\x7b' then output.dropWhile (· != '\x7b') else output

/-- The findings in what the linter printed, if it is well formed.  Nothing
printed means no findings, and what follows the report does not count. -/
def parse? (output : Text) : Option (List Finding) :=
  let trimmed := Text.trim output
  if trimmed.isEmpty then some []
  else
    match Json.read? (body trimmed) with
    | none => none
    | some (json, _) => ofJson? json

end Report

end Pinpoint
