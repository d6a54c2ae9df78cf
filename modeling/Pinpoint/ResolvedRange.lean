import Pinpoint.Finding
import Pinpoint.Lookup
import Pinpoint.Pattern.Literal
import Pinpoint.Rule

/-!
# The range of a finding

A finding gives a line and a column only.  Its range is that of the token the
rule is about, if it can be located from there on, and otherwise the line from
its first character that is not blank.
-/

namespace Pinpoint

/-- How a range was obtained. -/
inductive RangeSource where
  | token
  | indentation
  /-- The line as a whole, for want of anything better. -/
  | fallback
  deriving DecidableEq

/-- A range of a document, and the text it covers. -/
structure ResolvedRange where
  range : Range
  source : RangeSource
  text : Text
  deriving DecidableEq

namespace ResolvedRange

/-- Whether an edit may touch the range. -/
def precise (resolved : ResolvedRange) : Bool :=
  resolved.source != .fallback

/-- A range of columns of a line. -/
def onLine (line : Line) (start stop : Nat) (source : RangeSource) : ResolvedRange :=
  ⟨.onLine line.number start stop, source, line.slice ⟨start, stop⟩⟩

/-- A line from its first character that is not blank; a blank line as a
whole. -/
def default (line : Line) : ResolvedRange :=
  let first := line.firstNonBlank
  onLine line (if first = line.width then 0 else first) line.width .fallback

/-- The number of the line of a finding, within the document. -/
def lineOf (document : IndexedText) (finding : Finding) : Nat :=
  min (finding.line - 1) (document.source.lineCount - 1)

/-- The written pattern for the token that a message names. -/
def searchFor (rule : Rule) (finding : Finding) : Option Text :=
  (rule.readMessage finding.message).token.map Pattern.wholeWord

/-- The range of a finding in a document. -/
def ofFinding (document : IndexedText) (finding : Finding) (rule : Option Rule) :
    ResolvedRange :=
  let number := lineOf document finding
  match document.line? number with
  | none => ⟨.onLine 0 0 0, .fallback, []⟩
  | some line =>
      match rule with
      | none => default line
      | some rule =>
          match rule.target with
          | .indentation => onLine line 0 line.firstNonBlank .indentation
          | .token kind =>
              let column := line.byteColumn (finding.column - 1)
              match locate document.source kind number column (searchFor rule finding) with
              | .ok found => ⟨⟨found.start, found.stop⟩, .token, found.text⟩
              | .error _ => default line

end ResolvedRange

end Pinpoint
