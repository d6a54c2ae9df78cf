import Pinpoint.Span
import Pinpoint.Text.Quoted
import Pinpoint.TokenKind

/-!
# Why a lookup fails

The causes for which a token cannot be located, and their wording.
-/

namespace Pinpoint

/-- A reason why a lookup has no answer. -/
inductive LookupError where
  /-- A span to leave out does not lie within its line. -/
  | rangeBeyondLine (line : Nat) (span : Span) (width : Nat)
  /-- Two spans to leave out overlap. -/
  | rangeIntersection (line : Nat)
  /-- The line to start on does not exist. -/
  | lineNumber (line lineCount : Nat)
  /-- There is no such token up to the end of the document. -/
  | notFound (kind : TokenKind)
  /-- Tokens of this kind are only found on the way to others. -/
  | notLocatable (kind : TokenKind)
  /-- Another statement stands where an enum value should. -/
  | unexpectedEnumValueName (text : Text)
  /-- Another declaration stands where a field type should. -/
  | unexpectedFieldType (text : Text)
  /-- A group follows a cardinality. -/
  | unexpectedGroup
  /-- The search pattern is no regular expression. -/
  | invalidPattern
  deriving DecidableEq

namespace LookupError

/-- Whether a caller is expected to fall back to a default range. -/
def recoverable : LookupError → Bool
  | notFound _ => true
  | unexpectedEnumValueName _ => true
  | unexpectedFieldType _ => true
  | unexpectedGroup => true
  | _ => false

/-- The wording of an error. -/
def message : LookupError → String
  | rangeBeyondLine line span width =>
      let shown := span.display
      s!"excluded range {shown} lies beyond line {line} (length {width})"
  | rangeIntersection line => s!"excluded ranges on line {line} intersect"
  | lineNumber line lineCount =>
      s!"line {line} is out of bounds (document has {lineCount} lines)"
  | notFound kind => "no " ++ kind.label ++ " found"
  | notLocatable kind => kind.label ++ " cannot be located on its own"
  | unexpectedEnumValueName text =>
      String.ofList (Text.quoted text) ++ " is not an enum value name"
  | unexpectedFieldType text =>
      String.ofList (Text.quoted text) ++ " is not a field type"
  | unexpectedGroup => "group cannot have a cardinality"
  | invalidPattern => "invalid search pattern"

end LookupError

end Pinpoint
