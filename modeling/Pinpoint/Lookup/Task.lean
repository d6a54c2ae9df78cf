import Pinpoint.Lookup.TokenMap
import Pinpoint.Lookup.Vocabulary
import Pinpoint.LookupError
import Pinpoint.Pattern.Search

/-!
# Steps of a lookup

A token is located by a fixed list of tasks: first what has to stand before
it, such as a keyword or a field type, and last the token itself.
-/

namespace Pinpoint

/-- One step of a lookup. -/
inductive Task where
  /-- The keyword of a kind. -/
  | keyword (kind : TokenKind)
  /-- The next identifier, possibly with dots. -/
  | name (kind : TokenKind) (dotted : Bool)
  /-- A field type, and the cardinality in front of it. -/
  | fieldType
  /-- The name of an enum value. -/
  | enumValueName
  deriving DecidableEq

namespace Task

/-- The kind of token that a task looks for. -/
def kind : Task → TokenKind
  | keyword kind => kind
  | name kind _ => kind
  | fieldType => .fieldType
  | enumValueName => .enumValueName

/-- The tasks by which a kind of token is located, if it can be. -/
def listFor : TokenKind → Option (List Task)
  | .packageName => some [keyword .package, name .packageName true]
  | .messageName => some [keyword .message, name .messageName false]
  | .enumName => some [keyword .enum, name .enumName false]
  | .enumValueName => some [enumValueName]
  | .fieldName => some [fieldType, name .fieldName false]
  | .rpcName => some [keyword .rpc, name .rpcName false]
  | .serviceName => some [keyword .service, name .serviceName false]
  | .required => some [keyword .required]
  | _ => none

end Task

/-- What a task sees of a line: its columns outside comments, the column to
start from, and the pattern that replaces the task's own. -/
structure TaskInput where
  line : Line
  spans : List Span
  first : Nat
  search : Option Pattern

namespace TaskInput

/-- Up to `limit` matches of a pattern. -/
def find (input : TaskInput) (pattern : Pattern) (limit : Nat) : List Match :=
  input.line.findInSpans input.spans pattern input.first limit

/-- The first match of the given pattern, or of the one that replaces it. -/
def first? (input : TaskInput) (pattern : Pattern) : Option Match :=
  (input.find (input.search.getD pattern) 1).head?

end TaskInput

/-- The tokens that a task found, and whether it found all that it looks
for. -/
structure Resolved where
  tokens : List (TokenKind × Match)
  done : Bool

namespace Task

/-- One token, which is all that was looked for. -/
def single (kind : TokenKind) : Option Match → Except LookupError Resolved
  | none => .error (.notFound kind)
  | some found => .ok ⟨[(kind, found)], true⟩

/-- The field type after the recorded tokens, unless it is none. -/
def acceptFieldType (hasCardinality : Bool) (recorded : List (TokenKind × Match))
    (found : Match) : Except LookupError Resolved :=
  if hasCardinality then
    if found.text = "group".toList then .error .unexpectedGroup
    else .ok ⟨recorded ++ [(.fieldType, found)], true⟩
  else if Vocabulary.notFieldTypes.contains found.text then
    .error (.unexpectedFieldType found.text)
  else .ok ⟨recorded ++ [(.fieldType, found)], true⟩

/-- Find a field type, and a cardinality if none was met before.  When a line
ends after the cardinality, the type is left for a later line. -/
def resolveFieldType (input : TaskInput) (tokens : TokenMap) :
    Except LookupError Resolved :=
  if tokens.contains .fieldCardinality then
    match (input.find Vocabulary.fieldTypeCandidate 1).head? with
    | none => .error (.notFound .fieldType)
    | some found => acceptFieldType true [] found
  else
    match input.find Vocabulary.fieldTypeCandidate 2 with
    | [] => .error (.notFound .fieldType)
    | first :: others =>
        if Vocabulary.cardinalities.contains first.text then
          match others with
          | [] => .ok ⟨[(.fieldCardinality, first)], false⟩
          | second :: _ => acceptFieldType true [(.fieldCardinality, first)] second
        else acceptFieldType false [] first

/-- Run a task on a line. -/
def resolve (input : TaskInput) (tokens : TokenMap) : Task → Except LookupError Resolved
  | keyword kind => single kind (input.first? (Vocabulary.keyword kind))
  | name kind dotted =>
      let pattern := if dotted then Vocabulary.dottedIdentifier else Vocabulary.identifier
      single kind (input.first? pattern)
  | enumValueName =>
      match input.first? Vocabulary.identifier with
      | none => .error (.notFound .enumValueName)
      | some found =>
          if Vocabulary.notEnumValueNames.contains found.text then
            .error (.unexpectedEnumValueName found.text)
          else .ok ⟨[(.enumValueName, found)], true⟩
  | fieldType => resolveFieldType input tokens

end Task

end Pinpoint
