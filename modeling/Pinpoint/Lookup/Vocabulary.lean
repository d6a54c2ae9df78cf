import Pinpoint.Pattern
import Pinpoint.TokenKind

/-!
# Words of protocol buffer definitions

The patterns and word lists by which tokens are recognised.
-/

namespace Pinpoint

namespace Vocabulary

open Pattern

/-- A text that stands as a word of its own. -/
def word (text : String) : Pattern :=
  concat [assert .wordEdge, literal text.toList, assert .wordEdge]

/-- The keyword of a kind of token. -/
def keyword : TokenKind → Pattern
  | .package => word "package"
  | .message => word "message"
  | .enum => word "enum"
  | .service => word "service"
  | .rpc => word "rpc"
  | _ => word "required"

/-- Characters that an identifier can start with. -/
def identifierStart : CharSet :=
  .anyOf [.interval 'A' 'Z', .interval 'a' 'z', .only '_']

/-- Characters that an identifier can go on with. -/
def identifierPart : CharSet :=
  .anyOf [.interval 'A' 'Z', .interval 'a' 'z', .interval '0' '9', .only '_']

/-- The letters of an identifier, wherever they stand. -/
def bareIdentifier : Pattern :=
  concat [one identifierStart, star true (one identifierPart)]

/-- An identifier at the start of a word. -/
def identifier : Pattern :=
  concat [assert .wordEdge, bareIdentifier]

/-- Identifiers joined by dots, at the start of a word. -/
def dottedIdentifier : Pattern :=
  concat [assert .wordEdge, bareIdentifier, star true (concat [char '.', bareIdentifier])]

/-- A map type. -/
def mapType : Pattern :=
  concat [assert .wordEdge, literal "map".toList, star true (one .blank), char '<',
    star true (one (CharSet.only '>').complement), char '>']

/-- A field type, or a cardinality in front of one. -/
def fieldTypeCandidate : Pattern :=
  firstOf [mapType, concat [opt true (char '.'), dottedIdentifier]]

/-- The words for how often a field occurs. -/
def cardinalities : List Text :=
  ["required".toList, "optional".toList, "repeated".toList]

/-- Words that start another declaration where a field type could stand. -/
def notFieldTypes : List Text :=
  ["group".toList, "message".toList, "enum".toList, "oneof".toList, "reserved".toList,
    "extensions".toList, "extend".toList, "option".toList, "required".toList,
    "optional".toList, "repeated".toList]

/-- Words that start another statement where an enum value could stand. -/
def notEnumValueNames : List Text :=
  ["option".toList, "reserved".toList]

end Vocabulary

end Pinpoint
