/-!
# Kinds of tokens

What a piece of a protocol buffer definition is.  Keywords, comments, field
cardinalities and field types are met while looking for something else.
-/

namespace Pinpoint

/-- The kind of a token. -/
inductive TokenKind where
  | comment
  | package
  | packageName
  | message
  | messageName
  | enum
  | enumName
  | enumValueName
  | fieldCardinality
  | fieldType
  | fieldName
  | rpc
  | rpcName
  | service
  | serviceName
  | required
  deriving DecidableEq

namespace TokenKind

/-- All kinds. -/
def all : List TokenKind :=
  [comment, package, packageName, message, messageName, enum, enumName,
    enumValueName, fieldCardinality, fieldType, fieldName, rpc, rpcName,
    service, serviceName, required]

/-- The kind as named in messages. -/
def label : TokenKind → String
  | comment => "comment"
  | package => "package keyword"
  | packageName => "package name"
  | message => "message keyword"
  | messageName => "message name"
  | enum => "enum keyword"
  | enumName => "enum name"
  | enumValueName => "enum value name"
  | fieldCardinality => "field cardinality"
  | fieldType => "field type"
  | fieldName => "field name"
  | rpc => "rpc keyword"
  | rpcName => "rpc name"
  | service => "service keyword"
  | serviceName => "service name"
  | required => "required keyword"

/-- Every kind is listed. -/
theorem mem_all (kind : TokenKind) : kind ∈ all := by
  cases kind <;> decide

end TokenKind

end Pinpoint
