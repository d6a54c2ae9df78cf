import Pinpoint.LetterCase
import Pinpoint.Lookup.Vocabulary
import Pinpoint.Pattern.Occurrence

/-!
# Rules of the linter

For every rule that is treated specially: which token its findings are about,
how the message names that token and what is expected, and which edit mends
it.
-/

namespace Pinpoint

/-- What a finding is about. -/
inductive Target where
  | token (kind : TokenKind)
  /-- The blanks at the start of the line. -/
  | indentation
  deriving DecidableEq

/-- The edit that mends a finding. -/
inductive FixKind where
  | nothing
  /-- Write the token in another case. -/
  | rename (letters : LetterCase)
  /-- Replace the token by what is expected. -/
  | renameToExpected
  /-- Put what is expected in front of the token. -/
  | prepend
  /-- Put what is expected after the token. -/
  | append
  /-- Take out the token and the blanks after it. -/
  | delete
  /-- Replace the blanks at the start of the line. -/
  | indent
  deriving DecidableEq

/-- What a message names: the token, and what is expected instead. -/
structure Captures where
  token : Option Text
  expected : Option Text
  deriving DecidableEq

/-- A rule of the linter. -/
structure Rule where
  name : String
  target : Target
  fix : FixKind
  message : Option Pattern

namespace Rule

open Pattern

/-- Any character but a quote. -/
def notQuote : CharSet :=
  (CharSet.only '"').complement

/-- A quoted text that is not empty. -/
def quotedText (name : String) : Pattern :=
  concat [char '"', capture name (plus true (one notQuote)), char '"']

/-- As little as possible of the rest of a line. -/
def littleOfLine : Pattern :=
  star false (one (CharSet.only '\n').complement)

/-- A quoted token, and later given words, each behind at least one blank of
whatever kind. -/
def tokenThen (words : String) (expected : Pattern) : Pattern :=
  concat [quotedText "token", littleOfLine, assert .wordEdge, literal words.toList,
    plus true (one .blank), expected]

/-- A message that names the token in quotes. -/
def namesToken : Pattern :=
  quotedText "token"

/-- A message that asks for a word in front of the token. -/
def asksForFront : Pattern :=
  tokenThen "prefix" (quotedText "expected")

/-- A message that asks for a word after the token. -/
def asksForEnd : Pattern :=
  tokenThen "suffix" (quotedText "expected")

/-- A message that gives the plural of the token. -/
def asksForPlural : Pattern :=
  tokenThen "pluralized name" (quotedText "expected")

/-- A message that gives the word, with or without quotes, that the token has
to end with. -/
def asksForLastWord : Pattern :=
  tokenThen "end with"
    (concat [opt true (char '"'), capture "expected" (plus true (one Vocabulary.identifierPart)),
      opt true (char '"')])

/-- A message that quotes the indentation, and often what it should be. -/
def quotesIndentation : Pattern :=
  concat [literal "incorrect indentation style \"".toList,
    capture "token" (star true (one notQuote)), char '"', opt true (char '.'),
    opt true (concat [star true (one .blank), char '"',
      capture "expected" (star true (one notQuote)), char '"'])]

/-- The rules that are treated specially. -/
def table : List Rule :=
  [⟨"ENUM_FIELD_NAMES_UPPER_SNAKE_CASE", .token .enumValueName, .rename .upperSnake,
      some namesToken⟩,
    ⟨"ENUM_FIELD_NAMES_PREFIX", .token .enumValueName, .prepend, some asksForFront⟩,
    ⟨"ENUM_FIELD_NAMES_ZERO_VALUE_END_WITH", .token .enumValueName, .append, some asksForEnd⟩,
    ⟨"ENUM_NAMES_UPPER_CAMEL_CASE", .token .enumName, .rename .upperCamel, some namesToken⟩,
    ⟨"MESSAGE_NAMES_UPPER_CAMEL_CASE", .token .messageName, .rename .upperCamel,
      some namesToken⟩,
    ⟨"RPC_NAMES_UPPER_CAMEL_CASE", .token .rpcName, .rename .upperCamel, some namesToken⟩,
    ⟨"SERVICE_NAMES_UPPER_CAMEL_CASE", .token .serviceName, .rename .upperCamel,
      some namesToken⟩,
    ⟨"SERVICE_NAMES_END_WITH", .token .serviceName, .append, some asksForLastWord⟩,
    ⟨"FIELD_NAMES_LOWER_SNAKE_CASE", .token .fieldName, .rename .lowerSnake, some namesToken⟩,
    ⟨"REPEATED_FIELD_NAMES_PLURALIZED", .token .fieldName, .renameToExpected,
      some asksForPlural⟩,
    ⟨"PACKAGE_NAME_LOWER_CASE", .token .packageName, .rename .lower, some namesToken⟩,
    ⟨"PROTO3_FIELDS_AVOID_REQUIRED", .token .required, .delete, none⟩,
    ⟨"FIELDS_HAVE_COMMENT", .token .fieldName, .nothing, some namesToken⟩,
    ⟨"MESSAGES_HAVE_COMMENT", .token .messageName, .nothing, some namesToken⟩,
    ⟨"ENUMS_HAVE_COMMENT", .token .enumName, .nothing, some namesToken⟩,
    ⟨"ENUM_FIELDS_HAVE_COMMENT", .token .enumValueName, .nothing, some namesToken⟩,
    ⟨"RPCS_HAVE_COMMENT", .token .rpcName, .nothing, some namesToken⟩,
    ⟨"SERVICES_HAVE_COMMENT", .token .serviceName, .nothing, some namesToken⟩,
    ⟨"INDENT", .indentation, .indent, some quotesIndentation⟩]

/-- The rule of a name. -/
def find? (name : Text) : Option Rule :=
  table.find? fun rule => rule.name.toList = name

/-- A text in which a backslash and a `t` stand for a tab. -/
def withTabs : Text → Text
  | [] => []
  | '\\' :: 't' :: rest => '\t' :: withTabs rest
  | c :: rest => c :: withTabs rest

/-- What a message of a rule names. -/
def readMessage (rule : Rule) (message : Text) : Captures :=
  match rule.message.bind (·.firstOccurrence? message) with
  | none => ⟨none, none⟩
  | some found =>
      ⟨(found.captured? "token").map withTabs, (found.captured? "expected").map withTabs⟩

end Rule

end Pinpoint
