import Pinpoint.CharSet.Word

/-!
# Places in a text

A cursor stands between two characters of a text.  Patterns can ask what the
place looks like: whether a line or a word starts or ends there.
-/

namespace Pinpoint

/-- A place in a text: the byte column, the last character passed, and what
follows. -/
structure Cursor where
  column : Nat
  before : Option Char
  rest : Text
  deriving DecidableEq

namespace Cursor

/-- The start of a text. -/
def start (text : Text) : Cursor :=
  ⟨0, none, text⟩

/-- The characters between two cursors. -/
def upTo (first last : Cursor) : Text :=
  first.rest.take (first.rest.length - last.rest.length)

/-- The place after the next character, which is given with what follows. -/
def next (cursor : Cursor) (c : Char) (rest : Text) : Cursor :=
  ⟨cursor.column + c.utf8Size, some c, rest⟩

/-- The place after a text, if that text follows. -/
def skip? : Text → Cursor → Option Cursor
  | [], cursor => some cursor
  | c :: text, cursor =>
      match cursor.rest with
      | [] => none
      | d :: rest => if c = d then skip? text (cursor.next d rest) else none

end Cursor

/-- What a place has to be between two characters, as far as words go. -/
inductive WordEdge where
  | startOrStop
  | neither
  | start
  | stop
  /-- No word goes on before the place. -/
  | noneBefore
  /-- No word goes on after the place. -/
  | noneAfter
  deriving DecidableEq

/-- Whether an edge lies between characters of which some belong to words. -/
def WordEdge.holds : WordEdge → (before after : Bool) → Bool
  | startOrStop, before, after => before != after
  | neither, before, after => before == after
  | start, before, after => !before && after
  | stop, before, after => before && !after
  | noneBefore, before, _ => !before
  | noneAfter, _, after => !after

/-- A condition on a place in a text. -/
inductive Assertion where
  | textStart
  | textEnd
  | lineStart
  | lineEnd
  /-- The start of a line, where carriage returns end lines as well. -/
  | anyLineStart
  /-- The end of a line, where carriage returns end lines as well. -/
  | anyLineEnd
  | word (edge : WordEdge)
  | asciiWord (edge : WordEdge)
  deriving DecidableEq

namespace Assertion

/-- Whether an edge of the words over an alphabet lies at a cursor. -/
def atEdge (edge : WordEdge) (alphabet : CharSet) (cursor : Cursor) : Bool :=
  edge.holds (cursor.before.any alphabet.has) (cursor.rest.head?.any alphabet.has)

/-- Whether a condition holds at a cursor. -/
def holds : Assertion → Cursor → Bool
  | textStart, cursor => cursor.before.isNone
  | textEnd, cursor => cursor.rest.isEmpty
  | lineStart, cursor => cursor.before.all (· == '\n')
  | lineEnd, cursor => cursor.rest.head?.all (· == '\n')
  | anyLineStart, cursor =>
      cursor.before.all fun c =>
        c == '\n' || (c == '\r' && cursor.rest.head? != some '\n')
  | anyLineEnd, cursor =>
      cursor.rest.head?.all fun c =>
        c == '\r' || (c == '\n' && cursor.before != some '\r')
  | word edge, cursor => atEdge edge .word cursor
  | asciiWord edge, cursor => atEdge edge .asciiWord cursor

/-- The condition that a word starts or ends at the place. -/
def wordEdge : Assertion :=
  word .startOrStop

end Assertion

end Pinpoint
