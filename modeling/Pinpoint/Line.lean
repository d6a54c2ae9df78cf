import Pinpoint.Span
import Pinpoint.Text.Blank

/-!
# Lines, matches and tokens

A line is one row of a document without its line ending.  A match is a piece
of text found on a line; a token is a match that may still be open, as a block
comment is until its end is seen.
-/

namespace Pinpoint

/-- One row of a document. -/
structure Line where
  number : Nat
  text : Text
  deriving DecidableEq

namespace Line

/-- The line with the given text; a carriage return at its end is part of the
line ending and dropped. -/
def ofRaw (number : Nat) (raw : Text) : Line :=
  ⟨number, if raw.getLast? = some '\r' then raw.dropLast else raw⟩

/-- Number of bytes of a line. -/
def width (line : Line) : Nat :=
  Text.width line.text

/-- All columns of a line. -/
def span (line : Line) : Span :=
  ⟨0, line.width⟩

/-- The text that a span covers, as far as the line reaches; empty when an end
of the span falls inside a character. -/
def slice (line : Line) (span : Span) : Text :=
  let stop := min span.stop line.width
  (Text.between? (min span.start stop) stop line.text).getD []

/-- A column of a line as a position of the document. -/
def position (line : Line) (column : Nat) : Position :=
  ⟨line.number, column⟩

/-- Byte column of the character with the given number, or the end of the
line. -/
def byteColumn (line : Line) (charColumn : Nat) : Nat :=
  Text.width (line.text.take charColumn)

/-- Number of characters that start before a byte column. -/
def charColumn (line : Line) (byteColumn : Nat) : Nat :=
  (Text.startingBefore byteColumn line.text).length

/-- Number of UTF-16 code units of the characters that start before a byte
column. -/
def utf16Column (line : Line) (byteColumn : Nat) : Nat :=
  Text.units16 (Text.startingBefore byteColumn line.text)

/-- Column of the first character that is not blank, or the end of the line. -/
def firstNonBlank (line : Line) : Nat :=
  Text.blankWidth line.text

end Line

/-- A text found in a document.  For a comment over several lines, `text` is
its part on the last of them. -/
structure Match where
  text : Text
  start : Position
  stop : Position
  deriving DecidableEq

namespace Match

/-- The match of a span of a line. -/
def onLine (line : Line) (span : Span) : Match :=
  ⟨line.slice span, line.position span.start, line.position span.stop⟩

/-- Columns of a match that starts and ends on the same line. -/
def span? (found : Match) : Option Span :=
  if found.start.line = found.stop.line then
    some ⟨found.start.column, found.stop.column⟩
  else none

/-- The columns of a line that a match covers: what lies on earlier lines
collapses to the start of the line and what lies on later lines to its end. -/
def clampTo (found : Match) (line : Line) : Option Span :=
  if line.number < found.start.line ∨ found.stop.line < line.number then none
  else
    let start := if found.start.line < line.number then 0 else found.start.column
    let stop := if line.number < found.stop.line then line.width else found.stop.column
    some ⟨min start stop, stop⟩

end Match

/-- A match, and whether its end has been seen. -/
structure Token where
  found : Match
  closed : Bool
  deriving DecidableEq

end Pinpoint
