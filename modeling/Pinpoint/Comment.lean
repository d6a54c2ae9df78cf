import Pinpoint.Line

/-!
# Comments

Comments of a document, found line by line.  Between two lines it is only
known whether a block comment is open, and where it was opened.
-/

namespace Pinpoint

/-- Whether a block comment is open at a line boundary. -/
inductive CommentState where
  | closed
  | opened (position : Position)
  deriving DecidableEq

namespace Comment

/-- Where the text of a block comment starts on a line. -/
def bodyStart (line : Line) (opened : Position) : Nat :=
  if opened.line = line.number then opened.column else 0

/-- A comment from two slashes to the end of the line. -/
def toLineEnd (line : Line) (column : Nat) : Token :=
  ⟨Match.onLine line ⟨column, line.width⟩, true⟩

/-- The part of a block comment that stands on a line up to a column. -/
def block (line : Line) (opened : Position) (stop : Nat) (closed : Bool) : Token :=
  ⟨⟨line.slice ⟨bodyStart line opened, stop⟩, opened, line.position stop⟩, closed⟩

/-- The comments in the rest of a line from a column on, and the state at its
end. -/
def scanFrom (line : Line) : CommentState → Nat → Text → List Token × CommentState
  | .closed, column, '/' :: '/' :: _ => ([toLineEnd line column], .closed)
  | .closed, column, '/' :: '*' :: rest =>
      scanFrom line (.opened (line.position column)) (column + 2) rest
  | .closed, column, c :: rest => scanFrom line .closed (column + c.utf8Size) rest
  | .closed, _, [] => ([], .closed)
  | .opened position, column, '*' :: '/' :: rest =>
      let (comments, state) := scanFrom line .closed (column + 2) rest
      (block line position (column + 2) true :: comments, state)
  | .opened position, column, c :: rest =>
      scanFrom line (.opened position) (column + c.utf8Size) rest
  | .opened position, _, [] =>
      ([block line position line.width false], .opened position)

/-- The comments of a line that starts in a given state, from left to right,
and the state at its end. -/
def scan (line : Line) (state : CommentState) : List Token × CommentState :=
  scanFrom line state 0 line.text

end Comment

end Pinpoint
