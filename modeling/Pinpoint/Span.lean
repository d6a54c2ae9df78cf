/-!
# Spans, positions and ranges

Places in a document: a span of columns on one line, a position, and a range
between two positions.  Lines and columns count from zero.
-/

namespace Pinpoint

/-- The columns from `start` up to, but not including, `stop`. -/
structure Span where
  start : Nat
  stop : Nat
  deriving DecidableEq

namespace Span

/-- Whether `inner` lies within `outer`. -/
def contains (outer inner : Span) : Bool :=
  outer.start ≤ inner.start && inner.stop ≤ outer.stop

/-- Whether `left` comes before `right`: by start, then by end. -/
def precedes (left right : Span) : Bool :=
  left.start < right.start ||
    (left.start == right.start && left.stop ≤ right.stop)

/-- The span as shown in messages. -/
def display (span : Span) : String :=
  s!"{span.start}..{span.stop}"

/-- Put a span in front of the first one that it precedes. -/
def insertSorted (span : Span) : List Span → List Span
  | [] => [span]
  | first :: rest =>
      if span.precedes first then span :: first :: rest
      else first :: insertSorted span rest

/-- Spans from left to right. -/
def sorted : List Span → List Span
  | [] => []
  | span :: rest => insertSorted span (sorted rest)

end Span

/-- A line and a column. -/
structure Position where
  line : Nat
  column : Nat
  deriving DecidableEq

namespace Position

/-- Document order: by line, then by column. -/
def atMost (left right : Position) : Bool :=
  left.line < right.line ||
    (left.line == right.line && left.column ≤ right.column)

/-- The position as shown in messages. -/
def display (position : Position) : String :=
  s!"{position.line}:{position.column}"

end Position

/-- The part of a document between two positions. -/
structure Range where
  start : Position
  stop : Position
  deriving DecidableEq

namespace Range

/-- A range within one line. -/
def onLine (line start stop : Nat) : Range :=
  ⟨⟨line, start⟩, ⟨line, stop⟩⟩

/-- Whether two ranges share a position; bordering ranges do. -/
def intersects (left right : Range) : Bool :=
  left.start.atMost right.stop && right.start.atMost left.stop

end Range

end Pinpoint
