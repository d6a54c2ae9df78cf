import Pinpoint.Diagnostic

/-!
# Places as editors count them

Editors count columns in UTF-16 code units, and lines and columns in 32 bits;
larger numbers become the largest that fits.
-/

namespace Pinpoint

namespace Editor

/-- The largest number that fits into 32 bits. -/
def largest : Nat :=
  Nat.pow 2 32 - 1

/-- A line and a column in UTF-16 code units. -/
structure Place where
  line : Nat
  character : Nat
  deriving DecidableEq

/-- A range between two places. -/
structure Area where
  start : Place
  stop : Place
  deriving DecidableEq

/-- The place of a position of a document. -/
def Place.ofPosition (document : IndexedText) (position : Position) : Place :=
  let character :=
    match document.line? position.line with
    | some line => line.utf16Column position.column
    | none => position.column
  ⟨min position.line largest, min character largest⟩

/-- Document order: by line, then by column. -/
def Place.atMost (left right : Place) : Bool :=
  left.line < right.line ||
    (left.line == right.line && left.character ≤ right.character)

/-- The area of a range of a document. -/
def Area.ofRange (document : IndexedText) (range : Range) : Area :=
  ⟨.ofPosition document range.start, .ofPosition document range.stop⟩

/-- Whether two areas share a place; bordering areas do. -/
def Area.intersects (left right : Area) : Bool :=
  left.start.atMost right.stop && right.start.atMost left.stop

end Editor

end Pinpoint
