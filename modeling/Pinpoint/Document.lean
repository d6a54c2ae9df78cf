import Pinpoint.Line

/-!
# Documents

A document is addressed by line number.  An indexed text keeps the byte offset
of every line start, and converts between byte offsets and positions; a plain
text is split again for every line that is asked for.
-/

namespace Pinpoint

/-- Lines addressed by number. -/
structure LineSource where
  lineCount : Nat
  line? : Nat → Option Line

/-- A plain text as a document. -/
def Text.source (text : Text) : LineSource where
  lineCount := (Text.splitLines text).length
  line? number := (Text.splitLines text)[number]?.map (Line.ofRaw number)

/-- Place of a number in an ascending list: where it stands, or else where it
would have to be put in. -/
inductive Slot where
  | found (index : Nat)
  | missing (index : Nat)
  deriving DecidableEq

/-- Look a number up in an ascending list. -/
def Slot.of (value : Nat) (values : List Nat) : Slot :=
  let index := values.findIdx (value ≤ ·)
  if values[index]? = some value then found index else missing index

/-- A text with the byte offsets of its line starts. -/
structure IndexedText where
  text : Text
  lineStarts : List Nat
  deriving DecidableEq

namespace IndexedText

/-- Offsets just after the line feeds of a text that starts at `offset`. -/
def startsAfter (offset : Nat) : Text → List Nat
  | [] => []
  | c :: rest =>
      let next := offset + c.utf8Size
      if c = '\n' then next :: startsAfter next rest else startsAfter next rest

/-- Index a text. -/
def ofText (text : Text) : IndexedText :=
  ⟨text, 0 :: startsAfter 0 text⟩

/-- No text and no index: a document without lines. -/
def blank : IndexedText :=
  ⟨[], []⟩

/-- Number of bytes of the text. -/
def width (document : IndexedText) : Nat :=
  Text.width document.text

/-- A line with all but its line feed. -/
def rawLine? (document : IndexedText) (number : Nat) : Option Text :=
  match document.lineStarts[number]? with
  | none => none
  | some start =>
      let stop :=
        match document.lineStarts[number + 1]? with
        | some next => next - 1
        | none => document.width
      Text.between? start stop document.text

/-- A line by its number. -/
def line? (document : IndexedText) (number : Nat) : Option Line :=
  (document.rawLine? number).map (Line.ofRaw number)

/-- The lines of an indexed text. -/
def source (document : IndexedText) : LineSource where
  lineCount := document.lineStarts.length
  line? := document.line?

/-- Number of the line that an offset lies on: the line that starts there, or
else the last one that starts before. -/
def lineOf (document : IndexedText) (offset : Nat) : Nat :=
  match Slot.of offset document.lineStarts with
  | .found index => index
  | .missing index => index - 1

/-- Position of an offset; offsets past the end count as the end.  There is
none in a document without lines. -/
def positionAt? (document : IndexedText) (offset : Nat) : Option Position :=
  let clamped := min offset document.width
  let line := document.lineOf clamped
  (document.lineStarts[line]?).map fun start => ⟨line, clamped - start⟩

/-- Offset of a position; columns past the end of their line count as its end,
and lines past the end of the document as the end of the text. -/
def offsetAt (document : IndexedText) (position : Position) : Nat :=
  match document.line? position.line, document.lineStarts[position.line]? with
  | some line, some start => start + min position.column line.width
  | _, _ => document.width

end IndexedText

end Pinpoint
