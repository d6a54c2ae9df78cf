/-!
# Texts and byte columns

A text is the list of its characters.  Columns count UTF-8 bytes, so a column
may fall inside a character; the cutting operations below refuse such columns.
-/

namespace Pinpoint

/-- A text, as the list of its characters. -/
abbrev Text := List Char

namespace Text

/-- Number of UTF-8 bytes of a text. -/
def width : Text → Nat
  | [] => 0
  | c :: rest => c.utf8Size + width rest

/-- Number of UTF-16 code units of a character. -/
def units16OfChar (c : Char) : Nat :=
  if c.toNat < 0x10000 then 1 else 2

/-- Number of UTF-16 code units of a text. -/
def units16 : Text → Nat
  | [] => 0
  | c :: rest => units16OfChar c + units16 rest

/-- What follows the first `bytes` bytes, unless the cut falls inside a
character or past the end. -/
def dropBytes? : Nat → Text → Option Text
  | 0, text => some text
  | _ + 1, [] => none
  | bytes + 1, c :: rest =>
      if c.utf8Size ≤ bytes + 1 then dropBytes? (bytes + 1 - c.utf8Size) rest
      else none

/-- The first `bytes` bytes, unless the cut falls inside a character or past
the end. -/
def takeBytes? : Nat → Text → Option Text
  | 0, _ => some []
  | _ + 1, [] => none
  | bytes + 1, c :: rest =>
      if c.utf8Size ≤ bytes + 1 then
        (takeBytes? (bytes + 1 - c.utf8Size) rest).map (c :: ·)
      else none

/-- The bytes from column `start` to column `stop`, unless one of the two
columns falls inside a character or past the end, or they are reversed. -/
def between? (start stop : Nat) (text : Text) : Option Text :=
  if start ≤ stop then
    (dropBytes? start text).bind (takeBytes? (stop - start))
  else none

/-- The characters that start before column `column`. -/
def startingBefore : Nat → Text → Text
  | _, [] => []
  | column, c :: rest =>
      if column = 0 then []
      else c :: startingBefore (column - c.utf8Size) rest

/-- Whether `column` is the start of a character of the text, or its end. -/
def IsBoundary (column : Nat) (text : Text) : Prop :=
  (dropBytes? column text).isSome

/-- The lines of a text: the pieces between line feeds. -/
def splitLines : Text → List Text
  | [] => [[]]
  | c :: rest =>
      match splitLines rest with
      | [] => [[c]]
      | first :: others =>
          if c = '\n' then [] :: first :: others else (c :: first) :: others

@[simp]
theorem width_nil : width [] = 0 := rfl

@[simp]
theorem width_cons (c : Char) (rest : Text) :
    width (c :: rest) = c.utf8Size + width rest := rfl

/-- Widths add up over concatenation. -/
@[simp]
theorem width_append (left right : Text) :
    width (left ++ right) = width left + width right := by
  induction left with
  | nil => simp
  | cons c rest ih => simp [ih, Nat.add_assoc]

/-- A text always has a first line. -/
theorem splitLines_ne_nil (text : Text) : splitLines text ≠ [] := by
  cases text with
  | nil => simp [splitLines]
  | cons c rest =>
      simp only [splitLines]
      split
      · simp
      · split <;> simp

end Text

end Pinpoint
