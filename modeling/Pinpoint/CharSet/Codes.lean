import Pinpoint.CharSet
import Pinpoint.Text.Digit

/-!
# Written sets of characters

The tables of character properties list code points in hexadecimal, with
blanks between them: single ones, intervals such as 41-5A, and intervals such
as 100-12E/2 of which every second code point counts.
-/

namespace Pinpoint

namespace CharSet

/-- The pieces of a text between the marks. -/
def piecesAt (isMark : Char → Bool) : Text → List Text
  | [] => [[]]
  | c :: rest =>
      match piecesAt isMark rest with
      | [] => [[c]]
      | first :: others =>
          if isMark c then [] :: first :: others else (c :: first) :: others

/-- A code point in hexadecimal. -/
def codeOf (digits : Text) : Nat :=
  (Text.hexNumber? digits).getD 0

/-- The intervals of one entry of a list of code points. -/
def intervalsOf (entry : Text) : List (Nat × Nat) :=
  match piecesAt (· == '/') entry with
  | [range, _] =>
      match piecesAt (· == '-') range with
      | [first, last] =>
          let start := codeOf first
          (List.range ((codeOf last - start) / 2 + 1)).map fun k =>
            (start + 2 * k, start + 2 * k)
      | _ => []
  | _ =>
      match piecesAt (· == '-') entry with
      | [first, last] => [(codeOf first, codeOf last)]
      | _ => [(codeOf entry, codeOf entry)]

/-- The entries of a list, between blanks. -/
def entriesOf (codes : String) : List Text :=
  (piecesAt (fun c => c == ' ' || c == '\n') codes.toList).filter (!·.isEmpty)

/-- The set of a list of code points. -/
def ofCodes (codes : String) : CharSet :=
  ofIntervals ((entriesOf codes).flatMap intervalsOf)

/-- The set that a table lists under a name. -/
def inTable? (table : List (List String × String)) (name : String) : Option CharSet :=
  (table.find? fun entry => entry.1.contains name).map fun entry => ofCodes entry.2

end CharSet

end Pinpoint
