import Pinpoint.Pattern.Program

/-!
# Occurrences of patterns

The matches of a pattern in a text, from left to right: each is the leftmost
one after the match before it, and among those that start there the preferred
one.  Matches without characters are passed over.
-/

namespace Pinpoint

namespace Pattern

/-- A text that a pattern matched, the byte column where it starts, and what
was captured. -/
structure Occurrence where
  start : Nat
  text : Text
  captures : List (String × Text)

namespace Occurrence

/-- Byte column just after an occurrence. -/
def stop (found : Occurrence) : Nat :=
  found.start + Text.width found.text

/-- The text last captured under a name. -/
def captured? (found : Occurrence) (name : String) : Option Text :=
  found.captures.lookup name

end Occurrence

/-- Occurrences from a cursor on.  Every step passes a character, so `steps`
needs to count the characters left only. -/
def occurrencesFrom (program : Program) : Nat → Cursor → List Occurrence
  | 0, _ => []
  | steps + 1, cursor =>
      match program.search cursor with
      | none => []
      | some (first, thread) =>
          if first.column < thread.cursor.column then
            ⟨first.column, first.upTo thread.cursor, thread.captures⟩ ::
              occurrencesFrom program steps thread.cursor
          else
            match first.rest with
            | [] => []
            | c :: rest => occurrencesFrom program steps (first.next c rest)

/-- The occurrences of a pattern in a text that are not empty, from left to
right and without overlap. -/
def occurrences (pattern : Pattern) (text : Text) : List Occurrence :=
  occurrencesFrom pattern.program text.length (Cursor.start text)

/-- The first occurrence of a pattern in a text that is not empty. -/
def firstOccurrence? (pattern : Pattern) (text : Text) : Option Occurrence :=
  (pattern.occurrences text).head?

end Pattern

end Pinpoint
