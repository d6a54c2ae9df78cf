import Pinpoint.Document
import Pinpoint.Proofs.Text.Columns
import Pinpoint.Proofs.Text.Pieces

/-!
# Rows of a document

A text and its index describe the same rows.  The rows are the pieces between
line feeds, so joining them again gives the text back, and the table of line
starts cuts out exactly these pieces.
-/

namespace Pinpoint

namespace Text

/-- Texts joined by line feeds. -/
def joinLines (lines : List Text) : Text :=
  ['\n'].intercalate lines

@[simp]
theorem joinLines_nil : joinLines [] = [] := rfl

@[simp]
theorem joinLines_singleton (line : Text) : joinLines [line] = line :=
  List.intercalate_singleton

@[simp]
theorem joinLines_cons_cons (line next : Text) (others : List Text) :
    joinLines (line :: next :: others) = line ++ '\n' :: joinLines (next :: others) := by
  simp [joinLines, List.intercalate_cons_cons]

theorem splitLines_cons_newline (rest : Text) :
    splitLines ('\n' :: rest) = [] :: splitLines rest := by
  rw [splitLines]
  cases rows : splitLines rest with
  | nil => exact absurd rows (splitLines_ne_nil rest)
  | cons first others => simp

theorem splitLines_cons_of_ne {c : Char} (other : c ≠ '\n') (rest : Text) :
    splitLines (c :: rest) = (splitLines rest).modifyHead (c :: ·) := by
  rw [splitLines]
  cases rows : splitLines rest with
  | nil => exact absurd rows (splitLines_ne_nil rest)
  | cons first others => simp [other]

theorem length_splitLines (text : Text) : (splitLines text).length = text.count '\n' + 1 := by
  induction text with
  | nil => rfl
  | cons c rest ih =>
      by_cases newline : c = '\n'
      · subst newline
        rw [splitLines_cons_newline, List.length_cons, ih, List.count_cons_self]
      · rw [splitLines_cons_of_ne newline, List.length_modifyHead, ih,
          List.count_cons_of_ne newline]

theorem splitLines_eq_splitOn (text : Text) : splitLines text = text.splitOn '\n' := by
  induction text with
  | nil => rfl
  | cons c rest ih =>
      rw [List.splitOn_cons_eq_if_modifyHead, ← ih]
      by_cases newline : c = '\n'
      · subst newline
        rw [splitLines_cons_newline, if_pos (by simp)]
      · rw [splitLines_cons_of_ne newline, if_neg (by simpa using newline)]

@[simp]
theorem joinLines_splitLines (text : Text) : joinLines (splitLines text) = text := by
  rw [splitLines_eq_splitOn, joinLines, List.intercalate_splitOn]

theorem newline_not_mem_of_mem_splitLines {line text : Text}
    (member : line ∈ splitLines text) : '\n' ∉ line := by
  rw [splitLines_eq_splitOn] at member
  exact not_mem_of_mem_splitOn member

/-- A text from the start of a line on. -/
def fromLine : Nat → Text → Text
  | 0, text => text
  | _ + 1, [] => []
  | number + 1, c :: rest =>
      if c = '\n' then fromLine number rest else fromLine (number + 1) rest

/-- The lines of a text before a number, with their line feeds. -/
def upToLine : Nat → Text → Text
  | 0, _ => []
  | _ + 1, [] => []
  | number + 1, c :: rest =>
      if c = '\n' then c :: upToLine number rest else c :: upToLine (number + 1) rest

theorem upToLine_append_fromLine (number : Nat) (text : Text) :
    upToLine number text ++ fromLine number text = text := by
  induction text generalizing number with
  | nil => cases number <;> rfl
  | cons c rest ih =>
      cases number with
      | zero => rfl
      | succ number =>
          rw [upToLine, fromLine]
          split
          · rw [List.cons_append, ih]
          · rw [List.cons_append, ih]

/-- The text from a line on holds the lines from there on. -/
theorem fromLine_eq_joinLines {text : Text} {number : Nat}
    (within : number < (splitLines text).length) :
    fromLine number text = joinLines ((splitLines text).drop number) := by
  induction text generalizing number with
  | nil =>
      obtain rfl : number = 0 := by
        simp [splitLines] at within
        omega
      rfl
  | cons c rest ih =>
      cases number with
      | zero => rw [fromLine, List.drop_zero, joinLines_splitLines]
      | succ number =>
          by_cases newline : c = '\n'
          · subst newline
            rw [splitLines_cons_newline] at within ⊢
            rw [fromLine, if_pos rfl, List.drop_succ_cons]
            exact ih (Nat.lt_of_succ_lt_succ within)
          · rw [splitLines_cons_of_ne newline] at within ⊢
            rw [fromLine, if_neg newline, List.drop_modifyHead_of_pos (Nat.succ_pos number)]
            exact ih (by simpa using within)

end Text

namespace IndexedText

/-- The row that a table of line starts cuts out of a text. -/
def cutRow (text : Text) (starts : List Nat) (number : Nat) : Option Text :=
  starts[number]?.bind fun start =>
    Text.between? start ((starts[number + 1]?.map (· - 1)).getD (Text.width text)) text

theorem rawLine?_eq_cutRow (document : IndexedText) (number : Nat) :
    document.rawLine? number = cutRow document.text document.lineStarts number := by
  unfold rawLine? cutRow width
  cases document.lineStarts[number]? with
  | none => rfl
  | some start => cases document.lineStarts[number + 1]? <;> rfl

theorem cutRow_cons_succ (text : Text) (start : Nat) (starts : List Nat) (number : Nat) :
    cutRow text (start :: starts) (number + 1) = cutRow text starts number := by
  simp [cutRow]

/-- The rows cut out of the part of a text that follows `before` are the lines of
that part. -/
theorem cutRow_startsAfter (before rest : Text) (number : Nat) :
    cutRow (before ++ rest)
        (Text.width before :: startsAfter (Text.width before) rest) number =
      (Text.splitLines rest)[number]? := by
  induction rest generalizing before number with
  | nil =>
      cases number with
      | zero =>
          simpa [cutRow, startsAfter, Text.splitLines] using
            Text.between?_append before [] [] rfl (by simp)
      | succ number => simp [cutRow, startsAfter, Text.splitLines]
  | cons c rest ih =>
      have tail := ih (before ++ [c])
      simp only [Text.width_append, Text.width_cons, Text.width_nil, Nat.add_zero,
        List.append_assoc, List.cons_append, List.nil_append] at tail
      by_cases newline : c = '\n'
      · subst newline
        rw [Text.splitLines_cons_newline]
        cases number with
        | zero =>
            have stopEq : Text.width before + '\n'.utf8Size - 1 =
                Text.width before + Text.width [] := rfl
            simpa [cutRow, startsAfter] using
              Text.between?_append before [] ('\n' :: rest) rfl stopEq
        | succ number =>
            rw [List.getElem?_cons_succ, ← tail number]
            simp [cutRow, startsAfter]
      · rw [Text.splitLines_cons_of_ne newline]
        cases number with
        | zero =>
            -- The first row starts one character earlier and ends where it did.
            cases rows : Text.splitLines rest with
            | nil => exact absurd rows (Text.splitLines_ne_nil rest)
            | cons first others =>
                have cut := tail 0
                simp only [rows, cutRow, List.getElem?_cons_zero, List.getElem?_cons_succ,
                  Option.bind_some, Nat.zero_add] at cut
                simp only [startsAfter, if_neg newline, cutRow, List.getElem?_cons_zero,
                  List.getElem?_cons_succ, Option.bind_some, Nat.zero_add,
                  List.modifyHead_cons]
                exact Text.between?_cons cut
        | succ number =>
            have later := tail (number + 1)
            rw [cutRow_cons_succ] at later ⊢
            rw [startsAfter, if_neg newline, later]
            cases Text.splitLines rest <;> simp

theorem rawLine?_ofText (text : Text) (number : Nat) :
    (ofText text).rawLine? number = (Text.splitLines text)[number]? := by
  rw [rawLine?_eq_cutRow]
  exact cutRow_startsAfter [] text number

theorem length_startsAfter (offset : Nat) (text : Text) :
    (startsAfter offset text).length + 1 = (Text.splitLines text).length := by
  induction text generalizing offset with
  | nil => rfl
  | cons c rest ih =>
      by_cases newline : c = '\n'
      · subst newline
        rw [Text.splitLines_cons_newline, List.length_cons,
          ← ih (offset + '\n'.utf8Size)]
        rfl
      · rw [Text.splitLines_cons_of_ne newline, List.length_modifyHead,
          ← ih (offset + c.utf8Size), startsAfter, if_neg newline]

/-- A line starts behind the lines before it. -/
theorem getElem?_startsAfter {text : Text} {number : Nat}
    (within : number < (Text.splitLines text).length) (offset : Nat) :
    (offset :: startsAfter offset text)[number]? =
      some (offset + Text.width (Text.upToLine number text)) := by
  induction text generalizing number offset with
  | nil =>
      obtain rfl : number = 0 := by
        simp [Text.splitLines] at within
        omega
      rfl
  | cons c rest ih =>
      cases number with
      | zero => rfl
      | succ number =>
          by_cases newline : c = '\n'
          · subst newline
            rw [Text.splitLines_cons_newline, List.length_cons] at within
            rw [startsAfter, if_pos rfl, List.getElem?_cons_succ, Text.upToLine, if_pos rfl,
              ih (Nat.lt_of_succ_lt_succ within), Text.width_cons, Nat.add_assoc]
          · rw [Text.splitLines_cons_of_ne newline, List.length_modifyHead] at within
            have later := ih within (offset + c.utf8Size)
            rw [List.getElem?_cons_succ] at later
            rw [startsAfter, if_neg newline, List.getElem?_cons_succ, later, Text.upToLine,
              if_neg newline, Text.width_cons, Nat.add_assoc]

theorem lineCount_ofText (text : Text) :
    (ofText text).source.lineCount = (Text.splitLines text).length :=
  length_startsAfter 0 text

theorem line?_ofText (text : Text) (number : Nat) :
    (ofText text).line? number = (Text.splitLines text)[number]?.map (Line.ofRaw number) := by
  rw [line?, rawLine?_ofText]

/-- An indexed text is the same document as the plain text. -/
theorem source_ofText (text : Text) : (ofText text).source = text.source := by
  have count : (ofText text).lineStarts.length = (Text.splitLines text).length :=
    lineCount_ofText text
  rw [source, Text.source, count, funext (line?_ofText text)]

end IndexedText

end Pinpoint
