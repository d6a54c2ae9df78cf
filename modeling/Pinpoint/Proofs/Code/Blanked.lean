import Pinpoint.Proofs.Code.Source

/-!
# Documents without their comments

A document is blanked from a line on: every byte of a comment, as the lexer finds them from
the start of that line, gives way to a blank.  The lexer finds no comments in what is left,
and all lines and columns stay as they were.
-/

namespace Pinpoint

namespace Lexer

/-- What a character gives way to: a blank for each byte of a comment, and otherwise itself. -/
def Mark.blanked (mark : Mark) : Text :=
  if mark.comment.isSome ∧ mark.char ≠ '\n' then List.replicate mark.char.utf8Size ' '
  else [mark.char]

/-- The text with its comments blanked. -/
def blank (mode : Mode) (place : Position) (text : Text) : Text :=
  (marks mode place text).flatMap Mark.blanked

@[simp]
theorem blank_nil (mode : Mode) (place : Position) : blank mode place [] = [] := by
  simp [blank]

theorem blanked_ne_nil (mark : Mark) : mark.blanked ≠ [] := by
  rw [Mark.blanked]
  split
  · have positive := Char.utf8Size_pos mark.char
    rw [ne_eq, List.replicate_eq_nil_iff]
    omega
  · simp

theorem blank_cons (mode : Mode) (place : Position) (c : Char) (rest : Text) :
    blank mode place (c :: rest) =
      Mark.blanked ⟨c, place, comment? mode place c rest.head?⟩ ++
        blank (step mode place c rest.head?) (place.next c) rest := by
  rw [blank, marks_cons, List.flatMap_cons]
  rfl

theorem after_blanks (position : Position) (count : Nat) :
    position.after (List.replicate count ' ') = ⟨position.line, position.column + count⟩ := by
  have clear : '\n' ∉ List.replicate count ' ' := by
    rw [List.mem_replicate]
    simp
  rw [Position.after_of_not_mem clear]
  have width : Text.width (List.replicate count ' ') = count := by
    induction count with
    | zero => rfl
    | succ count ih =>
        have fewer : '\n' ∉ List.replicate count ' ' := by
          rw [List.mem_replicate]
          simp
        have blankSize : ' '.utf8Size = 1 := rfl
        rw [List.replicate_succ, Text.width_cons, ih fewer, blankSize, Nat.add_comm]
  rw [width]

theorem after_blanked (mark : Mark) (position : Position) :
    position.after mark.blanked = position.next mark.char := by
  rw [Mark.blanked]
  split
  · rename_i isBlanked
    rw [after_blanks, Position.next_of_ne isBlanked.2]
  · rfl

/-- All places stay as they were. -/
theorem after_blank (mode : Mode) (place position : Position) (text : Text) :
    position.after (blank mode place text) = position.after text := by
  induction text generalizing mode place position with
  | nil => simp
  | cons c rest ih => rw [blank_cons, Position.after_append, after_blanked, ih, Position.after_cons]

theorem newline_not_mem_blank {text : Text} (clear : '\n' ∉ text) (mode : Mode)
    (place : Position) : '\n' ∉ blank mode place text := by
  induction text generalizing mode place with
  | nil => simp
  | cons c rest ih =>
      have other : '\n' ≠ c := fun newline => clear (newline ▸ List.mem_cons_self)
      have restClear : '\n' ∉ rest := fun later => clear (List.mem_cons_of_mem _ later)
      rw [blank_cons, List.mem_append, not_or]
      refine ⟨?_, ih restClear _ _⟩
      rw [Mark.blanked]
      split
      · rw [List.mem_replicate]
        simp
      · simpa using other

theorem width_blank {text : Text} (clear : '\n' ∉ text) (mode : Mode) (place : Position) :
    Text.width (blank mode place text) = Text.width text := by
  have same := after_blank mode place ⟨0, 0⟩ text
  rw [Position.after_of_not_mem clear,
    Position.after_of_not_mem (newline_not_mem_blank clear mode place)] at same
  simpa using congrArg Position.column same

/-- The lexer can be stopped before a line feed. -/
theorem blank_append_newline (mode : Mode) (place : Position) (left right : Text) :
    blank mode place (left ++ '\n' :: right) = blank mode place left ++ '\n' ::
      blank (step (modeAfter mode place left) (place.after left) '\n' none)
        ((place.after left).next '\n') right := by
  have newline : ∀ comment, Mark.blanked ⟨'\n', place.after left, comment⟩ = ['\n'] := by
    intro comment
    rw [Mark.blanked, if_neg (by simp)]
  have behind : ∀ mode upcoming, step mode (place.after left) '\n' upcoming =
      step mode (place.after left) '\n' none := by
    intro mode upcoming
    cases mode <;> simp [step]
  rw [blank, marks_append_cons (by decide) (by decide), List.flatMap_append, marks_cons,
    List.flatMap_cons, newline, behind]
  rfl

end Lexer

namespace Code

open Lexer

theorem codeMarks_append (place : Position) (left right : Text) :
    codeMarks place (left ++ right) =
      codeMarks place left ++ codeMarks (place.after left) right := by
  induction left generalizing place with
  | nil => rfl
  | cons c rest ih => simp [codeMarks, ih]

/-- Characters that are no slashes are code. -/
theorem marks_append_of_clear {left : Text} (clear : '/' ∉ left) (place : Position)
    (right : Text) :
    marks .code place (left ++ right) =
      codeMarks place left ++ marks .code (place.after left) right := by
  induction left generalizing place with
  | nil => rfl
  | cons c rest ih =>
      have noSlash : c ≠ '/' := fun slash => clear (by simp [slash])
      have restClear : '/' ∉ rest := fun later => clear (List.mem_cons_of_mem _ later)
      have plain : Plain c (rest ++ right) := fun both => noSlash both.1
      rw [List.cons_append, marks_plain plain, ih restClear]
      rfl

/-- A character that is left of a text belongs to no comment, or it is a line feed. -/
theorem blanked_cases (mode : Mode) (place : Position) (c : Char) (rest : Text) :
    '/' ∉ Mark.blanked ⟨c, place, comment? mode place c rest.head?⟩ ∨
      c = '/' ∧ mode = .code ∧ Plain c rest := by
  rw [Mark.blanked]
  split
  · left
    rw [List.mem_replicate]
    simp
  · rename_i kept
    by_cases slash : c = '/'
    · subst slash
      right
      have noComment : comment? mode place '/' rest.head? = none := by
        simpa using kept
      cases mode with
      | code =>
          refine ⟨rfl, rfl, fun opens => ?_⟩
          rw [comment?, if_pos opens] at noComment
          simp at noComment
      | _ => simp [comment?] at noComment
    · exact Or.inl (by simpa using Ne.symm slash)

/-- What is left where a slash is code does not start with a sign that opens a comment. -/
theorem head?_blank_ne {place : Position} {rest : Text} (plain : Plain '/' rest) :
    (blank .code place rest).head? ≠ some '/' ∧ (blank .code place rest).head? ≠ some '*' := by
  cases rest with
  | nil => simp
  | cons d rest =>
      have noSlash : d ≠ '/' := fun slash => plain ⟨rfl, Or.inl (by rw [slash]; rfl)⟩
      have noStar : d ≠ '*' := fun star => plain ⟨rfl, Or.inr (by rw [star]; rfl)⟩
      have keeps : comment? .code place d rest.head? = none := if_neg fun opens => noSlash opens.1
      rw [blank_cons, keeps, Mark.blanked, if_neg (by simp)]
      simpa using ⟨noSlash, noStar⟩

/-- The lexer finds no comments in a text whose comments are blanked. -/
theorem marks_blank (mode : Mode) (place : Position) (text : Text) :
    marks .code place (blank mode place text) = codeMarks place (blank mode place text) := by
  -- A slash is left only where it is code, and then no slash or star is left behind it.
  induction text generalizing mode place with
  | nil => simp [codeMarks]
  | cons c rest ih =>
      rcases blanked_cases mode place c rest with clear | ⟨rfl, rfl, plain⟩
      · rw [blank_cons, marks_append_of_clear clear, codeMarks_append, after_blanked, ih]
      · obtain ⟨stays, noComment⟩ := step_plain plain place
        have kept : Mark.blanked ⟨'/', place, none⟩ = ['/'] := rfl
        rw [blank_cons, noComment, kept, stays, List.singleton_append]
        have ahead : (blank .code (place.next '/') rest).head? ≠ some '/' ∧
            (blank .code (place.next '/') rest).head? ≠ some '*' := head?_blank_ne plain
        obtain ⟨noSlash, noStar⟩ := ahead
        have stillPlain : Plain '/' (blank .code (place.next '/') rest) := by
          rintro ⟨-, slash | star⟩
          · exact noSlash slash
          · exact noStar star
        rw [marks_plain stillPlain, ih]
        rfl

end Code

/-! ### Documents -/

namespace LineSource

open Lexer

/-- Raw lines, numbered from `number` on, with their comments blanked.  The lexer reads them
without their line endings, which stay as they are. -/
def blankLines : Mode → Nat → List Text → List Text
  | _, _, [] => []
  | mode, number, raw :: others =>
      let row := rowOf raw
      (blank mode ⟨number, 0⟩ row ++ raw.drop row.length) ::
        blankLines (step (modeAfter mode ⟨number, 0⟩ row) ⟨number, Text.width row⟩ '\n' none)
          (number + 1) others

theorem getLast?_blank {mode : Mode} {place : Position} {text : Text}
    (isReturn : (blank mode place text).getLast? = some '\r') : text.getLast? = some '\r' := by
  induction text generalizing mode place with
  | nil => simp at isReturn
  | cons c rest ih =>
      rw [blank_cons, List.getLast?_append] at isReturn
      cases later : (blank (step mode place c rest.head?) (place.next c) rest).getLast? with
      | some d =>
          rw [later, Option.some_or] at isReturn
          have behind := ih (later.trans isReturn)
          rw [List.getLast?_cons, behind]
          rfl
      | none =>
          rw [later, Option.none_or] at isReturn
          have noRest : rest = [] := by
            cases rest with
            | nil => rfl
            | cons d rest =>
                rw [List.getLast?_eq_none_iff, blank_cons, List.append_eq_nil_iff] at later
                exact absurd later.1 (blanked_ne_nil _)
          rw [Mark.blanked] at isReturn
          split at isReturn
          · rw [List.getLast?_replicate] at isReturn
            split at isReturn <;> simp at isReturn
          · rw [noRest]
            exact isReturn

theorem rowOf_append_return (row : Text) : rowOf (row ++ ['\r']) = row := by
  simp [rowOf, Line.ofRaw]

theorem rowOf_of_ne {raw : Text} (noReturn : raw.getLast? ≠ some '\r') : rowOf raw = raw := by
  rw [rowOf, Line.ofRaw, if_neg noReturn]

/-- A line that is blanked loses its line ending as it did before. -/
theorem rowOf_blanked (mode : Mode) (place : Position) (raw : Text) :
    rowOf (blank mode place (rowOf raw) ++ raw.drop (rowOf raw).length) =
      blank mode place (rowOf raw) := by
  by_cases returns : raw.getLast? = some '\r'
  · have rawEq := (List.dropLast_append_getLast? _ returns).symm
    have rowEq : rowOf raw = raw.dropLast := by rw [rowOf, Line.ofRaw, if_pos returns]
    rw [rowEq]
    generalize raw.dropLast = row at rawEq
    rw [rawEq, List.drop_left, rowOf_append_return]
  · -- Blanking does not bring a carriage return to the end of a row.
    rw [rowOf_of_ne returns, List.drop_length, List.append_nil]
    exact rowOf_of_ne fun isReturn => returns (getLast?_blank isReturn)

theorem length_blankLines (mode : Mode) (number : Nat) (raws : List Text) :
    (blankLines mode number raws).length = raws.length := by
  induction raws generalizing mode number with
  | nil => rfl
  | cons raw others ih => rw [blankLines, List.length_cons, ih, List.length_cons]

theorem newline_not_mem_blankLines {raws : List Text} (clear : ∀ raw ∈ raws, '\n' ∉ raw)
    (mode : Mode) (number : Nat) : ∀ line ∈ blankLines mode number raws, '\n' ∉ line := by
  induction raws generalizing mode number with
  | nil => simp [blankLines]
  | cons raw others ih =>
      have rawClear := clear raw List.mem_cons_self
      intro line member
      rcases List.mem_cons.mp member with rfl | later
      · rw [List.mem_append, not_or]
        exact ⟨newline_not_mem_blank (newline_not_mem_rowOf rawClear) _ _,
          fun inEnding => rawClear (List.mem_of_mem_drop inEnding)⟩
      · exact ih (fun other otherMember => clear other (List.mem_cons_of_mem _ otherMember)) _ _
          line later

/-- The rows of lines that are blanked, joined, are the joined rows with their comments
blanked. -/
theorem joinLines_blankLines {raws : List Text} (clear : ∀ raw ∈ raws, '\n' ∉ raw)
    (mode : Mode) (number : Nat) :
    Text.joinLines ((blankLines mode number raws).map rowOf) =
      blank mode ⟨number, 0⟩ (Text.joinLines (raws.map rowOf)) := by
  induction raws generalizing mode number with
  | nil => simp [blankLines]
  | cons raw others ih =>
      have rowClear := newline_not_mem_rowOf (clear raw List.mem_cons_self)
      have later := ih fun other member => clear other (List.mem_cons_of_mem _ member)
      cases others with
      | nil =>
          rw [blankLines, blankLines, List.map_singleton, List.map_singleton, rowOf_blanked,
            Text.joinLines_singleton, Text.joinLines_singleton]
      | cons next others =>
          have placeEq : (⟨number, 0⟩ : Position).after (rowOf raw) =
              ⟨number, Text.width (rowOf raw)⟩ := by
            rw [Position.after_of_not_mem rowClear, Nat.zero_add]
          have nextEq : (⟨number, Text.width (rowOf raw)⟩ : Position).next '\n' =
              ⟨number + 1, 0⟩ := rfl
          rw [List.map_cons, List.map_cons, Text.joinLines_cons_cons, blank_append_newline, placeEq,
            nextEq, ← List.map_cons, ← later]
          rw [blankLines, List.map_cons, rowOf_blanked, blankLines, List.map_cons,
            Text.joinLines_cons_cons]

end LineSource

/-- The text with the comments blanked that the lexer finds from the start of a line on. -/
def Text.blankedFrom (first : Nat) (text : Text) : Text :=
  joinLines ((splitLines text).take first ++
    LineSource.blankLines .code first ((splitLines text).drop first))

theorem Text.splitLines_joinLines {lines : List Text} (nonempty : lines ≠ [])
    (clear : ∀ line ∈ lines, '\n' ∉ line) : splitLines (joinLines lines) = lines := by
  rw [splitLines_eq_splitOn, joinLines, List.splitOn_intercalate]
  · exact clear
  · exact nonempty

theorem Text.splitLines_blankedFrom (first : Nat) (text : Text) :
    splitLines (blankedFrom first text) = (splitLines text).take first ++
      LineSource.blankLines .code first ((splitLines text).drop first) := by
  have clear : ∀ line ∈ splitLines text, '\n' ∉ line :=
    fun line member => newline_not_mem_of_mem_splitLines member
  refine splitLines_joinLines ?_ ?_
  · have positive := List.length_pos_iff.mpr (splitLines_ne_nil text)
    rw [← List.length_pos_iff, List.length_append, LineSource.length_blankLines,
      List.length_take, List.length_drop]
    omega
  · intro line member
    rcases List.mem_append.mp member with front | behind
    · exact clear line (List.mem_of_mem_take front)
    · exact LineSource.newline_not_mem_blankLines
        (fun raw rawMember => clear raw (List.mem_of_mem_drop rawMember)) _ _ line behind

namespace LineSource

open Lexer

variable {text : Text} {document blanked : LineSource} {first : Nat}

theorem rowsOf_blankedFrom (first : Nat) (text : Text) :
    (rowsOf (Text.blankedFrom first text)).drop first =
      (blankLines .code first ((Text.splitLines text).drop first)).map rowOf := by
  rw [rowsOf, Text.splitLines_blankedFrom, ← List.map_drop]
  rcases Nat.lt_or_ge first (Text.splitLines text).length with within | beyond
  · rw [List.drop_left' (List.length_take_of_le (Nat.le_of_lt within))]
  · rw [List.drop_eq_nil_of_le beyond, blankLines, List.append_nil, List.drop_take_self]

/-- The characters of the lines from a number on, as the lexer reads them. -/
def marksFrom (first : Nat) (text : Text) : List Mark :=
  marks .code ⟨first, 0⟩ (Text.joinLines ((rowsOf text).drop first))

theorem codeFrom_of_isOf (isOf : document.IsOf text) (first : Nat) :
    document.codeFrom first = Code.windows (marksFrom first text) :=
  (isOf.rows first).codeFrom_eq

theorem codeFrom_blanked (isBlanked : blanked.IsOf (Text.blankedFrom first text)) :
    blanked.codeFrom first = Code.windows (Code.codeMarks ⟨first, 0⟩
      (blank .code ⟨first, 0⟩ (Text.joinLines ((rowsOf text).drop first)))) := by
  have clear : ∀ raw ∈ (Text.splitLines text).drop first, '\n' ∉ raw :=
    fun raw member => Text.newline_not_mem_of_mem_splitLines (List.mem_of_mem_drop member)
  rw [codeFrom_of_isOf isBlanked, marksFrom, rowsOf_blankedFrom, joinLines_blankLines clear,
    Code.marks_blank, rowsOf, List.map_drop]

theorem lineCount_blanked (isOf : document.IsOf text)
    (isBlanked : blanked.IsOf (Text.blankedFrom first text)) :
    blanked.lineCount = document.lineCount := by
  rw [isOf.eq_source, isBlanked.eq_source]
  change (Text.splitLines (Text.blankedFrom first text)).length = (Text.splitLines text).length
  rw [Text.splitLines_blankedFrom, List.length_append, length_blankLines, List.length_take,
    List.length_drop]
  omega

theorem line?_blanked (isOf : document.IsOf text)
    (isBlanked : blanked.IsOf (Text.blankedFrom first text)) {line : Line}
    (lineAt : document.line? first = some line) :
    ∃ other, blanked.line? first = some other ∧ other.width = line.width := by
  have rowAt := (isOf.rows first).line?_eq 0
  have otherAt := (isBlanked.rows first).line?_eq 0
  rw [Nat.add_zero, lineAt, rowsOf, ← List.map_drop] at rowAt
  rw [Nat.add_zero, rowsOf_blankedFrom] at otherAt
  have clear : ∀ raw ∈ (Text.splitLines text).drop first, '\n' ∉ raw :=
    fun raw member => Text.newline_not_mem_of_mem_splitLines (List.mem_of_mem_drop member)
  generalize (Text.splitLines text).drop first = raws at rowAt otherAt clear
  cases raws with
  | nil => simp at rowAt
  | cons raw others =>
      obtain rfl : line = ⟨first, rowOf raw⟩ := by simpa using rowAt
      refine ⟨_, otherAt, ?_⟩
      have rowClear := newline_not_mem_rowOf (clear raw List.mem_cons_self)
      simp only [Line.width, rowOf_blanked]
      exact Lexer.width_blank rowClear _ _

end LineSource

end Pinpoint
