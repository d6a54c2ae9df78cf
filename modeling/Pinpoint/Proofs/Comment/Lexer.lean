import Pinpoint.Line
import Pinpoint.Proofs.Document.Rows

/-!
# A lexer for comments

A lexer that passes over a whole text one character at a time and says of each
character which comment it belongs to, if any.  It knows nothing of lines but
that a line feed ends a comment with two slashes.  It is the reference to which
the scanner that works line by line is compared.
-/

namespace Pinpoint

namespace Position

/-- The position after a character. -/
def next (position : Position) (c : Char) : Position :=
  if c = '\n' then ⟨position.line + 1, 0⟩
  else ⟨position.line, position.column + c.utf8Size⟩

/-- The position after a text. -/
def after (position : Position) (text : Text) : Position :=
  text.foldl next position

@[simp]
theorem after_nil (position : Position) : position.after [] = position := rfl

@[simp]
theorem after_cons (position : Position) (c : Char) (rest : Text) :
    position.after (c :: rest) = (position.next c).after rest := rfl

@[simp]
theorem after_append (position : Position) (left right : Text) :
    position.after (left ++ right) = (position.after left).after right := by
  rw [after, after, after, List.foldl_append]

theorem next_of_ne {c : Char} (other : c ≠ '\n') (position : Position) :
    position.next c = ⟨position.line, position.column + c.utf8Size⟩ := by
  rw [next, if_neg other]

theorem after_of_not_mem {text : Text} (clear : '\n' ∉ text) (position : Position) :
    position.after text = ⟨position.line, position.column + Text.width text⟩ := by
  induction text generalizing position with
  | nil => rfl
  | cons c rest ih =>
      have other : c ≠ '\n' := fun newline => clear (by simp [newline])
      have restClear : '\n' ∉ rest := fun member => clear (by simp [member])
      rw [after_cons, ih restClear, next_of_ne other, Text.width_cons, Nat.add_assoc]

theorem atMost_iff {left right : Position} :
    left.atMost right = true ↔
      left.line < right.line ∨ left.line = right.line ∧ left.column ≤ right.column := by
  simp [atMost]

theorem atMost_refl (position : Position) : position.atMost position = true := by
  rw [atMost_iff]
  exact Or.inr ⟨rfl, Nat.le_refl _⟩

theorem atMost_trans {first second third : Position}
    (left : first.atMost second = true) (right : second.atMost third = true) :
    first.atMost third = true := by
  rw [atMost_iff] at left right ⊢
  omega

theorem atMost_next (position : Position) (c : Char) :
    position.atMost (position.next c) = true := by
  rw [next, atMost_iff]
  split
  · exact Or.inl (Nat.lt_succ_self _)
  · exact Or.inr ⟨rfl, Nat.le_add_right _ _⟩

theorem atMost_after (position : Position) (text : Text) :
    position.atMost (position.after text) = true := by
  induction text generalizing position with
  | nil => exact position.atMost_refl
  | cons c rest ih => exact atMost_trans (position.atMost_next c) (ih (position.next c))

end Position

namespace Lexer

/-- What the lexer is in, with the position where a comment was opened. -/
inductive Mode where
  | code
  | lineComment (opened : Position)
  /-- At the star of the two characters that open a block comment. -/
  | blockOpener (opened : Position)
  | block (opened : Position)
  /-- At the slash of the two characters that close a block comment. -/
  | blockCloser (opened : Position)
  deriving DecidableEq

/-- The mode after a character at a given place, where `upcoming` is the
character that follows. -/
def step (mode : Mode) (place : Position) (c : Char) (upcoming : Option Char) : Mode :=
  match mode with
  | .code =>
      if c = '/' ∧ upcoming = some '/' then .lineComment place
      else if c = '/' ∧ upcoming = some '*' then .blockOpener place
      else .code
  | .lineComment opened => if c = '\n' then .code else .lineComment opened
  | .blockOpener opened => .block opened
  | .block opened =>
      if c = '*' ∧ upcoming = some '/' then .blockCloser opened else .block opened
  | .blockCloser _ => .code

/-- Where the comment that a character belongs to was opened. -/
def comment? (mode : Mode) (place : Position) (c : Char) (upcoming : Option Char) :
    Option Position :=
  match mode with
  | .code =>
      if c = '/' ∧ (upcoming = some '/' ∨ upcoming = some '*') then some place else none
  | .lineComment opened => if c = '\n' then none else some opened
  | .blockOpener opened => some opened
  | .block opened => some opened
  | .blockCloser opened => some opened

/-- A character, its place, and where its comment was opened; there is none for
code. -/
structure Mark where
  char : Char
  place : Position
  comment : Option Position
  deriving DecidableEq

/-- The characters of a text with their comments. -/
def marks : Mode → Position → Text → List Mark
  | _, _, [] => []
  | mode, place, c :: rest =>
      ⟨c, place, comment? mode place c rest.head?⟩ ::
        marks (step mode place c rest.head?) (place.next c) rest

/-- The mode after a text. -/
def modeAfter : Mode → Position → Text → Mode
  | mode, _, [] => mode
  | mode, place, c :: rest =>
      modeAfter (step mode place c rest.head?) (place.next c) rest

/-- The byte at a position belongs to a character. -/
def Mark.Holds (mark : Mark) (position : Position) : Prop :=
  mark.place.line = position.line ∧ mark.place.column ≤ position.column ∧
    position.column < mark.place.column + mark.char.utf8Size

/-- The byte at a position belongs to the comment opened at `opened`. -/
def CommentAt (marks : List Mark) (opened position : Position) : Prop :=
  ∃ mark ∈ marks, mark.comment = some opened ∧ mark.Holds position

/-- A comment is opened at a position. -/
def OpensAt (marks : List Mark) (position : Position) : Prop :=
  ∃ mark ∈ marks, mark.place = position ∧ mark.comment = some position

@[simp]
theorem marks_nil (mode : Mode) (place : Position) : marks mode place [] = [] := by
  cases mode <;> rfl

@[simp]
theorem modeAfter_nil (mode : Mode) (place : Position) : modeAfter mode place [] = mode := by
  cases mode <;> rfl

theorem marks_cons (mode : Mode) (place : Position) (c : Char) (rest : Text) :
    marks mode place (c :: rest) =
      ⟨c, place, comment? mode place c rest.head?⟩ ::
        marks (step mode place c rest.head?) (place.next c) rest := by
  cases mode <;> rfl

theorem modeAfter_cons (mode : Mode) (place : Position) (c : Char) (rest : Text) :
    modeAfter mode place (c :: rest) =
      modeAfter (step mode place c rest.head?) (place.next c) rest := by
  cases mode <;> rfl

@[simp]
theorem commentAt_nil (opened position : Position) : ¬ CommentAt [] opened position := by
  simp [CommentAt]

@[simp]
theorem commentAt_cons (mark : Mark) (rest : List Mark) (opened position : Position) :
    CommentAt (mark :: rest) opened position ↔
      mark.comment = some opened ∧ mark.Holds position ∨ CommentAt rest opened position := by
  simp [CommentAt]

@[simp]
theorem commentAt_append (left right : List Mark) (opened position : Position) :
    CommentAt (left ++ right) opened position ↔
      CommentAt left opened position ∨ CommentAt right opened position := by
  simp [CommentAt, or_and_right, exists_or]

@[simp]
theorem opensAt_cons (mark : Mark) (rest : List Mark) (position : Position) :
    OpensAt (mark :: rest) position ↔
      mark.place = position ∧ mark.comment = some position ∨ OpensAt rest position := by
  simp [OpensAt]

@[simp]
theorem opensAt_append (left right : List Mark) (position : Position) :
    OpensAt (left ++ right) position ↔ OpensAt left position ∨ OpensAt right position := by
  simp [OpensAt, or_and_right, exists_or]

/-- A character that is no part of a delimiter is as good as the end of the text
for the character before it. -/
theorem step_upcoming {d : Char} (noSlash : d ≠ '/') (noStar : d ≠ '*') (mode : Mode)
    (place : Position) (c : Char) : step mode place c (some d) = step mode place c none := by
  cases mode <;> simp [step, noSlash, noStar]

theorem comment?_upcoming {d : Char} (noSlash : d ≠ '/') (noStar : d ≠ '*') (mode : Mode)
    (place : Position) (c : Char) :
    comment? mode place c (some d) = comment? mode place c none := by
  cases mode <;> simp [comment?, noSlash, noStar]

/-- The lexer can be stopped before a character that is no part of a delimiter. -/
theorem marks_append_cons {d : Char} (noSlash : d ≠ '/') (noStar : d ≠ '*') (mode : Mode)
    (place : Position) (left right : Text) :
    marks mode place (left ++ d :: right) =
      marks mode place left ++
        marks (modeAfter mode place left) (place.after left) (d :: right) := by
  induction left generalizing mode place with
  | nil => simp
  | cons c left ih =>
      rw [List.cons_append, marks_cons, marks_cons, modeAfter_cons, Position.after_cons,
        List.cons_append, ih]
      cases left with
      | nil => simp [step_upcoming noSlash noStar, comment?_upcoming noSlash noStar]
      | cons e left => rfl

theorem modeAfter_append_cons {d : Char} (noSlash : d ≠ '/') (noStar : d ≠ '*')
    (mode : Mode) (place : Position) (left right : Text) :
    modeAfter mode place (left ++ d :: right) =
      modeAfter (modeAfter mode place left) (place.after left) (d :: right) := by
  induction left generalizing mode place with
  | nil => simp
  | cons c left ih =>
      rw [List.cons_append, modeAfter_cons mode place c (left ++ d :: right),
        modeAfter_cons mode place c left, Position.after_cons, ih]
      cases left with
      | nil => simp [step_upcoming noSlash noStar]
      | cons e left => rfl

theorem line_le_of_mem_marks {mode : Mode} {place : Position} {text : Text} {mark : Mark}
    (member : mark ∈ marks mode place text) : place.line ≤ mark.place.line := by
  induction text generalizing mode place with
  | nil => simp at member
  | cons c rest ih =>
      rw [marks_cons] at member
      rcases List.mem_cons.mp member with rfl | later
      · exact Nat.le_refl _
      · have bound := ih later
        unfold Position.next at bound
        split at bound <;> simp at bound <;> omega

theorem place_of_mem_marks {mode : Mode} {place : Position} {text : Text} {mark : Mark}
    (clear : '\n' ∉ text) (member : mark ∈ marks mode place text) :
    mark.place.line = place.line ∧ place.column ≤ mark.place.column ∧
      mark.place.column + mark.char.utf8Size ≤ place.column + Text.width text := by
  induction text generalizing mode place with
  | nil => simp at member
  | cons c rest ih =>
      have other : c ≠ '\n' := fun newline => clear (by simp [newline])
      have restClear : '\n' ∉ rest := fun later => clear (by simp [later])
      rw [marks_cons] at member
      rcases List.mem_cons.mp member with rfl | later
      · refine ⟨rfl, Nat.le_refl _, ?_⟩
        simp only [Text.width_cons]
        omega
      · have bounds := ih restClear later
        rw [Position.next_of_ne other] at bounds
        simp only [Text.width_cons] at bounds ⊢
        omega

/-! ### The lexer at delimiters -/

@[simp]
theorem utf8Size_slash : '/'.utf8Size = 1 := rfl

@[simp]
theorem utf8Size_star : '*'.utf8Size = 1 := rfl

theorem marks_slashes (place : Position) (rest : Text) :
    marks .code place ('/' :: '/' :: rest) =
      ⟨'/', place, some place⟩ ::
        marks (.lineComment place) (place.next '/') ('/' :: rest) := by
  rw [marks_cons]
  rfl

theorem modeAfter_slashes (place : Position) (rest : Text) :
    modeAfter .code place ('/' :: '/' :: rest) =
      modeAfter (.lineComment place) (place.next '/') ('/' :: rest) := by
  rw [modeAfter_cons]
  rfl

theorem marks_opener (place : Position) (rest : Text) :
    marks .code place ('/' :: '*' :: rest) =
      ⟨'/', place, some place⟩ :: ⟨'*', place.next '/', some place⟩ ::
        marks (.block place) ((place.next '/').next '*') rest := by
  rw [marks_cons, marks_cons]
  rfl

theorem modeAfter_opener (place : Position) (rest : Text) :
    modeAfter .code place ('/' :: '*' :: rest) =
      modeAfter (.block place) ((place.next '/').next '*') rest := by
  rw [modeAfter_cons, modeAfter_cons]
  rfl

theorem marks_closer (opened place : Position) (rest : Text) :
    marks (.block opened) place ('*' :: '/' :: rest) =
      ⟨'*', place, some opened⟩ :: ⟨'/', place.next '*', some opened⟩ ::
        marks .code ((place.next '*').next '/') rest := by
  rw [marks_cons, marks_cons]
  rfl

theorem modeAfter_closer (opened place : Position) (rest : Text) :
    modeAfter (.block opened) place ('*' :: '/' :: rest) =
      modeAfter .code ((place.next '*').next '/') rest := by
  rw [modeAfter_cons, modeAfter_cons]
  rfl

/-- A character that opens no comment. -/
def Plain (c : Char) (rest : Text) : Prop :=
  ¬ (c = '/' ∧ (rest.head? = some '/' ∨ rest.head? = some '*'))

theorem step_plain {c : Char} {rest : Text} (plain : Plain c rest) (place : Position) :
    step .code place c rest.head? = .code ∧ comment? .code place c rest.head? = none := by
  have noSlash : ¬ (c = '/' ∧ rest.head? = some '/') :=
    fun both => plain ⟨both.1, Or.inl both.2⟩
  have noStar : ¬ (c = '/' ∧ rest.head? = some '*') :=
    fun both => plain ⟨both.1, Or.inr both.2⟩
  exact ⟨by rw [step, if_neg noSlash, if_neg noStar], if_neg plain⟩

theorem marks_plain {c : Char} {rest : Text} (plain : Plain c rest) (place : Position) :
    marks .code place (c :: rest) = ⟨c, place, none⟩ :: marks .code (place.next c) rest := by
  rw [marks_cons, (step_plain plain place).1, (step_plain plain place).2]

theorem modeAfter_plain {c : Char} {rest : Text} (plain : Plain c rest) (place : Position) :
    modeAfter .code place (c :: rest) = modeAfter .code (place.next c) rest := by
  rw [modeAfter_cons, (step_plain plain place).1]

theorem step_inside {c : Char} {rest : Text} (inside : ¬ (c = '*' ∧ rest.head? = some '/'))
    (opened place : Position) : step (.block opened) place c rest.head? = .block opened := by
  simp [step, inside]

theorem marks_inside {c : Char} {rest : Text} (inside : ¬ (c = '*' ∧ rest.head? = some '/'))
    (opened place : Position) :
    marks (.block opened) place (c :: rest) =
      ⟨c, place, some opened⟩ :: marks (.block opened) (place.next c) rest := by
  rw [marks_cons, step_inside inside]
  rfl

theorem modeAfter_inside {c : Char} {rest : Text}
    (inside : ¬ (c = '*' ∧ rest.head? = some '/')) (opened place : Position) :
    modeAfter (.block opened) place (c :: rest) =
      modeAfter (.block opened) (place.next c) rest := by
  rw [modeAfter_cons, step_inside inside]

theorem comment_of_mem_lineComment {text : Text} (clear : '\n' ∉ text)
    {opened place : Position} {mark : Mark}
    (member : mark ∈ marks (.lineComment opened) place text) :
    mark.comment = some opened := by
  induction text generalizing place with
  | nil => simp at member
  | cons c rest ih =>
      have other : c ≠ '\n' := fun newline => clear (by simp [newline])
      have restClear : '\n' ∉ rest := fun later => clear (by simp [later])
      rw [marks_cons] at member
      rcases List.mem_cons.mp member with rfl | later
      · simp [comment?, other]
      · simp only [step, if_neg other] at later
        exact ih restClear later

theorem modeAfter_lineComment {text : Text} (clear : '\n' ∉ text)
    (opened place : Position) :
    modeAfter (.lineComment opened) place text = .lineComment opened := by
  induction text generalizing place with
  | nil => simp
  | cons c rest ih =>
      have other : c ≠ '\n' := fun newline => clear (by simp [newline])
      have restClear : '\n' ∉ rest := fun later => clear (by simp [later])
      rw [modeAfter_cons, step, if_neg other, ih restClear]

theorem exists_holds {text : Text} (clear : '\n' ∉ text) (mode : Mode)
    (place position : Position) (sameLine : place.line = position.line)
    (startLe : place.column ≤ position.column)
    (ltStop : position.column < place.column + Text.width text) :
    ∃ mark ∈ marks mode place text, mark.Holds position := by
  induction text generalizing mode place with
  | nil =>
      simp only [Text.width_nil] at ltStop
      omega
  | cons c rest ih =>
      have other : c ≠ '\n' := fun newline => clear (by simp [newline])
      have restClear : '\n' ∉ rest := fun later => clear (by simp [later])
      rw [marks_cons, Position.next_of_ne other]
      rcases Nat.lt_or_ge position.column (place.column + c.utf8Size) with here | later
      · exact ⟨_, List.mem_cons_self, sameLine, startLe, here⟩
      · obtain ⟨mark, member, holds⟩ :=
          ih restClear (step mode place c rest.head?)
            ⟨place.line, place.column + c.utf8Size⟩ sameLine later
            (by simp only [Text.width_cons] at ltStop ⊢; omega)
        exact ⟨mark, List.mem_cons_of_mem _ member, holds⟩

end Lexer

end Pinpoint
