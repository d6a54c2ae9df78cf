import Pinpoint.Comment
import Pinpoint.Proofs.Comment.Lexer
import Pinpoint.Proofs.Line.Gaps

/-!
# The scanner and the lexer on one line

The scanner reports the comments of a line as spans and hands on whether a block
comment is open.  Started in matching states, scanner and lexer agree: the spans
stand in order, they hold exactly the bytes that the lexer puts into comments,
and the state handed on is the mode of the lexer at the end of the line.
-/

namespace Pinpoint

namespace Lexer

/-- The mode at the start of a line to which a state is handed on. -/
def Mode.ofState : CommentState → Mode
  | .closed => .code
  | .opened position => .block position

@[simp]
theorem Mode.ofState_closed : Mode.ofState .closed = .code := rfl

@[simp]
theorem Mode.ofState_opened (position : Position) :
    Mode.ofState (.opened position) = .block position := rfl

/-- A mode at the end of a line, and the state that is handed on. -/
def Mode.EndsAs (mode : Mode) : CommentState → Prop
  | .closed => mode = .code ∨ ∃ opened, mode = .lineComment opened
  | .opened position => mode = .block position

theorem Mode.EndsAs.step_newline {mode : Mode} {state : CommentState}
    (ends : mode.EndsAs state) (place : Position) (upcoming : Option Char) :
    step mode place '\n' upcoming = Mode.ofState state := by
  cases state with
  | closed =>
      rcases ends with rfl | ⟨opened, rfl⟩
      · simp [step]
      · rfl
  | opened position =>
      obtain rfl : mode = .block position := ends
      simp [step]

theorem Mode.EndsAs.step_of_ne {mode : Mode} {state : CommentState}
    (ends : mode.EndsAs state) {c : Char} (noSlash : c ≠ '/') (noStar : c ≠ '*')
    (other : c ≠ '\n') (place : Position) (upcoming : Option Char) :
    (step mode place c upcoming).EndsAs state := by
  cases state with
  | closed =>
      rcases ends with rfl | ⟨opened, rfl⟩
      · exact Or.inl (by simp [step, noSlash])
      · exact Or.inr ⟨opened, by simp [step, other]⟩
  | opened position =>
      obtain rfl : mode = .block position := ends
      simp [EndsAs, step, noStar]

theorem Mode.EndsAs.eq_block_iff {mode : Mode} {state : CommentState}
    (ends : mode.EndsAs state) (position : Position) :
    state = .opened position ↔ mode = .block position := by
  cases state with
  | closed => rcases ends with rfl | ⟨opened, rfl⟩ <;> simp
  | opened other =>
      obtain rfl : mode = .block other := ends
      simp

/-- A byte that belongs to a comment lies on the line that the lexer reads, behind
the place where it starts. -/
theorem le_of_commentAt {text : Text} (clear : '\n' ∉ text) {mode : Mode}
    {place opened position : Position}
    (inComment : CommentAt (marks mode place text) opened position) :
    place.column ≤ position.column := by
  obtain ⟨mark, member, -, holds⟩ := inComment
  have bounds := place_of_mem_marks clear member
  have startLe := holds.2.1
  omega

end Lexer

/-- A column of a line lies in the part of a token that stands on the line. -/
def Token.Covers (token : Token) (line : Line) (column : Nat) : Prop :=
  ∃ span, token.found.clampTo line = some span ∧ span.Holds column

namespace Comment

open Lexer

section

variable (line : Line)

/-- A block comment was opened before a column of a line is reached. -/
def Carried (column : Nat) : CommentState → Prop
  | .closed => True
  | .opened position => position.line ≤ line.number ∧ bodyStart line position ≤ column

/-- The columns of a line that comments cover, comment by comment. -/
def spansOn (comments : List Token) : List Span :=
  comments.filterMap fun comment => comment.found.clampTo line

@[simp]
theorem bodyStart_position (column : Nat) :
    bodyStart line (line.position column) = column := by
  simp [bodyStart, Line.position]

theorem carried_position (column : Nat) :
    Carried line (column + 2) (.opened (line.position column)) := by
  simp [Carried, Line.position, bodyStart]

variable {line}

theorem next_position {c : Char} (other : c ≠ '\n') (column : Nat) :
    (line.position column).next c = line.position (column + c.utf8Size) :=
  Position.next_of_ne other _

theorem spansOn_cons {comment : Token} {span : Span} (others : List Token)
    (clamped : comment.found.clampTo line = some span) :
    spansOn line (comment :: others) = span :: spansOn line others := by
  rw [spansOn, List.filterMap_cons, clamped]
  rfl

theorem Carried.of_le {column later : Nat} {state : CommentState}
    (carried : Carried line column state) (le : column ≤ later) :
    Carried line later state := by
  cases state with
  | closed => trivial
  | opened position => exact ⟨carried.1, Nat.le_trans carried.2 le⟩

theorem clampTo_toLineEnd {column : Nat} (within : column ≤ line.width) :
    (toLineEnd line column).found.clampTo line = some ⟨column, line.width⟩ := by
  simp [toLineEnd, Match.clampTo, Match.onLine, Line.position, within]

theorem clampTo_block {position : Position} {stop : Nat} (closed : Bool)
    (carried : Carried line stop (.opened position)) :
    (block line position stop closed).found.clampTo line =
      some ⟨bodyStart line position, stop⟩ := by
  obtain ⟨lineLe, startLe⟩ := carried
  rcases Nat.lt_or_eq_of_le lineLe with earlier | here
  · simp [Match.clampTo, block, Line.position, bodyStart, earlier, Nat.not_lt.mpr lineLe,
      Nat.ne_of_lt earlier]
  · rw [bodyStart, if_pos here] at startLe ⊢
    simp [Match.clampTo, block, Line.position, here, startLe]

/-! ### Following the scanner -/

theorem scanFrom_slashes (column : Nat) (rest : Text) :
    scanFrom line .closed column ('/' :: '/' :: rest) =
      ([toLineEnd line column], .closed) := rfl

theorem scanFrom_opener (column : Nat) (rest : Text) :
    scanFrom line .closed column ('/' :: '*' :: rest) =
      scanFrom line (.opened (line.position column)) (column + 2) rest := rfl

theorem scanFrom_closed_nil (column : Nat) :
    scanFrom line .closed column [] = ([], .closed) := rfl

theorem scanFrom_opened_nil (position : Position) (column : Nat) :
    scanFrom line (.opened position) column [] =
      ([block line position line.width false], .opened position) := rfl

theorem scanFrom_plain {c : Char} {rest : Text} (plain : Plain c rest) (column : Nat) :
    scanFrom line .closed column (c :: rest) =
      scanFrom line .closed (column + c.utf8Size) rest := by
  rw [scanFrom]
  · rintro tail rfl rfl
    exact plain ⟨rfl, Or.inl rfl⟩
  · rintro tail rfl rfl
    exact plain ⟨rfl, Or.inr rfl⟩

theorem scanFrom_closer (position : Position) (column : Nat) (rest : Text) :
    scanFrom line (.opened position) column ('*' :: '/' :: rest) =
      (block line position (column + 2) true ::
        (scanFrom line .closed (column + 2) rest).1,
        (scanFrom line .closed (column + 2) rest).2) := rfl

theorem scanFrom_inside {c : Char} {rest : Text}
    (inside : ¬ (c = '*' ∧ rest.head? = some '/')) (position : Position) (column : Nat) :
    scanFrom line (.opened position) column (c :: rest) =
      scanFrom line (.opened position) (column + c.utf8Size) rest := by
  rw [scanFrom]
  rintro tail rfl rfl
  exact inside ⟨rfl, rfl⟩

/-- What holds at the end of a line and in front of every delimiter and every
other character holds everywhere. -/
@[elab_as_elim]
theorem scan_induction (line : Line) {motive : CommentState → Nat → Text → Prop}
    (slashes : ∀ column rest, motive .closed column ('/' :: '/' :: rest))
    (opener : ∀ column rest,
      motive (.opened (line.position column)) (column + 2) rest →
        motive .closed column ('/' :: '*' :: rest))
    (plain : ∀ column c rest, Plain c rest →
      motive .closed (column + c.utf8Size) rest → motive .closed column (c :: rest))
    (closedEnd : ∀ column, motive .closed column [])
    (closer : ∀ position column rest, motive .closed (column + 2) rest →
      motive (.opened position) column ('*' :: '/' :: rest))
    (inside : ∀ position column c rest, ¬ (c = '*' ∧ rest.head? = some '/') →
      motive (.opened position) (column + c.utf8Size) rest →
        motive (.opened position) column (c :: rest))
    (openEnd : ∀ position column, motive (.opened position) column [])
    (state : CommentState) (column : Nat) (rest : Text) : motive state column rest := by
  induction state, column, rest using scanFrom.induct line with
  | case1 column rest => exact slashes column rest
  | case2 column rest ih => exact opener column rest ih
  | case3 column c rest noSlash noStar ih =>
      refine plain column c rest ?_ ih
      rintro ⟨rfl, next | next⟩
      · obtain ⟨tail, rfl⟩ := List.head?_eq_some_iff.mp next
        exact noSlash tail rfl rfl
      · obtain ⟨tail, rfl⟩ := List.head?_eq_some_iff.mp next
        exact noStar tail rfl rfl
  | case4 column => exact closedEnd column
  | case5 position column rest _ _ _ ih => exact closer position column rest ih
  | case6 position column c rest noSlash ih =>
      refine inside position column c rest ?_ ih
      rintro ⟨rfl, next⟩
      obtain ⟨tail, rfl⟩ := List.head?_eq_some_iff.mp next
      exact noSlash tail rfl rfl
  | case7 position column => exact openEnd position column

/-- The lexer ends a line in the mode that the scanner hands on. -/
theorem modeAfter_endsAs {state : CommentState} {rest : Text} (clear : '\n' ∉ rest)
    (column : Nat) (place : Position) (placeEq : place = line.position column) :
    (modeAfter (.ofState state) place rest).EndsAs
      (scanFrom line state column rest).2 := by
  induction state, column, rest using scan_induction line generalizing place with
  | slashes column rest =>
      rw [scanFrom_slashes, Mode.ofState_closed, modeAfter_slashes,
        modeAfter_lineComment (by simp_all)]
      exact Or.inr ⟨place, rfl⟩
  | opener column rest ih =>
      rw [scanFrom_opener, Mode.ofState_closed, modeAfter_opener, placeEq]
      exact ih (by simp_all) _ rfl
  | plain column c rest plain ih =>
      rw [scanFrom_plain plain, Mode.ofState_closed, modeAfter_plain plain]
      have other : c ≠ '\n' := fun newline => clear (by simp [newline])
      exact ih (by simp_all) _ (by rw [placeEq, Position.next_of_ne other]; rfl)
  | closedEnd column => exact Or.inl (modeAfter_nil _ _)
  | closer position column rest ih =>
      rw [scanFrom_closer, Mode.ofState_opened, modeAfter_closer]
      exact ih (by simp_all) _ (by rw [placeEq]; rfl)
  | inside position column c rest inside ih =>
      rw [scanFrom_inside inside, Mode.ofState_opened, modeAfter_inside inside]
      have other : c ≠ '\n' := fun newline => clear (by simp [newline])
      exact ih (by simp_all) _ (by rw [placeEq, Position.next_of_ne other]; rfl)
  | openEnd position column => exact modeAfter_nil _ _

/-- Comments from a column on stand one after the other.  In an open block the
first of them is what is left of the block. -/
def InOrder (line : Line) (column : Nat) (comments : List Token) : CommentState → Prop
  | .closed => Span.Ordered column line.width (spansOn line comments)
  | .opened position =>
      ∃ comment others stop, comments = comment :: others ∧
        comment.found.start = position ∧
        comment.found.clampTo line = some ⟨bodyStart line position, stop⟩ ∧
        column ≤ stop ∧ Span.Ordered stop line.width (spansOn line others)

theorem InOrder.of_le {position : Position} {column later : Nat} {comments : List Token}
    (inOrder : InOrder line later comments (.opened position)) (le : column ≤ later) :
    InOrder line column comments (.opened position) := by
  obtain ⟨comment, others, stop, commentsEq, startEq, spanEq, laterLe, ordered⟩ := inOrder
  exact ⟨comment, others, stop, commentsEq, startEq, spanEq, Nat.le_trans le laterLe, ordered⟩

theorem inOrder_scanFrom {column : Nat} {rest : Text} (state : CommentState)
    (widthEq : column + Text.width rest = line.width)
    (carried : Carried line column state) :
    InOrder line column (scanFrom line state column rest).1 state := by
  induction state, column, rest using scan_induction line with
  | slashes column rest =>
      have within : column ≤ line.width := by omega
      rw [scanFrom_slashes, InOrder, spansOn]
      simp [clampTo_toLineEnd within, Span.Ordered, within]
  | opener column rest ih =>
      rw [scanFrom_opener]
      have widthEq' : column + 2 + Text.width rest = line.width := by
        simp at widthEq
        omega
      obtain ⟨comment, others, stop, commentsEq, -, spanEq, laterLe, ordered⟩ :=
        ih widthEq' (carried_position line column)
      rw [bodyStart_position] at spanEq
      rw [commentsEq, InOrder, spansOn_cons others spanEq]
      exact ⟨Nat.le_refl _, by simp; omega, ordered⟩
  | plain column c rest plain ih =>
      rw [scanFrom_plain plain]
      simp only [Text.width_cons] at widthEq
      exact Span.Ordered.of_le (ih (by omega) trivial) (Nat.le_add_right _ _)
  | closedEnd column =>
      simp only [Text.width_nil] at widthEq
      simp [InOrder, scanFrom_closed_nil, spansOn, Span.Ordered]
      omega
  | closer position column rest ih =>
      rw [scanFrom_closer]
      have widthEq' : column + 2 + Text.width rest = line.width := by
        simp at widthEq
        omega
      exact ⟨_, _, column + 2, rfl, rfl, clampTo_block true (carried.of_le (by omega)),
        by omega, ih widthEq' trivial⟩
  | inside position column c rest inside ih =>
      rw [scanFrom_inside inside]
      simp only [Text.width_cons] at widthEq
      exact (ih (by omega) (carried.of_le (by omega))).of_le (by omega)
  | openEnd position column =>
      simp only [Text.width_nil, Nat.add_zero] at widthEq
      subst widthEq
      exact ⟨_, [], line.width, rfl, rfl, clampTo_block false carried, Nat.le_refl _,
        Nat.le_refl _⟩

theorem ordered_scan {state : CommentState} (carried : Carried line 0 state) :
    Span.Ordered 0 line.width (spansOn line (scan line state).1) := by
  have widthEq : 0 + Text.width line.text = line.width := Nat.zero_add _
  have inOrder := inOrder_scanFrom state widthEq carried
  cases state with
  | closed => exact inOrder
  | opened position =>
      obtain ⟨comment, others, stop, commentsEq, -, spanEq, -, ordered⟩ := inOrder
      obtain ⟨-, startLe⟩ := carried
      have startEq := Nat.le_zero.mp startLe
      rw [scan, commentsEq, spansOn_cons others spanEq, startEq]
      exact ⟨Nat.le_refl _, Nat.zero_le _, ordered⟩

theorem stop_line_of_mem_scanFrom {comment : Token} (state : CommentState) (column : Nat)
    (rest : Text) (member : comment ∈ (scanFrom line state column rest).1) :
    comment.found.stop.line = line.number := by
  induction state, column, rest using scan_induction line with
  | slashes column rest =>
      rw [scanFrom_slashes, List.mem_singleton] at member
      rw [member]
      rfl
  | opener column rest ih => exact ih (scanFrom_opener column rest ▸ member)
  | plain column c rest plain ih => exact ih (scanFrom_plain plain column ▸ member)
  | closedEnd column => simp [scanFrom_closed_nil] at member
  | closer position column rest ih =>
      rw [scanFrom_closer] at member
      rcases List.mem_cons.mp member with rfl | later
      · rfl
      · exact ih later
  | inside position column c rest inside ih =>
      exact ih (scanFrom_inside inside position column ▸ member)
  | openEnd position column =>
      rw [scanFrom_opened_nil, List.mem_singleton] at member
      rw [member]
      rfl

/-- A comment that is reported ends within the line.  It starts there, too, unless it was
open before. -/
theorem bounds_of_mem_scanFrom {comment : Token} (state : CommentState) (column : Nat)
    (rest : Text) (widthEq : column + Text.width rest = line.width)
    (member : comment ∈ (scanFrom line state column rest).1) :
    comment.found.stop.column ≤ line.width ∧
      (comment.found.start.line = line.number ∨ state = .opened comment.found.start) := by
  induction state, column, rest using scan_induction line with
  | slashes column rest =>
      rw [scanFrom_slashes, List.mem_singleton] at member
      rw [member]
      exact ⟨Nat.le_refl _, Or.inl rfl⟩
  | opener column rest ih =>
      rw [scanFrom_opener] at member
      have widthEq' : column + 2 + Text.width rest = line.width := by
        simp at widthEq
        omega
      obtain ⟨stopLe, starts⟩ := ih widthEq' member
      refine ⟨stopLe, Or.inl ?_⟩
      rcases starts with here | opened
      · exact here
      · rw [← CommentState.opened.inj opened]
        rfl
  | plain column c rest plain ih =>
      rw [scanFrom_plain plain] at member
      simp only [Text.width_cons] at widthEq
      obtain ⟨stopLe, here | opened⟩ := ih (by omega) member
      · exact ⟨stopLe, Or.inl here⟩
      · simp at opened
  | closedEnd column => simp [scanFrom_closed_nil] at member
  | closer position column rest ih =>
      rw [scanFrom_closer] at member
      have widthEq' : column + 2 + Text.width rest = line.width := by
        simp at widthEq
        omega
      rcases List.mem_cons.mp member with rfl | later
      · have within : column + 2 ≤ line.width := by omega
        exact ⟨within, Or.inr rfl⟩
      · obtain ⟨stopLe, here | opened⟩ := ih widthEq' later
        · exact ⟨stopLe, Or.inl here⟩
        · simp at opened
  | inside position column c rest inside ih =>
      rw [scanFrom_inside inside] at member
      simp only [Text.width_cons] at widthEq
      exact ih (by omega) member
  | openEnd position column =>
      rw [scanFrom_opened_nil, List.mem_singleton] at member
      rw [member]
      exact ⟨Nat.le_refl _, Or.inr rfl⟩

/-- A block comment that is open at the end of a line was opened there, or before. -/
theorem eq_of_scanFrom_opened {position : Position} (state : CommentState) (column : Nat)
    (rest : Text) (opened : (scanFrom line state column rest).2 = .opened position) :
    position.line = line.number ∨ state = .opened position := by
  induction state, column, rest using scan_induction line with
  | slashes column rest => simp [scanFrom_slashes] at opened
  | opener column rest ih =>
      rcases ih (scanFrom_opener column rest ▸ opened) with here | before
      · exact Or.inl here
      · rw [← CommentState.opened.inj before]
        exact Or.inl rfl
  | plain column c rest plain ih =>
      rcases ih (scanFrom_plain plain column ▸ opened) with here | before
      · exact Or.inl here
      · simp at before
  | closedEnd column => simp [scanFrom_closed_nil] at opened
  | closer other column rest ih =>
      rw [scanFrom_closer] at opened
      rcases ih opened with here | before
      · exact Or.inl here
      · simp at before
  | inside other column c rest inside ih =>
      exact ih (scanFrom_inside inside other column ▸ opened)
  | openEnd other column =>
      right
      simpa [scanFrom_opened_nil] using opened

theorem line_le_of_scanFrom_opened {position : Position} (state : CommentState) (column : Nat)
    (rest : Text) (carried : Carried line column state)
    (opened : (scanFrom line state column rest).2 = .opened position) :
    position.line ≤ line.number := by
  rcases eq_of_scanFrom_opened state column rest opened with here | rfl
  · exact Nat.le_of_eq here
  · exact carried.1

/-- Where no comment is reported, the line was code from its start to its end. -/
theorem closed_of_scanFrom_eq_nil (state : CommentState) (column : Nat) (rest : Text)
    (none : (scanFrom line state column rest).1 = []) :
    state = .closed ∧ (scanFrom line state column rest).2 = .closed := by
  induction state, column, rest using scan_induction line with
  | slashes column rest => simp [scanFrom_slashes] at none
  | opener column rest ih =>
      rw [scanFrom_opener] at none
      simp at ih
      exact absurd none ih
  | plain column c rest plain ih =>
      rw [scanFrom_plain plain] at none ⊢
      exact ih none
  | closedEnd column => exact ⟨rfl, rfl⟩
  | closer position column rest ih => simp [scanFrom_closer] at none
  | inside position column c rest inside ih =>
      rw [scanFrom_inside inside] at none ⊢
      exact ih none
  | openEnd position column => simp [scanFrom_opened_nil] at none

end

end Comment

end Pinpoint
