import Pinpoint.Proofs.Comment.Scan

/-!
# Exactness of the comments found

The comments reported for the lines of a document, one line after the other, are
compared with the lexer run over the whole text.  Every byte of a
line is covered exactly if the lexer puts it into a comment, every comment
starts where the lexer opens it, and the state handed on after a line is open
exactly if the lexer is in a block comment there.
-/

namespace Pinpoint

namespace Line

/-- Lines with the given texts, numbered one after the other. -/
def numbered : Nat → List Text → List Line
  | _, [] => []
  | number, text :: others => ⟨number, text⟩ :: numbered (number + 1) others

end Line

namespace Comment

open Lexer

section

variable {line : Line}

theorem exists_mem_spansOn {comments : List Token} {comment : Token} {column : Nat}
    (member : comment ∈ comments) (covers : comment.Covers line column) :
    ∃ span ∈ spansOn line comments, span.Holds column := by
  obtain ⟨span, clamped, holds⟩ := covers
  exact ⟨span, List.mem_filterMap.mpr ⟨comment, member, clamped⟩, holds⟩

theorem le_of_covers {first last column : Nat} {comments : List Token} {comment : Token}
    (ordered : Span.Ordered first last (spansOn line comments))
    (member : comment ∈ comments) (covers : comment.Covers line column) :
    first ≤ column := by
  obtain ⟨span, spanMember, holds⟩ := exists_mem_spansOn member covers
  exact Nat.le_trans (ordered.bounds spanMember).1 holds.1

/-- In an open block the columns up to the one reached are covered by the block,
and by nothing else. -/
theorem covers_iff_of_inOrder {position opened : Position} {later column : Nat}
    {comments : List Token}
    (inOrder : InOrder line later comments (.opened position))
    (startLe : bodyStart line position ≤ column) (before : column < later) :
    (∃ comment ∈ comments, comment.found.start = opened ∧ comment.Covers line column) ↔
      opened = position := by
  obtain ⟨comment, others, stop, rfl, startEq, clamped, laterLe, ordered⟩ := inOrder
  constructor
  · rintro ⟨other, member, rfl, covers⟩
    rcases List.mem_cons.mp member with rfl | otherMember
    · exact startEq
    · have stopLe := le_of_covers ordered otherMember covers
      omega
  · rintro rfl
    have stopLt : column < stop := by omega
    exact ⟨comment, List.mem_cons_self, startEq, ⟨_, clamped, startLe, stopLt⟩⟩

theorem covers_iff_of_clampTo {comment : Token} {span : Span}
    (clamped : comment.found.clampTo line = some span) (column : Nat) :
    comment.Covers line column ↔ span.Holds column := by
  simp [Token.Covers, clamped]

/-! ### The lexer on a line -/

theorem commentAt_here {c : Char} {rest : Text} {mode : Mode} {column byte : Nat}
    {opened : Position} (clear : '\n' ∉ c :: rest) (startLe : column ≤ byte)
    (ltStop : byte < column + c.utf8Size) :
    CommentAt (marks mode (line.position column) (c :: rest)) opened (line.position byte) ↔
      comment? mode (line.position column) c rest.head? = some opened := by
  have other : c ≠ '\n' := fun newline => clear (by simp [newline])
  have restClear : '\n' ∉ rest := fun later => clear (by simp [later])
  rw [marks_cons, commentAt_cons, next_position other]
  constructor
  · rintro (⟨inComment, -⟩ | later)
    · exact inComment
    · have behind : column + c.utf8Size ≤ byte := le_of_commentAt restClear later
      omega
  · intro inComment
    exact Or.inl ⟨inComment, rfl, startLe, ltStop⟩

theorem commentAt_later {c : Char} {rest : Text} {mode : Mode} {column byte : Nat}
    {opened : Position} (clear : '\n' ∉ c :: rest) (stopLe : column + c.utf8Size ≤ byte) :
    CommentAt (marks mode (line.position column) (c :: rest)) opened (line.position byte) ↔
      CommentAt (marks (step mode (line.position column) c rest.head?)
        (line.position (column + c.utf8Size)) rest) opened (line.position byte) := by
  have other : c ≠ '\n' := fun newline => clear (by simp [newline])
  rw [marks_cons, commentAt_cons, next_position other]
  constructor
  · rintro (⟨-, -, -, ltStop⟩ | later)
    · exact absurd stopLe (Nat.not_le.mpr ltStop)
    · exact later
  · exact Or.inr

theorem commentAt_slashes {rest : Text} (clear : '\n' ∉ '/' :: '/' :: rest)
    {column byte : Nat} (byteLe : column ≤ byte) (opened : Position) :
    CommentAt (marks .code (line.position column) ('/' :: '/' :: rest)) opened
        (line.position byte) ↔
      line.position column = opened ∧ byte < column + Text.width ('/' :: '/' :: rest) := by
  have comments : ∀ mark ∈ marks .code (line.position column) ('/' :: '/' :: rest),
      mark.comment = some (line.position column) := by
    intro mark member
    rw [marks_slashes] at member
    rcases List.mem_cons.mp member with rfl | later
    · rfl
    · exact comment_of_mem_lineComment (by simp_all) later
  constructor
  · rintro ⟨mark, member, inComment, -, -, ltStop⟩
    have bounds := place_of_mem_marks clear member
    rw [comments mark member] at inComment
    exact ⟨Option.some.inj inComment, Nat.lt_of_lt_of_le ltStop bounds.2.2⟩
  · rintro ⟨rfl, ltStop⟩
    obtain ⟨mark, member, holds⟩ :=
      exists_holds clear .code (line.position column) (line.position byte) rfl byteLe ltStop
    exact ⟨mark, member, comments mark member, holds⟩

/-- From a column on, the comments reported cover exactly the bytes of the
comments of the lexer. -/
theorem covers_iff_commentAt {state : CommentState} {column : Nat} {rest : Text}
    (clear : '\n' ∉ rest) (widthEq : column + Text.width rest = line.width)
    (carried : Carried line column state) (opened : Position) (byte : Nat)
    (byteLe : column ≤ byte) :
    (∃ comment ∈ (scanFrom line state column rest).1,
        comment.found.start = opened ∧ comment.Covers line byte) ↔
      CommentAt (marks (.ofState state) (line.position column) rest) opened
        (line.position byte) := by
  induction state, column, rest using scan_induction line with
  | slashes column rest =>
      have within : column ≤ line.width := by omega
      rw [scanFrom_slashes, Mode.ofState_closed, commentAt_slashes clear byteLe, widthEq]
      simp only [List.mem_singleton, exists_eq_left,
        covers_iff_of_clampTo (clampTo_toLineEnd within), Span.Holds]
      constructor
      · rintro ⟨startEq, -, ltStop⟩
        exact ⟨startEq, ltStop⟩
      · rintro ⟨startEq, ltStop⟩
        exact ⟨startEq, byteLe, ltStop⟩
  | opener column rest ih =>
      have widthEq' : column + 2 + Text.width rest = line.width := by
        simp at widthEq
        omega
      have opening := carried_position line column
      rw [scanFrom_opener, Mode.ofState_closed]
      rcases Nat.lt_or_ge byte (column + 2) with inOpener | behind
      -- No comment is reported here: the opener is covered by the block that is
      -- reported where it ends.
      · rw [covers_iff_of_inOrder (inOrder_scanFrom _ widthEq' opening) (by simpa) inOpener]
        rcases Nat.lt_or_ge byte (column + 1) with atSlash | atStar
        · rw [commentAt_here clear byteLe (by simpa using atSlash)]
          simp [comment?, eq_comm]
        · rw [commentAt_later clear (by simpa using atStar),
            commentAt_here (by simp_all) (by simpa using atStar) (by simp; omega)]
          simp [comment?, step, eq_comm]
      · rw [commentAt_later clear (by simp; omega), commentAt_later (by simp_all) (by simp; omega)]
        exact ih (by simp_all) widthEq' opening behind
  | plain column c rest plain ih =>
      simp only [Text.width_cons] at widthEq
      have widthEq' : column + c.utf8Size + Text.width rest = line.width := by omega
      rw [scanFrom_plain plain, Mode.ofState_closed]
      rcases Nat.lt_or_ge byte (column + c.utf8Size) with here | behind
      · rw [commentAt_here clear byteLe here, (step_plain plain _).2]
        -- Comments that are reported later start behind the character.
        simp only [reduceCtorEq, iff_false]
        rintro ⟨comment, member, -, covers⟩
        have behind := le_of_covers (inOrder_scanFrom .closed widthEq' trivial) member covers
        omega
      · rw [commentAt_later clear behind, (step_plain plain _).1]
        exact ih (by simp_all) widthEq' trivial behind
  | closedEnd column => simp [scanFrom_closed_nil]
  | closer position column rest ih =>
      have widthEq' : column + 2 + Text.width rest = line.width := by
        simp at widthEq
        omega
      have ordered := inOrder_scanFrom .closed widthEq' trivial
      have clamped := clampTo_block true (carried.of_le (Nat.le_add_right column 2))
      rw [scanFrom_closer, Mode.ofState_opened]
      rcases Nat.lt_or_ge byte (column + 2) with inCloser | behind
      · have head : InOrder line (column + 2)
            (block line position (column + 2) true :: (scanFrom line .closed (column + 2) rest).1)
            (.opened position) :=
          ⟨_, _, column + 2, rfl, rfl, clamped, Nat.le_refl _, ordered⟩
        rw [covers_iff_of_inOrder head (Nat.le_trans carried.2 byteLe) inCloser]
        rcases Nat.lt_or_ge byte (column + 1) with atStar | atSlash
        · rw [commentAt_here clear byteLe (by simpa using atStar)]
          simp [comment?, eq_comm]
        · rw [commentAt_later clear (by simpa using atSlash),
            commentAt_here (by simp_all) (by simpa using atSlash) (by simp; omega)]
          simp [comment?, step, eq_comm]
      · rw [commentAt_later clear (by simp; omega), commentAt_later (by simp_all) (by simp; omega)]
        simp only [List.mem_cons, exists_eq_or_imp, covers_iff_of_clampTo clamped, Span.Holds]
        have notHead : ¬ byte < column + 2 := by omega
        simp only [notHead, and_false, false_or]
        exact ih (by simp_all) widthEq' trivial behind
  | inside position column c rest inside ih =>
      simp only [Text.width_cons] at widthEq
      have widthEq' : column + c.utf8Size + Text.width rest = line.width := by omega
      have carried' := carried.of_le (Nat.le_add_right column c.utf8Size)
      rw [scanFrom_inside inside, Mode.ofState_opened]
      rcases Nat.lt_or_ge byte (column + c.utf8Size) with here | behind
      · rw [covers_iff_of_inOrder (inOrder_scanFrom _ widthEq' carried')
            (Nat.le_trans carried.2 byteLe) here, commentAt_here clear byteLe here]
        simp [comment?, eq_comm]
      · rw [commentAt_later clear behind, step_inside inside]
        exact ih (by simp_all) widthEq' carried' behind
  | openEnd position column =>
      simp only [Text.width_nil, Nat.add_zero] at widthEq
      simp only [scanFrom_opened_nil, marks_nil, commentAt_nil, iff_false, List.mem_singleton,
        exists_eq_left, covers_iff_of_clampTo (clampTo_block false (widthEq ▸ carried)),
        Span.Holds]
      omega

theorem closed_of_mem_dropLast (state : CommentState) (column : Nat) (rest : Text) :
    ∀ comment ∈ (scanFrom line state column rest).1.dropLast, comment.closed = true := by
  induction state, column, rest using scan_induction line with
  | slashes column rest => simp [scanFrom_slashes]
  | opener column rest ih => rwa [scanFrom_opener]
  | plain column c rest plain ih => rwa [scanFrom_plain plain]
  | closedEnd column => simp [scanFrom_closed_nil]
  | closer position column rest ih =>
      rw [scanFrom_closer]
      cases others : (scanFrom line .closed (column + 2) rest).1 with
      | nil => simp
      | cons next more =>
          rw [others] at ih
          intro comment member
          rw [List.dropLast_cons_cons] at member
          rcases List.mem_cons.mp member with rfl | later
          · rfl
          · exact ih comment later
  | inside position column c rest inside ih => rwa [scanFrom_inside inside]
  | openEnd position column => simp [scanFrom_opened_nil]

/-- A block is handed on to the next line exactly if the last comment is open,
and then it is the block of that comment. -/
theorem opened_iff_getLast? (state : CommentState) (column : Nat) (rest : Text)
    (opened : Position) :
    (scanFrom line state column rest).2 = .opened opened ↔
      ∃ comment, (scanFrom line state column rest).1.getLast? = some comment ∧
        comment.closed = false ∧ comment.found.start = opened := by
  induction state, column, rest using scan_induction line with
  | slashes column rest => simp [scanFrom_slashes, toLineEnd]
  | opener column rest ih => rwa [scanFrom_opener]
  | plain column c rest plain ih => rwa [scanFrom_plain plain]
  | closedEnd column => simp [scanFrom_closed_nil]
  | closer position column rest ih =>
      rw [scanFrom_closer]
      cases others : (scanFrom line .closed (column + 2) rest).1 with
      | nil =>
          rw [others] at ih
          simpa [block] using ih
      | cons next more =>
          rw [others] at ih
          simpa [List.getLast?_cons_cons] using ih
  | inside position column c rest inside ih => rwa [scanFrom_inside inside]
  | openEnd position column => simp [scanFrom_opened_nil, block]

theorem opensAt_of_mem_scanFrom {comment : Token} (state : CommentState) (column : Nat)
    (rest : Text) (clear : '\n' ∉ rest)
    (member : comment ∈ (scanFrom line state column rest).1) :
    state = .opened comment.found.start ∨
      OpensAt (marks (.ofState state) (line.position column) rest) comment.found.start := by
  induction state, column, rest using scan_induction line with
  | slashes column rest =>
      rw [scanFrom_slashes] at member
      obtain rfl := List.mem_singleton.mp member
      rw [Mode.ofState_closed, marks_slashes, opensAt_cons]
      exact Or.inr (Or.inl ⟨rfl, rfl⟩)
  | opener column rest ih =>
      rw [scanFrom_opener] at member
      rw [Mode.ofState_closed, marks_opener, opensAt_cons, opensAt_cons]
      rcases ih (by simp_all) member with here | later
      · obtain startEq := CommentState.opened.inj here
        exact Or.inr (Or.inl ⟨startEq, congrArg some startEq⟩)
      · exact Or.inr (Or.inr (Or.inr later))
  | plain column c rest plain ih =>
      rw [scanFrom_plain plain] at member
      have other : c ≠ '\n' := fun newline => clear (by simp [newline])
      rw [Mode.ofState_closed, marks_plain plain, opensAt_cons, next_position other]
      rcases ih (by simp_all) member with here | later
      · simp at here
      · exact Or.inr (Or.inr later)
  | closedEnd column => simp [scanFrom_closed_nil] at member
  | closer position column rest ih =>
      rw [scanFrom_closer] at member
      rw [Mode.ofState_opened, marks_closer, opensAt_cons, opensAt_cons]
      rcases List.mem_cons.mp member with rfl | later
      · exact Or.inl rfl
      · rcases ih (by simp_all) later with here | behind
        · simp at here
        · exact Or.inr (Or.inr (Or.inr behind))
  | inside position column c rest inside ih =>
      rw [scanFrom_inside inside] at member
      have other : c ≠ '\n' := fun newline => clear (by simp [newline])
      rw [Mode.ofState_opened, marks_inside inside, opensAt_cons, next_position other]
      rcases ih (by simp_all) member with here | later
      · exact Or.inl here
      · exact Or.inr (Or.inr later)
  | openEnd position column =>
      obtain rfl := List.mem_singleton.mp member
      exact Or.inl rfl

end

/-! ### Whole documents -/

/-- What the comments reported for a line and the state handed on after it have to
do with the characters of the document and the mode of the lexer after the
line. -/
structure Exact (marks : List Mark) (after : Mode) (line : Line) (comments : List Token)
    (state : CommentState) : Prop where
  covered_iff : ∀ column < line.width,
    (∃ comment ∈ comments, comment.Covers line column) ↔
      ∃ opened, CommentAt marks opened (line.position column)
  opened_iff : ∀ position, state = .opened position ↔ after = .block position
  opensAt_start : ∀ comment ∈ comments, OpensAt marks comment.found.start
  commentAt_start : ∀ comment ∈ comments, ∀ column < line.width,
    comment.Covers line column →
      CommentAt marks comment.found.start (line.position column)
  closed_before_last : ∀ comment ∈ comments.dropLast, comment.closed = true
  open_last_iff : ∀ position, state = .opened position ↔
    ∃ comment, comments.getLast? = some comment ∧ comment.closed = false ∧
      comment.found.start = position

/-- The lexer before a line, as the scanner sees it: all characters passed lie on
earlier lines, and an open block was opened at one of them. -/
structure Passed (before : List Mark) (number : Nat) (state : CommentState) : Prop where
  line_lt : ∀ mark ∈ before, mark.place.line < number
  opensAt : ∀ position, state = .opened position → OpensAt before position

theorem Passed.start (number : Nat) : Passed [] number .closed :=
  ⟨fun mark member => by simp at member, fun position opened => by simp at opened⟩

theorem Passed.carried {before : List Mark} {line : Line} {state : CommentState}
    (passed : Passed before line.number state) : Carried line 0 state := by
  cases state with
  | closed => trivial
  | opened position =>
      obtain ⟨mark, member, placeEq, -⟩ := passed.opensAt position rfl
      have earlier := passed.line_lt mark member
      rw [placeEq] at earlier
      exact ⟨Nat.le_of_lt earlier, by simp [bodyStart, Nat.ne_of_lt earlier]⟩

/-- The comments of one line are exact, whatever stands on the other lines. -/
theorem exact_scan (line : Line) {before later : List Mark} {state : CommentState}
    (clear : '\n' ∉ line.text) (passed : Passed before line.number state)
    (behind : ∀ mark ∈ later, mark.place.line = line.number →
      line.width ≤ mark.place.column) :
    Exact (before ++ (marks (.ofState state) (line.position 0) line.text ++ later))
      (modeAfter (.ofState state) (line.position 0) line.text) line
      (scan line state).1 (scan line state).2 := by
  have widthEq : 0 + Text.width line.text = line.width := Nat.zero_add _
  have local_iff : ∀ opened, ∀ column < line.width,
      CommentAt (before ++ (marks (.ofState state) (line.position 0) line.text ++ later))
          opened (line.position column) ↔
        CommentAt (marks (.ofState state) (line.position 0) line.text) opened
          (line.position column) := by
    intro opened column within
    rw [commentAt_append, commentAt_append]
    -- Earlier characters lie on other lines, and later ones behind the end of this one.
    constructor
    · rintro (⟨mark, member, -, sameLine, -⟩ | here | ⟨mark, member, -, sameLine, startLe, -⟩)
      · exact absurd sameLine (Nat.ne_of_lt (passed.line_lt mark member))
      · exact here
      · have widthLe := behind mark member sameLine
        exact absurd within (Nat.not_lt.mpr (Nat.le_trans widthLe startLe))
    · exact fun here => Or.inr (Or.inl here)
  have covers_iff := fun opened column =>
    covers_iff_commentAt clear widthEq passed.carried opened column (Nat.zero_le column)
  refine ⟨?_, ?_, ?_, ?_, ?_, ?_⟩
  · intro column within
    constructor
    · rintro ⟨comment, member, covers⟩
      refine ⟨comment.found.start, (local_iff _ column within).mpr ?_⟩
      exact (covers_iff _ column).mp ⟨comment, member, rfl, covers⟩
    · rintro ⟨opened, inComment⟩
      obtain ⟨comment, member, -, covers⟩ :=
        (covers_iff opened column).mpr ((local_iff _ column within).mp inComment)
      exact ⟨comment, member, covers⟩
  · exact (modeAfter_endsAs clear 0 _ rfl).eq_block_iff
  · intro comment member
    rw [opensAt_append, opensAt_append]
    rcases opensAt_of_mem_scanFrom state 0 line.text clear member with carriedOver | here
    · exact Or.inl (passed.opensAt _ carriedOver)
    · exact Or.inr (Or.inl here)
  · intro comment member column within covers
    exact (local_iff _ column within).mpr
      ((covers_iff _ column).mp ⟨comment, member, rfl, covers⟩)
  · exact closed_of_mem_dropLast state 0 line.text
  · exact opened_iff_getLast? state 0 line.text

/-- The comments of each line, and the state handed on after it. -/
def scanLines : CommentState → List Line → List (List Token × CommentState)
  | _, [] => []
  | state, line :: others =>
      scan line state :: scanLines (scan line state).2 others

/-- The characters of a document are those of its first line, the line feed, and
those of the other lines, read in the state that is handed on. -/
theorem marks_joinLines_cons {text : Text} (clear : '\n' ∉ text) (state : CommentState)
    (number : Nat) (next : Text) (others : List Text) :
    ∃ newline : Mark, newline.place = ⟨number, Text.width text⟩ ∧ newline.char = '\n' ∧
      marks (.ofState state) ⟨number, 0⟩ (Text.joinLines (text :: next :: others)) =
        marks (.ofState state) ⟨number, 0⟩ text ++
          newline :: marks (.ofState (scan ⟨number, text⟩ state).2) ⟨number + 1, 0⟩
            (Text.joinLines (next :: others)) := by
  have ends : (modeAfter (.ofState state) ⟨number, 0⟩ text).EndsAs
      (scan ⟨number, text⟩ state).2 := modeAfter_endsAs clear 0 _ rfl
  rw [Text.joinLines_cons_cons, marks_append_cons (by decide) (by decide), marks_cons,
    ends.step_newline, Position.after_of_not_mem clear, Nat.zero_add]
  exact ⟨_, rfl, rfl, rfl⟩

theorem modeAfter_joinLines_cons {text : Text} (clear : '\n' ∉ text) (state : CommentState)
    (number : Nat) (next : Text) (others : List Text) :
    modeAfter (.ofState state) ⟨number, 0⟩ (Text.joinLines (text :: next :: others)) =
      modeAfter (.ofState (scan ⟨number, text⟩ state).2) ⟨number + 1, 0⟩
        (Text.joinLines (next :: others)) := by
  have ends : (modeAfter (.ofState state) ⟨number, 0⟩ text).EndsAs
      (scan ⟨number, text⟩ state).2 := modeAfter_endsAs clear 0 _ rfl
  rw [Text.joinLines_cons_cons, modeAfter_append_cons (by decide) (by decide),
    modeAfter_cons, ends.step_newline, Position.after_of_not_mem clear]
  rfl

/-- The lexer has passed a line, with its line ending, as the scanner sees it. -/
theorem Passed.next {before : List Mark} {number : Nat} {state : CommentState}
    (passed : Passed before number state) {text : Text} (clear : '\n' ∉ text)
    {ending : List Mark} (sameLine : ∀ mark ∈ ending, mark.place.line = number) :
    Passed (before ++ (marks (.ofState state) ⟨number, 0⟩ text ++ ending)) (number + 1)
      (scan ⟨number, text⟩ state).2 where
  line_lt := by
    intro mark member
    rcases List.mem_append.mp member with earlier | here
    · exact Nat.lt_succ_of_lt (passed.line_lt mark earlier)
    · rcases List.mem_append.mp here with onLine | atEnd
      · exact Nat.lt_succ_of_le (Nat.le_of_eq (place_of_mem_marks clear onLine).1)
      · exact Nat.lt_succ_of_le (Nat.le_of_eq (sameLine mark atEnd))
  opensAt := by
    intro position opened
    obtain ⟨comment, isLast, -, rfl⟩ := (opened_iff_getLast? state 0 text position).mp opened
    rw [opensAt_append, opensAt_append]
    rcases opensAt_of_mem_scanFrom state 0 text clear (List.mem_of_getLast? isLast)
      with carriedOver | here
    · exact Or.inl (passed.opensAt _ carriedOver)
    · exact Or.inr (Or.inl here)

theorem width_le_of_mem_later {text : Text} {number : Nat} {newline : Mark} {mode : Mode}
    {rest : Text} (placeEq : newline.place = ⟨number, Text.width text⟩) {mark : Mark}
    (member : mark ∈ newline :: marks mode ⟨number + 1, 0⟩ rest)
    (sameLine : mark.place.line = number) : Text.width text ≤ mark.place.column := by
  rcases List.mem_cons.mp member with rfl | later
  · exact Nat.le_of_eq (congrArg Position.column placeEq).symm
  · have lineLe : number + 1 ≤ mark.place.line := line_le_of_mem_marks later
    omega

/-- What the scanner reports for a line of a document agrees with the lexer, if it
did so for the lines before. -/
theorem exact_of_passed {texts : List Text} (clear : ∀ text ∈ texts, '\n' ∉ text)
    {before : List Mark} {first : Nat} {state : CommentState}
    (passed : Passed before first state) {index : Nat} {line : Line}
    (lineAt : (Line.numbered first texts)[index]? = some line) :
    ∃ comments after, (scanLines state (Line.numbered first texts))[index]? =
        some (comments, after) ∧
      Exact (before ++ marks (.ofState state) ⟨first, 0⟩ (Text.joinLines texts))
        (modeAfter (.ofState state) ⟨first, 0⟩ (Text.joinLines (texts.take (index + 1))))
        line comments after := by
  -- By induction on the lines passed, over which `Passed` is handed on.
  induction index generalizing texts before first state with
  | zero =>
      cases texts with
      | nil => simp [Line.numbered] at lineAt
      | cons text others =>
          obtain rfl : (⟨first, text⟩ : Line) = line := by
            simpa [Line.numbered] using lineAt
          have textClear := clear text List.mem_cons_self
          refine ⟨(scan ⟨first, text⟩ state).1, (scan ⟨first, text⟩ state).2, rfl, ?_⟩
          have taken : Text.joinLines ((text :: others).take (0 + 1)) = text :=
            Text.joinLines_singleton text
          rw [taken]
          cases others with
          | nil =>
              have exact : Exact
                  (before ++ (marks (.ofState state) ⟨first, 0⟩ text ++ []))
                  (modeAfter (.ofState state) ⟨first, 0⟩ text) ⟨first, text⟩ _ _ :=
                exact_scan ⟨first, text⟩ textClear passed (by simp)
              simpa using exact
          | cons next others =>
              obtain ⟨newline, placeEq, -, marksEq⟩ :=
                marks_joinLines_cons textClear state first next others
              rw [marksEq]
              exact exact_scan ⟨first, text⟩ textClear passed fun mark member sameLine =>
                width_le_of_mem_later placeEq member sameLine
  | succ index ih =>
      cases texts with
      | nil => simp [Line.numbered] at lineAt
      | cons text others =>
          cases others with
          | nil => simp [Line.numbered] at lineAt
          | cons next others =>
              have textClear := clear text List.mem_cons_self
              obtain ⟨newline, placeEq, -, marksEq⟩ :=
                marks_joinLines_cons textClear state first next others
              have sameLine : ∀ mark ∈ [newline], mark.place.line = first := by
                intro mark member
                rw [List.mem_singleton.mp member, placeEq]
              obtain ⟨comments, after, reported, exact⟩ :=
                ih (fun other member => clear other (List.mem_cons_of_mem _ member))
                  (passed.next textClear sameLine) lineAt
              refine ⟨comments, after, reported, ?_⟩
              rw [marksEq, List.take_succ_cons, List.take_succ_cons,
                modeAfter_joinLines_cons textClear]
              rw [List.take_succ_cons] at exact
              simpa using exact

end Comment

end Pinpoint
