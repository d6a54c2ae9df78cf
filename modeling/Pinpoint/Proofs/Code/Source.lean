import Pinpoint.Proofs.Code.Document

/-!
# Code and the text it comes from

A window of code stands on one line of the document, as a piece of its text, and
none of its bytes belongs to a comment of the whole text, whose lines still have
their line endings.
-/

namespace Pinpoint

open Lexer Comment

namespace Lexer

/-- The lexer passes a line ending of which the line knows nothing, and goes on in the
state that is handed on. -/
theorem exists_ending {text : Text} (clear : '\n' ∉ text) {carriageReturn : Text}
    (isReturn : carriageReturn = [] ∨ carriageReturn = ['\r']) (state : CommentState)
    (number : Nat) (others : List Text) :
    ∃ ending : List Mark,
      (∀ mark ∈ ending, mark.place.line = number ∧ Text.width text ≤ mark.place.column) ∧
      marks (.ofState state) ⟨number, 0⟩
          (Text.joinLines ((text ++ carriageReturn) :: others)) =
        marks (.ofState state) ⟨number, 0⟩ text ++ (ending ++
          marks (.ofState (scan ⟨number, text⟩ state).2) ⟨number + 1, 0⟩
            (Text.joinLines others)) := by
  have ends : (modeAfter (.ofState state) ⟨number, 0⟩ text).EndsAs
      (scan ⟨number, text⟩ state).2 := modeAfter_endsAs clear 0 _ rfl
  have placeEq : (⟨number, 0⟩ : Position).after text = ⟨number, Text.width text⟩ := by
    rw [Position.after_of_not_mem clear, Nat.zero_add]
  rcases isReturn with rfl | rfl
  · rw [List.append_nil]
    cases others with
    | nil => exact ⟨[], by simp, by simp⟩
    | cons next others =>
        rw [Text.joinLines_cons_cons, marks_append_cons (by decide) (by decide), marks_cons,
          ends.step_newline, placeEq]
        exact ⟨[_], by simp, rfl⟩
  · have stays := fun upcoming => ends.step_of_ne (c := '\r') (by decide) (by decide) (by decide)
      ⟨number, Text.width text⟩ upcoming
    cases others with
    | nil =>
        rw [Text.joinLines_singleton, marks_append_cons (by decide) (by decide), marks_cons,
          placeEq, Text.joinLines_nil, marks_nil, marks_nil]
        exact ⟨[_], by simp, rfl⟩
    | cons next others =>
        rw [Text.joinLines_cons_cons, List.append_assoc, List.singleton_append,
          marks_append_cons (by decide) (by decide), marks_cons, marks_cons, placeEq,
          (stays _).step_newline, Position.next_of_ne (by decide)]
        exact ⟨[_, _], by simp, rfl⟩

end Lexer

theorem LineSource.exists_rowOf_append (raw : Text) :
    ∃ carriageReturn, (carriageReturn = [] ∨ carriageReturn = ['\r']) ∧
      raw = rowOf raw ++ carriageReturn := by
  rw [rowOf, Line.ofRaw]
  split
  · rename_i isLast
    exact ⟨['\r'], Or.inr rfl, (List.dropLast_append_getLast? _ isLast).symm⟩
  · exact ⟨[], Or.inl rfl, (List.append_nil raw).symm⟩

/-- A window is a piece of a line. -/
def Line.Shows (line : Line) (window : Window) : Prop :=
  window.start.line = line.number ∧
    Text.between? window.start.column (window.start.column + Text.width window.text)
      line.text = some window.text

/-- Code stops at a column: the line ends there, or a slash follows. -/
def Line.CodeStops (line : Line) (column : Nat) : Prop :=
  ∃ left right, line.text = left ++ right ∧ Text.width left = column ∧
    (right = [] ∨ right.head? = some '/')

namespace Code

theorem exists_cutsOut {line : Line} {spans : List Span} {windows : List Window}
    (cuts : List.Forall₂ line.CutsOut spans windows) {window : Window}
    (member : window ∈ windows) : ∃ span ∈ spans, line.CutsOut span window := by
  induction cuts with
  | nil => simp at member
  | cons cut _ ih =>
      rcases List.mem_cons.mp member with rfl | later
      · exact ⟨_, List.mem_cons_self, cut⟩
      · obtain ⟨span, spanMember, found⟩ := ih later
        exact ⟨span, List.mem_cons_of_mem _ spanMember, found⟩

/-- From a column on, the gaps between comments stop where the code does. -/
def GapsStop (line : Line) (column : Nat) (rest : Text) : CommentState → Prop
  | .closed => ∀ before, line.text = before ++ rest → column = Text.width before →
      ∀ first, ∀ gap ∈ Span.outside first line.width
        (spansOn line (scanFrom line .closed column rest).1), line.CodeStops gap.stop
  | .opened position => ∀ before, line.text = before ++ rest → column = Text.width before →
      Carried line column (.opened position) →
      ∀ gap ∈ Span.outside (bodyStart line position) line.width
        (spansOn line (scanFrom line (.opened position) column rest).1),
        line.CodeStops gap.stop

theorem gapsStop (line : Line) (state : CommentState) (column : Nat) (rest : Text) :
    GapsStop line column rest state := by
  induction state, column, rest using scan_induction line with
  | slashes column rest =>
      intro before textEq columnEq first gap member
      have within : column ≤ line.width := by
        rw [Line.width, textEq]
        simp
        omega
      rw [scanFrom_slashes, spansOn_cons [] (clampTo_toLineEnd within), spansOn,
        List.filterMap_nil, Span.outside, Span.outside, Span.between_self, List.append_nil]
        at member
      obtain ⟨-, rfl⟩ := Span.mem_between.mp member
      exact ⟨before, _, textEq, columnEq.symm, Or.inr rfl⟩
  | opener column rest ih =>
      intro before textEq columnEq first gap member
      have widthEq : column + 2 + Text.width rest = line.width := by
        rw [Line.width, textEq]
        simp
        omega
      have opening := carried_position line column
      obtain ⟨comment, others, stop, commentsEq, -, clamped, -, -⟩ :=
        inOrder_scanFrom _ widthEq opening
      have inBlock := ih (before ++ ['/', '*']) (by simp [textEq]) (by simp; omega) opening
      rw [bodyStart_position] at clamped inBlock
      rw [commentsEq, spansOn_cons others clamped, Span.outside, Span.between_self,
        List.nil_append] at inBlock
      rw [scanFrom_opener, commentsEq, spansOn_cons others clamped, Span.outside] at member
      rcases List.mem_append.mp member with front | behind
      · obtain ⟨-, rfl⟩ := Span.mem_between.mp front
        exact ⟨before, _, textEq, columnEq.symm, Or.inr rfl⟩
      · exact inBlock gap behind
  | plain column c rest plain ih =>
      intro before textEq columnEq
      rw [scanFrom_plain plain]
      exact ih (before ++ [c]) (by simp [textEq]) (by simp; omega)
  | closedEnd column =>
      intro before textEq columnEq first gap member
      obtain ⟨-, rfl⟩ := Span.mem_between.mp member
      exact ⟨line.text, [], (List.append_nil _).symm, rfl, Or.inl rfl⟩
  | closer position column rest ih =>
      intro before textEq columnEq carried
      have clamped := clampTo_block true (carried.of_le (Nat.le_add_right column 2))
      rw [scanFrom_closer, spansOn_cons _ clamped, Span.outside, Span.between_self,
        List.nil_append]
      exact ih (before ++ ['*', '/']) (by simp [textEq]) (by simp; omega) (column + 2)
  | inside position column c rest inside ih =>
      intro before textEq columnEq carried
      rw [scanFrom_inside inside]
      exact ih (before ++ [c]) (by simp [textEq]) (by simp; omega)
        (carried.of_le (Nat.le_add_right column c.utf8Size))
  | openEnd position column =>
      intro before textEq columnEq carried gap member
      have widthEq : line.width = column := by
        simp [Line.width, textEq, columnEq]
      have clamped := clampTo_block false (widthEq ▸ carried)
      rw [scanFrom, spansOn_cons [] clamped] at member
      simp [Span.outside, spansOn] at member

/-- The windows of a line are pieces of it that go on as far as the code does, and hold
no byte of a comment. -/
theorem clear_of_mem_windows (line : Line) {state : CommentState} {marks : List Mark}
    {after : Mode} (clear : '\n' ∉ line.text) (carried : Carried line 0 state)
    (exact : Exact marks after line (scan line state).1 (scan line state).2)
    {window : Window}
    (member : window ∈ windows (Lexer.marks (.ofState state) (line.position 0) line.text)) :
    line.Shows window ∧ line.CodeStops (window.start.column + Text.width window.text) ∧
      ∀ column, window.start.column ≤ column →
        column < window.start.column + Text.width window.text →
          ∀ opened, ¬ CommentAt marks opened (line.position column) := by
  obtain ⟨span, spanMember, startEq, textEq⟩ :=
    exists_cutsOut (cutsOut_outside clear carried) member
  obtain ⟨stopEq, stopLe⟩ := Text.le_width_of_between? textEq
  have avoids := (Span.not_holds_of_mem_outside (ordered_scan carried) spanMember).2
  have columnEq : window.start.column = span.start := congrArg Position.column startEq
  have stops : line.CodeStops span.stop := by
    have gaps := gapsStop line state 0 line.text
    cases state with
    | closed => exact gaps [] rfl rfl 0 span spanMember
    | opened position =>
        have bodyEq := Nat.le_zero.mp carried.2
        exact gaps [] rfl rfl carried span (by rwa [bodyEq])
  refine ⟨⟨congrArg Position.line startEq, by rw [columnEq, stopEq, textEq]⟩,
    by rwa [columnEq, stopEq], ?_⟩
  intro column startLe ltStop opened inComment
  have inSpan : span.Holds column := ⟨by omega, by omega⟩
  obtain ⟨comment, commentMember, covers⟩ :=
    (exact.covered_iff column (by rw [Line.width]; omega)).mpr ⟨opened, inComment⟩
  obtain ⟨covered, coveredMember, holds⟩ := exists_mem_spansOn commentMember covers
  exact avoids column inSpan covered coveredMember holds

/-- The windows of a document stand on its lines, go on as far as the code does, and hold
no byte of a comment of the text with its line endings. -/
theorem clear_of_mem_codeFrom {raws : List Text} (clear : ∀ raw ∈ raws, '\n' ∉ raw)
    {before : List Mark} {first : Nat} {state : CommentState}
    (passed : Passed before first state) {window : Window}
    (member : window ∈ windows (marks (.ofState state) ⟨first, 0⟩
      (Text.joinLines (raws.map LineSource.rowOf)))) :
    ∃ index text, (raws.map LineSource.rowOf)[index]? = some text ∧
      (Line.mk (first + index) text).Shows window ∧
      (Line.mk (first + index) text).CodeStops
        (window.start.column + Text.width window.text) ∧
      ∀ column, window.start.column ≤ column →
        column < window.start.column + Text.width window.text →
          ∀ opened, ¬ CommentAt (before ++ marks (.ofState state) ⟨first, 0⟩
            (Text.joinLines raws)) opened ⟨first + index, column⟩ := by
  induction raws generalizing before first state with
  | nil => simp at member
  | cons raw others ih =>
      have rowClear := LineSource.newline_not_mem_rowOf (clear raw List.mem_cons_self)
      -- The lexer reads the carriage return, which the row has lost.
      obtain ⟨carriageReturn, isReturn, rawEq⟩ := LineSource.exists_rowOf_append raw
      obtain ⟨ending, atEnd, marksEq⟩ := exists_ending rowClear isReturn state first others
      rw [← rawEq] at marksEq
      rw [List.map_cons, windows_joinLines_cons rowClear] at member
      rcases List.mem_append.mp member with here | later
      · have behind : ∀ mark ∈ ending ++ marks
            (.ofState (scan ⟨first, LineSource.rowOf raw⟩ state).2) ⟨first + 1, 0⟩
              (Text.joinLines others), mark.place.line = first →
            Text.width (LineSource.rowOf raw) ≤ mark.place.column := by
          intro mark markMember sameLine
          rcases List.mem_append.mp markMember with onLine | onOthers
          · exact (atEnd mark onLine).2
          · have lineLe : first + 1 ≤ mark.place.line := line_le_of_mem_marks onOthers
            omega
        obtain ⟨shows, stops, avoids⟩ := clear_of_mem_windows ⟨first, LineSource.rowOf raw⟩ rowClear
          passed.carried (exact_scan ⟨first, LineSource.rowOf raw⟩ rowClear passed behind) here
        refine ⟨0, LineSource.rowOf raw, rfl, shows, stops, ?_⟩
        rw [marksEq]
        exact avoids
      · obtain ⟨index, text, rowAt, shows, stops, avoids⟩ :=
          ih (fun other otherMember => clear other (List.mem_cons_of_mem _ otherMember))
            (passed.next rowClear fun mark markMember => (atEnd mark markMember).1) later
        have numberEq : first + 1 + index = first + (index + 1) := by omega
        rw [numberEq] at shows stops
        refine ⟨index + 1, text, rowAt, shows, stops, ?_⟩
        rw [marksEq, ← numberEq]
        simpa using avoids

end Code

end Pinpoint
