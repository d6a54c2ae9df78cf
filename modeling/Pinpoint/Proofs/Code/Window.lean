import Mathlib.Data.List.Forall2
import Pinpoint.Pattern.Search
import Pinpoint.Proofs.Comment.Scan
import Pinpoint.Proofs.Pattern.Occurrences

/-!
# Windows of code

The code of a document is what the lexer leaves: the stretches of characters
between comments and line feeds.  A pattern is searched for in each stretch on
its own.  On one line this is what the spans between the comments are searched
for, and a limit only cuts the list of matches short.
-/

namespace Pinpoint

open Lexer

/-- A stretch of code on one line: where it starts, and its text. -/
structure Window where
  start : Position
  text : Text
  deriving DecidableEq

namespace Window

/-- The window of characters that stand together. -/
def ofMarks? : List Mark → Option Window
  | [] => none
  | mark :: rest => some ⟨mark.place, mark.char :: rest.map (·.char)⟩

/-- What is left of a window from a position on.  Nothing is left if the position
lies behind the window, or inside one of its characters. -/
def from? (position : Position) (window : Window) : Option Window :=
  if window.start.line < position.line then none
  else if window.start.line = position.line ∧ window.start.column < position.column then
    (Text.dropBytes? (position.column - window.start.column) window.text).map (⟨position, ·⟩)
  else some window

/-- The matches of a pattern in a window, which is a text of its own. -/
def occurrences (pattern : Pattern) (window : Window) : List Match :=
  (pattern.occurrences window.text).map fun found =>
    ⟨found.text, ⟨window.start.line, window.start.column + found.start⟩,
      ⟨window.start.line, window.start.column + found.stop⟩⟩

end Window

namespace Code

/-- A character that belongs to no code: a line feed, or part of a comment. -/
def isBreak (mark : Mark) : Bool :=
  mark.comment.isSome || mark.char == '\n'

/-- The windows of a text, from left to right. -/
def windows (marks : List Mark) : List Window :=
  (marks.splitOnP isBreak).filterMap Window.ofMarks?

/-- The matches of a pattern in windows at or behind a position. -/
def matchesFrom (windows : List Window) (pattern : Pattern) (position : Position) :
    List Match :=
  (windows.filterMap (Window.from? position)).flatMap (Window.occurrences pattern)

/-- The first match of a pattern in windows at or behind a position. -/
def next? (windows : List Window) (pattern : Pattern) (position : Position) :
    Option Match :=
  (matchesFrom windows pattern position).head?

/-! ### Windows of marked characters -/

@[simp]
theorem windows_nil : windows [] = [] := rfl

theorem windows_append_cons {mark : Mark} (breaks : isBreak mark = true)
    (left right : List Mark) :
    windows (left ++ mark :: right) = windows left ++ windows right := by
  rw [windows, List.splitOnP_append_cons left right breaks, List.filterMap_append]
  rfl

theorem windows_cons_of_isBreak {mark : Mark} (breaks : isBreak mark = true)
    (rest : List Mark) : windows (mark :: rest) = windows rest :=
  windows_append_cons breaks [] rest

theorem windows_eq_nil {marks : List Mark} (breaks : ∀ mark ∈ marks, isBreak mark = true) :
    windows marks = [] := by
  induction marks with
  | nil => rfl
  | cons mark rest ih =>
      rw [windows_cons_of_isBreak (breaks mark List.mem_cons_self)]
      exact ih fun other member => breaks other (List.mem_cons_of_mem _ member)

/-- Characters of code, from a place on. -/
def codeMarks : Position → Text → List Mark
  | _, [] => []
  | place, c :: rest => ⟨c, place, none⟩ :: codeMarks (place.next c) rest

theorem codeMarks_append_singleton (place : Position) (text : Text) (c : Char) :
    codeMarks place (text ++ [c]) = codeMarks place text ++ [⟨c, place.after text, none⟩] := by
  induction text generalizing place with
  | nil => rfl
  | cons d rest ih => simp [codeMarks, ih]

theorem char_map_codeMarks (place : Position) (text : Text) :
    (codeMarks place text).map (·.char) = text := by
  induction text generalizing place with
  | nil => rfl
  | cons c rest ih => simp [codeMarks, ih]

theorem isBreak_of_mem_codeMarks {place : Position} {text : Text} (clear : '\n' ∉ text)
    {mark : Mark} (member : mark ∈ codeMarks place text) : isBreak mark = false := by
  induction text generalizing place with
  | nil => simp [codeMarks] at member
  | cons c rest ih =>
      rcases List.mem_cons.mp member with rfl | later
      · have other : c ≠ '\n' := fun newline => clear (by simp [newline])
        simp [isBreak, other]
      · exact ih (fun newline => clear (List.mem_cons_of_mem _ newline)) later

theorem windows_codeMarks {place : Position} {text : Text} (clear : '\n' ∉ text) :
    windows (codeMarks place text) = if text = [] then [] else [⟨place, text⟩] := by
  rw [windows, List.splitOnP_eq_singleton fun mark => isBreak_of_mem_codeMarks clear]
  cases text with
  | nil => rfl
  | cons c rest => simp [codeMarks, Window.ofMarks?, char_map_codeMarks]

end Code

/-! ### Windows of a line -/

/-- A span of a line is where a window stands. -/
def Line.CutsOut (line : Line) (span : Span) (window : Window) : Prop :=
  window.start = line.position span.start ∧
    Text.between? span.start span.stop line.text = some window.text

namespace Code

open Comment

variable {line : Line}

/-- A piece of code between two columns is a window, unless it is empty. -/
theorem forall₂_between {before piece rest : Text}
    (textEq : line.text = before ++ (piece ++ rest)) (clear : '\n' ∉ piece) :
    List.Forall₂ line.CutsOut
      (Span.between (Text.width before) (Text.width before + Text.width piece))
      (windows (codeMarks (line.position (Text.width before)) piece)) := by
  rw [windows_codeMarks clear, Span.between]
  by_cases empty : piece = []
  · simp [empty]
  · have positive := Text.width_pos empty
    rw [if_neg (by omega), if_neg empty]
    refine List.Forall₂.cons ⟨rfl, ?_⟩ List.Forall₂.nil
    rw [textEq]
    exact Text.between?_append before piece rest rfl rfl

/-- The spans between the comments reported from a column on are where the windows
of the lexer stand.  In code, `piece` has been read since the last comment. -/
def LeavesWindows (line : Line) (column : Nat) (rest : Text) : CommentState → Prop
  | .closed => ∀ before piece, line.text = before ++ (piece ++ rest) →
      column = Text.width before + Text.width piece →
      List.Forall₂ line.CutsOut
        (Span.outside (Text.width before) line.width
          (spansOn line (scanFrom line .closed column rest).1))
        (windows (codeMarks (line.position (Text.width before)) piece ++
          marks .code (line.position column) rest))
  | .opened position => ∀ before, line.text = before ++ rest → column = Text.width before →
      Carried line column (.opened position) →
      List.Forall₂ line.CutsOut
        (Span.outside (bodyStart line position) line.width
          (spansOn line (scanFrom line (.opened position) column rest).1))
        (windows (marks (.block position) (line.position column) rest))

theorem leavesWindows (clear : '\n' ∉ line.text) (state : CommentState) (column : Nat)
    (rest : Text) : LeavesWindows line column rest state := by
  induction state, column, rest using scan_induction line with
  | slashes column rest =>
      intro before piece textEq columnEq
      have within : column ≤ line.width := by
        rw [Line.width, textEq]
        simp
        omega
      have textClear : '\n' ∉ piece ∧ '\n' ∉ rest := by
        rw [textEq] at clear
        simp_all
      have noCode : windows (marks (.lineComment (line.position column))
          ((line.position column).next '/') ('/' :: rest)) = [] := by
        refine windows_eq_nil fun mark member => ?_
        rw [isBreak, comment_of_mem_lineComment (by simp [textClear.2]) member]
        rfl
      rw [scanFrom_slashes, spansOn_cons [] (clampTo_toLineEnd within), marks_slashes,
        windows_append_cons rfl, noCode, columnEq]
      simpa [Span.outside, spansOn, Span.between] using forall₂_between textEq textClear.1
  | opener column rest ih =>
      intro before piece textEq columnEq
      have textClear : '\n' ∉ piece := by
        rw [textEq] at clear
        simp_all
      have widthEq : column + 2 + Text.width rest = line.width := by
        rw [Line.width, textEq]
        simp
        omega
      have opening := carried_position line column
      -- The block comes first among the comments reported, and `piece` is the gap in front.
      obtain ⟨comment, others, stop, commentsEq, -, clamped, -, -⟩ :=
        inOrder_scanFrom _ widthEq opening
      have inBlock := ih (before ++ (piece ++ ['/', '*'])) (by simp [textEq])
        (by simp; omega) opening
      rw [bodyStart_position] at clamped inBlock
      rw [commentsEq, spansOn_cons others clamped, Span.outside, Span.between_self,
        List.nil_append] at inBlock
      rw [scanFrom_opener, commentsEq, spansOn_cons others clamped, Span.outside,
        marks_opener, windows_append_cons rfl, windows_cons_of_isBreak rfl]
      have passed := forall₂_between textEq textClear
      rw [← columnEq] at passed
      exact List.rel_append passed inBlock
  | plain column c rest plain ih =>
      intro before piece textEq columnEq
      have textClear : c ≠ '\n' ∧ '\n' ∉ piece := by
        rw [textEq] at clear
        simp_all [eq_comm]
      have behind := ih before (piece ++ [c]) (by simp [textEq]) (by simp; omega)
      rw [codeMarks_append_singleton, Position.after_of_not_mem textClear.2] at behind
      rw [scanFrom_plain plain, marks_plain plain, next_position textClear.1]
      simpa [Line.position, columnEq] using behind
  | closedEnd column =>
      intro before piece textEq columnEq
      have textClear : '\n' ∉ piece := by
        rw [textEq] at clear
        simp_all
      have widthEq : line.width = Text.width before + Text.width piece := by
        simp [Line.width, textEq]
      simpa [scanFrom, spansOn, Span.outside, widthEq] using forall₂_between textEq textClear
  | closer position column rest ih =>
      intro before textEq columnEq carried
      have clamped := clampTo_block true (carried.of_le (Nat.le_add_right column 2))
      have behind := ih (before ++ ['*', '/']) [] (by simp [textEq]) (by simp; omega)
      rw [scanFrom_closer, spansOn_cons _ clamped, marks_closer, windows_cons_of_isBreak rfl,
        windows_cons_of_isBreak rfl, Span.outside, Span.between_self, List.nil_append,
        next_position (by decide), next_position (by decide)]
      simpa [codeMarks, columnEq] using behind
  | inside position column c rest inside ih =>
      intro before textEq columnEq carried
      have other : c ≠ '\n' := by
        rw [textEq] at clear
        simp_all [eq_comm]
      have behind := ih (before ++ [c]) (by simp [textEq]) (by simp; omega)
        (carried.of_le (Nat.le_add_right column c.utf8Size))
      rw [scanFrom_inside inside, marks_inside inside, windows_cons_of_isBreak rfl,
        next_position other]
      exact behind
  | openEnd position column =>
      intro before textEq columnEq carried
      have widthEq : line.width = column := by
        simp [Line.width, textEq, columnEq]
      have clamped := clampTo_block false (widthEq ▸ carried)
      rw [scanFrom, spansOn_cons [] clamped]
      simp [Span.outside, spansOn]

end Code

end Pinpoint
