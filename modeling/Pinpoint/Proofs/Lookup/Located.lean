import Pinpoint.Proofs.Code.Source
import Pinpoint.Proofs.Lookup.Declarations
import Pinpoint.Proofs.Pattern.WholeWord

/-!
# Where located tokens stand

Whatever a lookup finds is a piece of a line that stands at or behind the start and
outside the comments, also when the pattern that is searched for is given from
outside.
-/

namespace Pinpoint

open Lexer Comment

/-- A match is a piece of the code of a text, at or behind a column of a line. -/
structure Match.Genuine (text : Text) (document : LineSource) (line column : Nat)
    (found : Match) : Prop where
  line_le : line ≤ found.start.line
  line_lt : found.start.line < document.lineCount
  sameLine : found.stop.line = found.start.line
  nonempty : found.start.column < found.stop.column
  onLine : ∃ home, document.line? found.start.line = some home ∧
    found.stop.column ≤ home.width ∧
      Text.between? found.start.column found.stop.column home.text = some found.text
  behindStart : (document.clip line column).atMost found.start = true
  outsideComments : ∀ place, found.start.column ≤ place → place < found.stop.column →
    ∀ opened, ¬ CommentAt (marks .code ⟨line, 0⟩ (Text.fromLine line text)) opened
      ⟨found.start.line, place⟩

theorem Window.Contains.between? {line : Line} {window : Window} {found : Match}
    (contained : window.Contains found) (shows : line.Shows window) :
    Text.between? found.start.column found.stop.column line.text = some found.text := by
  obtain ⟨left, right, textEq, -, startEq, stopEq⟩ := contained
  have cut := shows.2
  rw [textEq] at cut
  exact Text.between?_of_append cut (congrArg Position.column startEq)
    (congrArg Position.column stopEq)

/-- A lookup that finds a token had tasks, a first line and a pattern that compiles. -/
theorem start_of_locate_ok {document : LineSource} {kind : TokenKind} {line column : Nat}
    {search : Option Text} {found : Match}
    (located : locate document kind line column search = .ok found) :
    ∃ tasks first pattern, Task.listFor kind = some tasks ∧
      document.line? line = some first ∧ search.map Pattern.parse? = Option.map some pattern := by
  rw [locate] at located
  cases started : Lookup.start document kind line column search with
  | error error => simp [started] at located
  | ok lookup =>
      obtain ⟨tasks, first, pattern, listed, lineAt, compiles, -⟩ := Lookup.eq_of_start started
      exact ⟨tasks, first, pattern, listed, lineAt, compiles⟩

/-- A match stands in a window of the code of a text that is read from a line on. -/
structure Match.StandsIn (text : Text) (document : LineSource) (line : Nat) (home : Line)
    (window : Window) (found : Match) : Prop where
  homeAt : document.line? found.start.line = some home
  contains : window.Contains found
  shows : home.Shows window
  stops : home.CodeStops (window.start.column + Text.width window.text)
  avoids : ∀ place, window.start.column ≤ place →
    place < window.start.column + Text.width window.text →
      ∀ opened, ¬ CommentAt (marks .code ⟨line, 0⟩ (Text.fromLine line text)) opened
        ⟨found.start.line, place⟩

theorem exists_standsIn {text : Text} {document : LineSource} (isOf : document.IsOf text)
    {line : Nat} {window : Window} (member : window ∈ document.codeFrom line) {found : Match}
    (contains : window.Contains found) :
    line ≤ found.start.line ∧ found.start.line < document.lineCount ∧
      ∃ home, found.StandsIn text document line home window := by
  have rows := isOf.rows line
  have rowsEq : (LineSource.rowsOf text).drop line =
      ((Text.splitLines text).drop line).map LineSource.rowOf := List.map_drop.symm
  have clear : ∀ raw ∈ (Text.splitLines text).drop line, '\n' ∉ raw := fun raw rawMember =>
    Text.newline_not_mem_of_mem_splitLines (List.mem_of_mem_drop rawMember)
  rw [rows.codeFrom_eq, rowsEq] at member
  obtain ⟨index, row, rowAt, shows, stops, avoids⟩ :=
    Code.clear_of_mem_codeFrom clear (Passed.start line) member
  have lineEq : found.start.line = line + index := contains.bounds.1.trans shows.1
  have indexLt : index < ((LineSource.rowsOf text).drop line).length := by
    rw [rowsEq]
    exact (List.getElem?_eq_some_iff.mp rowAt).1
  have countEq := rows.lineCount_eq
  have within : line < (Text.splitLines text).length := by
    simp only [LineSource.rowsOf, List.length_drop, List.length_map] at indexLt
    omega
  have homeAt : document.line? found.start.line = some ⟨line + index, row⟩ := by
    rw [lineEq, rows.line?_eq, rowsEq, rowAt]
    rfl
  refine ⟨by omega, by omega, _, homeAt, contains, shows, stops, ?_⟩
  rw [Text.fromLine_eq_joinLines within, lineEq]
  exact avoids

theorem exists_window_of_locate {text : Text} {document : LineSource} (isOf : document.IsOf text)
    {kind : TokenKind} {line column : Nat} {search : Option Text} {found : Match}
    (located : locate document kind line column search = .ok found) :
    ∃ window ∈ document.codeFrom line, window.Contains found ∧
      (document.clip line column).atMost found.start = true := by
  obtain ⟨tasks, first, pattern, listed, lineAt, compiles⟩ := start_of_locate_ok located
  rw [locate_eq_seek isOf listed lineAt column compiles] at located
  rw [LineSource.clip, lineAt]
  exact Code.mem_of_seek located

/-- The last task of a lookup looks for the pattern that is given from outside. -/
theorem Task.patternFor_last {kind : TokenKind} {tasks : List Task} {last : Task}
    (listed : listFor kind = some tasks) (isLast : tasks.getLast? = some last)
    (pattern : Pattern) : last.patternFor (some pattern) = pattern := by
  cases kind <;> simp [listFor] at listed <;> subst listed <;> simp at isLast <;>
    subst isLast <;> rfl

/-- A lookup that is given a whole word finds that word. -/
theorem text_eq_of_locate {text : Text} {document : LineSource} (isOf : document.IsOf text)
    {kind : TokenKind} {line column : Nat} {word : Text} {found : Match}
    (located : locate document kind line column (some (Pattern.wholeWord word)) = .ok found) :
    found.text = word := by
  obtain ⟨tasks, first, pattern, listed, lineAt, compiles⟩ := start_of_locate_ok located
  have patternEq : pattern = some (Pattern.exactly word) := by
    rw [Option.map_some, Pattern.parse?_wholeWord] at compiles
    cases pattern with
    | none => simp at compiles
    | some pattern =>
        split at compiles
        · exact congrArg some (Option.some.inj (Option.some.inj compiles)).symm
        · simp at compiles
  rw [locate_eq_seek isOf listed lineAt column compiles] at located
  obtain ⟨last, start, isLast, -, member⟩ := Code.exists_last_of_seek located
  rw [patternEq, Task.patternFor_last listed isLast, Code.matchesFrom] at member
  obtain ⟨window, -, inWindow⟩ := List.mem_flatMap.mp member
  obtain ⟨occurrence, occurs, rfl⟩ := List.mem_map.mp inWindow
  exact Pattern.text_eq_of_mem_occurrences occurs

/-- A token that is located stands in the code at or behind the start. -/
theorem genuine_of_locate {text : Text} {document : LineSource} (isOf : document.IsOf text)
    {kind : TokenKind} {line column : Nat} {search : Option Text} {found : Match}
    (located : locate document kind line column search = .ok found) :
    found.Genuine text document line column := by
  obtain ⟨window, member, contains, behindStart⟩ := exists_window_of_locate isOf located
  obtain ⟨lineLe, lineLt, home, stands⟩ := exists_standsIn isOf member contains
  obtain ⟨startLine, stopLine, startLe, nonempty, stopLe⟩ := contains.bounds
  have cut := contains.between? stands.shows
  refine ⟨lineLe, lineLt, stopLine.trans startLine.symm, nonempty,
    ⟨home, stands.homeAt, (Text.le_width_of_between? cut).2, cut⟩, behindStart, ?_⟩
  intro place placeLe placeLt opened
  exact stands.avoids place (by omega) (by omega) opened

set_option maxRecDepth 100000 in
/-- The token stands behind a comment over two lines that end with carriage returns. -/
theorem genuine_of_locate_behind_comment :
    (⟨"B".toList, ⟨1, 2⟩, ⟨1, 3⟩⟩ : Match).Genuine "message/* A\r\n*/B\r\n".toList
      (IndexedText.ofText "message/* A\r\n*/B\r\n".toList).source 0 0 :=
  have located : locate (IndexedText.ofText "message/* A\r\n*/B\r\n".toList).source
      .messageName 0 0 none = .ok ⟨"B".toList, ⟨1, 2⟩, ⟨1, 3⟩⟩ := by cbv
  genuine_of_locate .indexed located

end Pinpoint
