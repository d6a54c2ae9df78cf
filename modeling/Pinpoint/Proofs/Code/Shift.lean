import Pinpoint.Proofs.Lookup.Seek

/-!
# Code further down

Code that stands some lines further down has the same windows, as many lines further down,
and the same tokens are found in it.
-/

namespace Pinpoint

open Lexer

/-- The position as many lines further down. -/
def Position.down (lines : Nat) (position : Position) : Position :=
  ⟨position.line + lines, position.column⟩

/-- The match as many lines further down. -/
def Match.down (lines : Nat) (found : Match) : Match :=
  ⟨found.text, found.start.down lines, found.stop.down lines⟩

/-- The window as many lines further down. -/
def Window.down (lines : Nat) (window : Window) : Window :=
  ⟨window.start.down lines, window.text⟩

variable {lines : Nat}

theorem Position.next_down (position : Position) (c : Char) :
    (position.down lines).next c = (position.next c).down lines := by
  unfold next down
  split
  · simp only [Nat.add_right_comm]
  · rfl

namespace Lexer

def Mode.down (lines : Nat) : Mode → Mode
  | code => code
  | lineComment opened => lineComment (opened.down lines)
  | blockOpener opened => blockOpener (opened.down lines)
  | block opened => block (opened.down lines)
  | blockCloser opened => blockCloser (opened.down lines)

def Mark.down (lines : Nat) (mark : Mark) : Mark :=
  ⟨mark.char, mark.place.down lines, mark.comment.map (Position.down lines)⟩

theorem step_down (mode : Mode) (place : Position) (c : Char) (upcoming : Option Char) :
    step (mode.down lines) (place.down lines) c upcoming =
      (step mode place c upcoming).down lines := by
  cases mode with
  | code =>
      simp only [step, Mode.down]
      split
      · rfl
      · split <;> rfl
  | lineComment opened =>
      simp only [step, Mode.down]
      split <;> rfl
  | blockOpener opened => rfl
  | block opened =>
      simp only [step, Mode.down]
      split <;> rfl
  | blockCloser opened => rfl

theorem comment?_down (mode : Mode) (place : Position) (c : Char) (upcoming : Option Char) :
    comment? (mode.down lines) (place.down lines) c upcoming =
      (comment? mode place c upcoming).map (Position.down lines) := by
  cases mode with
  | code =>
      simp only [comment?, Mode.down]
      split <;> rfl
  | lineComment opened =>
      simp only [comment?, Mode.down]
      split <;> rfl
  | _ => rfl

theorem marks_down (mode : Mode) (place : Position) (text : Text) :
    marks (mode.down lines) (place.down lines) text =
      (marks mode place text).map (Mark.down lines) := by
  induction text generalizing mode place with
  | nil => simp
  | cons c rest ih =>
      rw [marks_cons, marks_cons, comment?_down, step_down, Position.next_down, ih]
      rfl

end Lexer

namespace Window

theorem ofMarks?_down (marks : List Mark) :
    ofMarks? (marks.map (Mark.down lines)) = (ofMarks? marks).map (Window.down lines) := by
  cases marks with
  | nil => rfl
  | cons mark rest =>
      have chars : (rest.map (Mark.down lines)).map (·.char) = rest.map (·.char) := by
        rw [List.map_map]
        rfl
      rw [List.map_cons, ofMarks?, chars]
      rfl

theorem from?_down (position : Position) (window : Window) :
    (window.down lines).from? (position.down lines) =
      (window.from? position).map (Window.down lines) := by
  simp only [from?, Window.down, Position.down, Nat.add_lt_add_iff_right, Nat.add_right_cancel_iff]
  split
  · rfl
  · split
    · rw [Option.map_map]
      rfl
    · rfl

theorem occurrences_down (pattern : Pattern) (window : Window) :
    (window.down lines).occurrences pattern =
      (window.occurrences pattern).map (Match.down lines) := by
  rw [occurrences, occurrences, List.map_map]
  rfl

end Window

namespace Code

theorem isBreak_down (mark : Mark) : isBreak (mark.down lines) = isBreak mark := by
  simp [isBreak, Mark.down]

private theorem splitOnP_map {α β : Type} (f : α → β) {breaks : β → Bool} {same : α → Bool}
    (agree : ∀ x, breaks (f x) = same x) (all : List α) :
    (all.map f).splitOnP breaks = (all.splitOnP same).map (List.map f) := by
  induction all with
  | nil => rfl
  | cons x rest ih =>
      rw [List.map_cons, List.splitOnP_cons_eq_if_modifyHead,
        List.splitOnP_cons_eq_if_modifyHead, agree, ih]
      split
      · rfl
      · cases List.splitOnP same rest <;> rfl

theorem windows_down (marks : List Mark) :
    windows (marks.map (Mark.down lines)) = (windows marks).map (Window.down lines) := by
  rw [windows, windows, splitOnP_map _ isBreak_down, List.filterMap_map, List.map_filterMap]
  exact List.filterMap_congr fun piece _ => Window.ofMarks?_down piece

theorem matchesFrom_down (windows : List Window) (pattern : Pattern) (position : Position) :
    matchesFrom (windows.map (Window.down lines)) pattern (position.down lines) =
      (matchesFrom windows pattern position).map (Match.down lines) := by
  induction windows with
  | nil => rfl
  | cons window rest ih =>
      rw [List.map_cons, matchesFrom_cons, matchesFrom_cons window, ih, List.map_append]
      congr 1
      rw [matchesFrom_singleton, matchesFrom_singleton, Window.from?_down]
      cases window.from? position with
      | none => rfl
      | some left => simpa using Window.occurrences_down pattern left

end Code

namespace Task

theorem chooseFieldType_down (cardinality : Bool) (found : List Match) :
    chooseFieldType cardinality (found.map (Match.down lines)) =
      (chooseFieldType cardinality found).map (Option.map (Match.down lines)) := by
  induction found generalizing cardinality with
  | nil => cases cardinality <;> rfl
  | cons first others ih =>
      cases cardinality with
      | true =>
          simp only [List.map_cons, chooseFieldType, Match.down]
          split <;> rfl
      | false =>
          simp only [List.map_cons, chooseFieldType, Match.down]
          split
          · exact ih true
          · split <;> rfl

/-- A task chooses by the texts of the matches, wherever these stand. -/
theorem choose_down (task : Task) (cardinality : Bool) (found : List Match) :
    task.choose cardinality (found.map (Match.down lines)) =
      (task.choose cardinality found).map (Option.map (Match.down lines)) := by
  cases task with
  | fieldType => exact chooseFieldType_down cardinality found
  | enumValueName =>
      cases found with
      | nil => rfl
      | cons first others =>
          simp only [choose, List.map_cons, chooseEnumValueName, Match.down]
          split <;> rfl
  | keyword kind => cases found <;> rfl
  | name kind dotted => cases found <;> rfl

end Task

namespace Code

theorem seek_down (windows : List Window) (search : Option Pattern) (target : TokenKind)
    (cardinality : Bool) (tasks : List Task) (position : Position) :
    seek (windows.map (Window.down lines)) search target cardinality tasks
        (position.down lines) =
      (seek windows search target cardinality tasks position).map (Match.down lines) := by
  induction tasks generalizing position with
  | nil => rfl
  | cons task later ih =>
      rw [seek, seek]
      simp only [matchesFrom_down, Task.choose_down]
      cases task.choose cardinality (matchesFrom windows _ position) with
      | error error => rfl
      | ok chosen =>
          cases chosen with
          | none => rfl
          | some found =>
              simp only [Except.map, Option.map_some]
              split
              · rfl
              · exact ih found.stop

end Code

end Pinpoint
