import Pinpoint.Lookup
import Pinpoint.Proofs.Code.Search

/-!
# Seeking in code

The tasks of a lookup, read as a search through windows of code.  Every task
chooses from all the matches of its pattern behind the last token, whichever
windows they fall in, and the next task starts where the chosen token ends.
-/

namespace Pinpoint

namespace Task

/-- The pattern of a task.  A given pattern replaces it, unless the task looks for
a field type. -/
def patternFor (search : Option Pattern) : Task → Pattern
  | keyword kind => search.getD (Vocabulary.keyword kind)
  | name _ dotted =>
      search.getD (if dotted then Vocabulary.dottedIdentifier else Vocabulary.identifier)
  | fieldType => Vocabulary.fieldTypeCandidate
  | enumValueName => search.getD Vocabulary.identifier

/-- The field type among candidates for it, where a cardinality may have been
passed before. -/
def chooseFieldType : Bool → List Match → Except LookupError (Option Match)
  | _, [] => .ok none
  | true, found :: _ =>
      if found.text = "group".toList then .error .unexpectedGroup else .ok (some found)
  | false, found :: others =>
      if Vocabulary.cardinalities.contains found.text then chooseFieldType true others
      else if Vocabulary.notFieldTypes.contains found.text then
        .error (.unexpectedFieldType found.text)
      else .ok (some found)

/-- The name of an enum value, unless another statement starts there. -/
def chooseEnumValueName : List Match → Except LookupError (Option Match)
  | [] => .ok none
  | found :: _ =>
      if Vocabulary.notEnumValueNames.contains found.text then
        .error (.unexpectedEnumValueName found.text)
      else .ok (some found)

/-- The token of a task among the matches of its pattern. -/
def choose (cardinality : Bool) (found : List Match) : Task → Except LookupError (Option Match)
  | fieldType => chooseFieldType cardinality found
  | enumValueName => chooseEnumValueName found
  | keyword _ => .ok found.head?
  | name _ _ => .ok found.head?

theorem choose_nil (cardinality : Bool) (task : Task) :
    task.choose cardinality [] = .ok none := by
  cases task <;> rfl

theorem choose_of_ne {task : Task} (other : task ≠ .fieldType) (cardinality : Bool)
    (found : List Match) : task.choose cardinality found = task.choose false found := by
  cases task with
  | fieldType => exact absurd rfl other
  | keyword kind => rfl
  | name kind dotted => rfl
  | enumValueName => rfl

theorem mem_of_chooseFieldType {cardinality : Bool} {found : List Match} {token : Match}
    (chosen : chooseFieldType cardinality found = .ok (some token)) : token ∈ found := by
  induction found generalizing cardinality with
  | nil => simp [chooseFieldType] at chosen
  | cons first others ih =>
      cases cardinality with
      | true =>
          rw [chooseFieldType] at chosen
          split at chosen <;> simp_all
      | false =>
          rw [chooseFieldType] at chosen
          split at chosen
          · exact List.mem_cons_of_mem _ (ih chosen)
          · split at chosen <;> simp_all

theorem mem_of_choose {task : Task} {cardinality : Bool} {found : List Match} {token : Match}
    (chosen : task.choose cardinality found = .ok (some token)) : token ∈ found := by
  cases task with
  | fieldType => exact mem_of_chooseFieldType chosen
  | enumValueName =>
      cases found with
      | nil => simp [choose, chooseEnumValueName] at chosen
      | cons first others =>
          simp only [choose, chooseEnumValueName] at chosen
          split at chosen <;> simp_all
  | keyword kind => exact List.mem_of_head? (Except.ok.inj chosen)
  | name kind dotted => exact List.mem_of_head? (Except.ok.inj chosen)

end Task

namespace Code

/-- Go through the tasks from a position on.  The given pattern is for the last of
them. -/
def seek (windows : List Window) (search : Option Pattern) (target : TokenKind)
    (cardinality : Bool) : List Task → Position → Except LookupError Match
  | [], _ => .error (.notFound target)
  | task :: later, position =>
      let pattern := task.patternFor (if later.isEmpty then search else none)
      match task.choose cardinality (matchesFrom windows pattern position) with
      | .error error => .error error
      | .ok none => .error (.notFound target)
      | .ok (some found) =>
          if later.isEmpty then .ok found
          else seek windows search target cardinality later found.stop

variable {windows : List Window} {search : Option Pattern} {target : TokenKind}

theorem seek_nil (cardinality : Bool) (tasks : List Task) (position : Position) :
    seek [] search target cardinality tasks position = .error (.notFound target) := by
  cases tasks with
  | nil => rfl
  | cons task later => rw [seek, matchesFrom_nil, Task.choose_nil]

/-- A cardinality in front of other tokens does not matter. -/
theorem seek_of_not_mem {tasks : List Task} (others : .fieldType ∉ tasks)
    (cardinality : Bool) (position : Position) :
    seek windows search target cardinality tasks position =
      seek windows search target false tasks position := by
  induction tasks generalizing position with
  | nil => rfl
  | cons task later ih =>
      have other : task ≠ .fieldType := fun same => others (by simp [same])
      have laterOthers : .fieldType ∉ later := fun member => others (by simp [member])
      rw [seek, seek, Task.choose_of_ne other]
      simp only [ih laterOthers]

theorem seek_cons_of_error {cardinality : Bool} {task : Task} {later : List Task}
    {position : Position} {error : LookupError}
    (refused : task.choose cardinality (matchesFrom windows
      (task.patternFor (if later.isEmpty then search else none)) position) = .error error) :
    seek windows search target cardinality (task :: later) position = .error error := by
  rw [seek]
  simp only [refused]

theorem seek_cons_of_some {cardinality : Bool} {task : Task} {later : List Task}
    {position : Position} {token : Match}
    (chosen : task.choose cardinality (matchesFrom windows
      (task.patternFor (if later.isEmpty then search else none)) position) = .ok (some token)) :
    seek windows search target cardinality (task :: later) position =
      if later.isEmpty then .ok token
      else seek windows search target cardinality later token.stop := by
  rw [seek]
  simp only [chosen]

/-- A search can go on elsewhere if the first task makes the same choice there. -/
theorem seek_cons_congr {cardinality passed : Bool} {task : Task} {later : List Task}
    {position other : Position} (others : .fieldType ∉ later)
    (same : task.choose cardinality (matchesFrom windows
        (task.patternFor (if later.isEmpty then search else none)) position) =
      task.choose passed (matchesFrom windows
        (task.patternFor (if later.isEmpty then search else none)) other)) :
    seek windows search target cardinality (task :: later) position =
      seek windows search target passed (task :: later) other := by
  rw [seek, seek]
  simp only [same, seek_of_not_mem others cardinality, seek_of_not_mem others passed]

/-- What is found only depends on the matches behind the position, if these are
followed by matches behind them. -/
theorem seek_congr {others : List Window} {number : Nat}
    (same : ∀ pattern (position : Position), number < position.line →
      matchesFrom windows pattern position = matchesFrom others pattern position)
    (behind : ∀ window ∈ others, number < window.start.line)
    {position : Position} (positionBehind : number < position.line) (cardinality : Bool)
    (tasks : List Task) :
    seek windows search target cardinality tasks position =
      seek others search target cardinality tasks position := by
  induction tasks generalizing position with
  | nil => rfl
  | cons task later ih =>
      rw [seek, seek]
      simp only [same _ position positionBehind]
      split
      · rfl
      · rfl
      · rename_i found chosen
        obtain ⟨window, windowMember, contained, -⟩ :=
          contains_of_mem_matchesFrom (Task.mem_of_choose chosen)
        -- The next search starts at the end of a match, which is behind the line as well.
        have windowBehind := behind window windowMember
        rw [ih (by rw [contained.bounds.2.1]; exact windowBehind)]

/-- What is found is a match of the pattern of the last task, at or behind the position. -/
theorem exists_last_of_seek {cardinality : Bool} {tasks : List Task} {position : Position}
    {found : Match}
    (sought : seek windows search target cardinality tasks position = .ok found) :
    ∃ last start, tasks.getLast? = some last ∧ position.atMost start = true ∧
      found ∈ matchesFrom windows (last.patternFor search) start := by
  induction tasks generalizing position with
  | nil => simp [seek] at sought
  | cons task later ih =>
      rw [seek] at sought
      split at sought
      · simp at sought
      · simp at sought
      · rename_i token chosen
        have member := Task.mem_of_choose chosen
        cases later with
        | nil =>
            obtain rfl := Except.ok.inj sought
            exact ⟨task, position, rfl, position.atMost_refl, member⟩
        | cons next others =>
            obtain ⟨last, start, isLast, behind, lastMember⟩ := ih sought
            refine ⟨last, start, by rw [List.getLast?_cons_cons, isLast], ?_, lastMember⟩
            obtain ⟨window, -, contained, before⟩ := contains_of_mem_matchesFrom member
            have bounds := contained.bounds
            simp only [Position.atMost_iff] at before behind ⊢
            omega

/-- What is found is a match in the windows, at or behind the position. -/
theorem mem_of_seek {cardinality : Bool} {tasks : List Task} {position : Position}
    {found : Match}
    (sought : seek windows search target cardinality tasks position = .ok found) :
    ∃ window ∈ windows, window.Contains found ∧ position.atMost found.start = true := by
  obtain ⟨last, start, -, behind, member⟩ := exists_last_of_seek sought
  obtain ⟨window, windowMember, contained, before⟩ := contains_of_mem_matchesFrom member
  refine ⟨window, windowMember, contained, ?_⟩
  simp only [Position.atMost_iff] at before behind ⊢
  omega

end Code

end Pinpoint
