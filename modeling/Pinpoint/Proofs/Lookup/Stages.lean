import Pinpoint.Proofs.Lookup.Session

/-!
# Stages of a run

The lookups that a run goes through: one for every task that is started and every token
that is recorded on a line, line by line.  They end with the lookup that the run leaves.
-/

namespace Pinpoint

namespace Lookup

/-- The lookup at every stage of the work of its tasks on a line: before each task, and
after each token that it records. -/
def stagesOfTasks (line : Line) (spans : List Span) : List Task → Lookup → List Lookup
  | [], lookup => [lookup.waitingFor []]
  | task :: later, lookup =>
      let waiting := lookup.waitingFor (task :: later)
      match task.resolve ⟨line, spans, lookup.cursor.column, lookup.searchFor later⟩
          lookup.tokens with
      | .error _ => [waiting]
      | .ok resolved =>
          resolved.tokens.scanl record waiting ++
            if resolved.done then
              stagesOfTasks line spans later (resolved.tokens.foldl record waiting)
            else []

/-- The spans of a line that are searched, what the comments leave of it. -/
def searched (line : Line) (lookup : Lookup) : Except LookupError (List Span) :=
  line.gaps ((lookup.scanComments line).tokens.spansOn .comment line)

/-- The lookup at every stage of the work on a line. -/
def stages (line : Line) (lookup : Lookup) : List Lookup :=
  lookup :: lookup.scanComments line ::
    match lookup.searched line with
    | .error _ => []
    | .ok spans => stagesOfTasks line spans lookup.pending (lookup.scanComments line)

/-- The lines that are worked on when up to `lines` lines are, each with the lookup that
comes to it. -/
def visitsOf : (lines : Nat) → Lookup → List (Line × Lookup)
  | 0, _ => []
  | lines + 1, lookup =>
      match lookup.document.line? lookup.cursor.line with
      | none => []
      | some line =>
          (line, lookup) ::
            match lookup.scanLine line with
            | (.ok none, after) => visitsOf lines after.nextLine
            | _ => []

/-- The lines that the next run works on, each with the lookup that comes to it. -/
def visits (lookup : Lookup) : List (Line × Lookup) :=
  visitsOf (lookup.document.lineCount - lookup.cursor.line) lookup

/-! ### The last stage -/

/-- The work of the tasks ends with the lookup that they leave. -/
theorem getLast?_stagesOfTasks (line : Line) (spans : List Span) (tasks : List Task)
    (lookup : Lookup) :
    (stagesOfTasks line spans tasks lookup).getLast? =
      some (runTasks line spans tasks lookup).2 := by
  induction tasks generalizing lookup with
  | nil => rfl
  | cons task later ih =>
      rw [stagesOfTasks]
      cases resolvedEq : task.resolve ⟨line, spans, lookup.cursor.column, lookup.searchFor later⟩
          lookup.tokens with
      | error error =>
          rw [runTasks_of_resolve_error resolvedEq]
          rfl
      | ok resolved =>
          rw [runTasks_of_ok resolvedEq, List.getLast?_append, List.getLast?_scanl]
          cases resolved.done with
          | false => rfl
          | true =>
              simp only [if_true, ih]
              rfl

/-- So does the work on a line. -/
theorem getLast?_stages (line : Line) (lookup : Lookup) :
    (lookup.stages line).getLast? = some (lookup.scanLine line).2 := by
  rw [stages, scanLine, searched]
  cases line.gaps ((lookup.scanComments line).tokens.spansOn .comment line) with
  | error error => rfl
  | ok spans =>
      have last := getLast?_stagesOfTasks line spans lookup.pending (lookup.scanComments line)
      change ([lookup, lookup.scanComments line] ++
        stagesOfTasks line spans lookup.pending (lookup.scanComments line)).getLast? = _
      rw [List.getLast?_append, last, Option.some_or]
      change some (runTasks line spans (lookup.scanComments line).pending
        (lookup.scanComments line)).2 = _
      simp only
      split
      · rename_i outcome
        rw [outcome]
      · rename_i outcome
        rw [outcome]

/-- What the work on a line keeps, and the step to the next line, holds of the lookups that
come to the lines of a run, and of the one that the run leaves. -/
theorem holds_of_visits {holds : Lookup → Prop}
    (onLine : ∀ (line : Line) (lookup : Lookup),
      lookup.document.line? lookup.cursor.line = some line → holds lookup →
        holds (lookup.scanLine line).2)
    (onward : ∀ lookup, holds lookup → holds lookup.nextLine) {lookup : Lookup}
    (first : holds lookup) :
    (∀ visit ∈ lookup.visits,
        visit.2.document.line? visit.2.cursor.line = some visit.1 ∧ holds visit.2) ∧
      holds lookup.run.2 := by
  rw [visits, run]
  generalize lookup.document.lineCount - lookup.cursor.line = lines
  induction lines generalizing lookup with
  | zero => exact ⟨by simp [visitsOf], first⟩
  | succ lines ih =>
      rw [visitsOf, runLines]
      cases homeAt : lookup.document.line? lookup.cursor.line with
      | none => exact ⟨by simp, first⟩
      | some home =>
          have here := onLine home lookup homeAt first
          simp only [List.forall_mem_cons]
          generalize lookup.scanLine home = scanned at here
          obtain ⟨outcome, after⟩ := scanned
          cases outcome with
          | error error => exact ⟨⟨⟨homeAt, first⟩, by simp⟩, here⟩
          | ok result =>
              cases result with
              | some found => exact ⟨⟨⟨homeAt, first⟩, by simp⟩, here⟩
              | none =>
                  obtain ⟨later, last⟩ := ih (onward after here)
                  exact ⟨⟨⟨homeAt, first⟩, later⟩, last⟩

/-- The same for any number of runs. -/
theorem holds_after {holds : Lookup → Prop}
    (onRun : ∀ lookup, holds lookup → holds lookup.run.2) (runs : Nat) {lookup : Lookup}
    (first : holds lookup) : holds (lookup.after runs) := by
  induction runs generalizing lookup with
  | zero => exact first
  | succ runs ih => exact ih (onRun lookup first)

end Lookup

end Pinpoint
