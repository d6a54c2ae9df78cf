import Pinpoint.Proofs.Lookup.Failures
import Pinpoint.Proofs.Lookup.Session

/-!
# Lookups that have found their target

A lookup that is run again after it has found its target works on the line of the target
a second time.  It records the comments of that line once more, and this may make them
overlap; apart from that it comes to the same result.
-/

namespace Pinpoint

/-- A match covers a part of a line, if only an empty one. -/
def Match.Touches (found : Match) (line : Nat) : Prop :=
  found.start.line ≤ line ∧ line ≤ found.stop.line

theorem Match.touches_of_clampTo {found : Match} {home : Line} {span : Span}
    (clamped : found.clampTo home = some span) : found.Touches home.number := by
  rw [clampTo] at clamped
  split at clamped
  · simp at clamped
  · rename_i inside
    rw [not_or, Nat.not_lt, Nat.not_lt] at inside
    exact inside

namespace Lookup

variable {target : TokenKind} {tasks : List Task} {line : Nat} {lookup : Lookup} {home : Line}
  {found : Match}

/-- A lookup has found its target on the line of its cursor, where the comments have been
recorded. -/
structure Finished (line : Nat) (home : Line) (found : Match) (lookup : Lookup) : Prop where
  placed : lookup.Placed line
  homeAt : lookup.document.line? lookup.cursor.line = some home
  pending_eq : lookup.pending = []
  target_ne : lookup.target ≠ .comment
  first_eq : (lookup.tokens.first? lookup.target).map (·.found) = some found
  scanned : ∃ state, lookup.comments = (Comment.scan home state).2 ∧
    ∀ comment ∈ (Comment.scan home state).1, comment ∈ lookup.tokens.get .comment

theorem Finished.number_eq (finished : lookup.Finished line home found) :
    home.number = lookup.cursor.line :=
  finished.placed.regular.number_eq _ _ finished.homeAt

theorem Finished.found_line (finished : lookup.Finished line home found) :
    found.start.line = lookup.cursor.line := by
  obtain ⟨token, firstEq, rfl⟩ := Option.map_eq_some_iff.mp finished.first_eq
  have member : token ∈ lookup.tokens.get lookup.target := List.mem_of_mem_head? firstEq
  have isRecorded : (lookup.target, token) ∈ lookup.recorded :=
    mem_recorded.mpr ⟨TokenMap.mem_get.mp member, finished.target_ne⟩
  exact finished.placed.here _ isRecorded rfl

theorem get_scanComments (lookup : Lookup) (home : Line) {kind : TokenKind}
    (other : kind ≠ .comment) :
    (lookup.scanComments home).tokens.get kind = lookup.tokens.get kind := by
  rw [scanComments, TokenMap.get_extend, if_neg (Ne.symm other), List.append_nil]

theorem Lies.stop_le_width (lies : lookup.Lies line found)
    (numberEq : home.number = lookup.cursor.line)
    (homeAt : lookup.document.line? lookup.cursor.line = some home) {span : Span}
    (clamped : found.clampTo home = some span) : span.stop ≤ home.width := by
  obtain ⟨other, otherAt, stopLe⟩ := lies.within
  have touches := Match.touches_of_clampTo clamped
  have stopLine : found.stop.line = lookup.cursor.line := by
    have cursorLe := numberEq ▸ touches.2
    exact Nat.le_antisymm lies.stop_le cursorLe
  rw [stopLine, homeAt] at otherAt
  obtain rfl := Option.some.inj otherAt
  rw [Match.clampTo] at clamped
  split at clamped
  · simp at clamped
  · obtain rfl := Option.some.inj clamped
    have notBehind : ¬ home.number < found.stop.line := by omega
    simp only [if_neg notBehind]
    exact stopLe

/-- Finding the comments of the line once more keeps the target. -/
theorem Finished.scanComments (finished : lookup.Finished line home found) :
    (lookup.scanComments home).Finished line home found where
  placed := finished.placed.scanComments finished.homeAt
  homeAt := finished.homeAt
  pending_eq := finished.pending_eq
  target_ne := finished.target_ne
  first_eq := by
    have getEq := get_scanComments lookup home finished.target_ne
    rw [TokenMap.first?]
    change ((lookup.scanComments home).tokens.get lookup.target).head?.map _ = some found
    rw [getEq]
    exact finished.first_eq
  scanned := by
    refine ⟨lookup.comments, rfl, ?_⟩
    intro comment member
    rw [Lookup.scanComments, TokenMap.get_extend, if_pos rfl]
    exact List.mem_append_right _ member

/-! ### What the next run comes to -/

section

variable (finished : lookup.Finished line home found)

include finished

theorem Finished.run_eq :
    lookup.run = match lookup.scanLine home with
      | (.error error, after) => (.error error, after)
      | (.ok (some found), after) => (.ok found, after)
      | (.ok none, after) =>
          runLines (lookup.document.lineCount - lookup.cursor.line - 1) after.nextLine := by
  have lineLt := finished.placed.regular.lt_lineCount _ _ finished.homeAt
  have linesEq : lookup.document.lineCount - lookup.cursor.line =
      lookup.document.lineCount - lookup.cursor.line - 1 + 1 := by omega
  rw [run, linesEq, runLines]
  simp only [finished.homeAt]
  rfl

/-- As long as the comments do not overlap, the target is found again. -/
theorem Finished.run_of_gaps {spans : List Span}
    (gapsEq : home.gaps ((lookup.scanComments home).tokens.spansOn .comment home) = .ok spans) :
    lookup.run = (.ok found, lookup.scanComments home) := by
  have again := finished.scanComments
  have noTasks : (lookup.scanComments home).waitingFor [] = lookup.scanComments home := by
    have pendingEq := again.pending_eq
    generalize lookup.scanComments home = scanned at pendingEq
    rw [waitingFor, ← pendingEq]
  have noWork : runTasks home spans [] (lookup.scanComments home) =
      (.ok (), lookup.scanComments home) := by
    rw [runTasks]
    exact congrArg (Prod.mk _) noTasks
  have scannedEq : lookup.scanLine home = (.ok (some found), lookup.scanComments home) := by
    rw [scanLine]
    simp only [gapsEq, again.pending_eq, noWork, again.first_eq]
  rw [finished.run_eq, scannedEq]

/-- Comments that overlap are an error of the line. -/
theorem Finished.run_of_error {error : LookupError}
    (gapsEq : home.gaps ((lookup.scanComments home).tokens.spansOn .comment home) =
      .error error) :
    lookup.run = (.error (.rangeIntersection found.start.line), lookup.scanComments home) := by
  have again := finished.scanComments
  have within : ∀ span ∈ (lookup.scanComments home).tokens.spansOn .comment home,
      span.stop ≤ home.width := by
    intro span member
    obtain ⟨comment, recorded, clamped⟩ := List.mem_filterMap.mp member
    have lies := again.placed.lies (.comment, comment) (TokenMap.mem_get.mp recorded)
    exact lies.stop_le_width finished.number_eq finished.homeAt clamped
  have errorEq := Line.error_of_gaps within gapsEq
  have lineEq : home.number = found.start.line :=
    finished.number_eq.trans finished.found_line.symm
  have scannedEq : lookup.scanLine home = (.error error, lookup.scanComments home) := by
    rw [scanLine]
    simp only [gapsEq]
  rw [finished.run_eq, scannedEq, errorEq, lineEq]

theorem Finished.run_cases :
    lookup.run = (.ok found, lookup.scanComments home) ∨
      lookup.run = (.error (.rangeIntersection found.start.line), lookup.scanComments home) := by
  cases gapsEq : home.gaps ((lookup.scanComments home).tokens.spansOn .comment home) with
  | ok spans => exact Or.inl (finished.run_of_gaps gapsEq)
  | error error => exact Or.inr (finished.run_of_error gapsEq)

theorem Finished.run_state : lookup.run.2 = lookup.scanComments home := by
  rcases finished.run_cases with again | again
  · rw [again]
  · rw [again]

theorem Finished.after (runs : Nat) : (lookup.after runs).Finished line home found := by
  induction runs generalizing lookup with
  | zero => exact finished
  | succ runs ih =>
      rw [Lookup.after, finished.run_state]
      exact ih finished.scanComments

/-! ### Where no comment is in the way -/

/-- On a line without comments there is nothing to record. -/
theorem Finished.scanComments_eq (closed : lookup.comments = .closed)
    (clear : ∀ comment ∈ lookup.tokens.get .comment,
      ¬ comment.found.Touches found.start.line) : lookup.scanComments home = lookup := by
  obtain ⟨state, -, reported⟩ := finished.scanned
  have none : (Comment.scan home state).1 = [] := by
    rw [List.eq_nil_iff_forall_not_mem]
    intro comment member
    have recorded := reported comment member
    have lies := finished.placed.lies (.comment, comment) (TokenMap.mem_get.mp recorded)
    have stopLine : comment.found.stop.line = found.start.line := by
      rw [Comment.stop_line_of_mem_scanFrom state 0 home.text member, finished.number_eq,
        finished.found_line]
    have startLe : comment.found.start.line ≤ found.start.line := stopLine ▸ lies.lines_le
    exact clear comment recorded ⟨startLe, Nat.le_of_eq stopLine.symm⟩
  obtain ⟨rfl, endsClosed⟩ := Comment.closed_of_scanFrom_eq_nil state 0 home.text none
  have scanEq : Comment.scan home lookup.comments = ([], .closed) := by
    rw [closed]
    exact Prod.ext none endsClosed
  have tokensEq : lookup.tokens.extend .comment [] = lookup.tokens := by
    rw [TokenMap.extend, List.map_nil, List.append_nil]
  rw [Lookup.scanComments, scanEq]
  simp only [tokensEq]
  rw [← closed]

theorem Finished.run_of_clear (closed : lookup.comments = .closed)
    (clear : ∀ comment ∈ lookup.tokens.get .comment,
      ¬ comment.found.Touches found.start.line) : lookup.run = (.ok found, lookup) := by
  have scannedEq := finished.scanComments_eq closed clear
  have noSpans : (lookup.scanComments home).tokens.spansOn .comment home = [] := by
    rw [scannedEq, TokenMap.spansOn, List.filterMap_eq_nil_iff]
    intro comment recorded
    cases clamped : comment.found.clampTo home with
    | none => rfl
    | some span =>
        have touches := Match.touches_of_clampTo clamped
        rw [finished.number_eq, ← finished.found_line] at touches
        exact absurd touches (clear comment recorded)
  have gapsEq : home.gaps ((lookup.scanComments home).tokens.spansOn .comment home) =
      .ok [home.span] := by
    rw [noSpans]
    rfl
  rw [finished.run_of_gaps gapsEq, scannedEq]
end

theorem after_eq_of_run (same : lookup.run.2 = lookup) (runs : Nat) :
    lookup.after runs = lookup := by
  induction runs with
  | zero => rfl
  | succ runs ih =>
      rw [Lookup.after, same]
      exact ih

/-! ### Where the target was found -/

/-- A run that finds the target finds it on a line that it has come to. -/
theorem exists_scanLine_of_runLines (lines : Nat) (lookup : Lookup)
    (foundEq : (runLines lines lookup).1 = .ok found) :
    ∃ before home, lookup.Reaches before ∧
      before.document.line? before.cursor.line = some home ∧
      before.scanLine home = (.ok (some found), (runLines lines lookup).2) := by
  induction lines generalizing lookup with
  | zero => simp [runLines] at foundEq
  | succ lines ih =>
      rw [runLines] at foundEq ⊢
      cases homeAt : lookup.document.line? lookup.cursor.line with
      | none => simp [homeAt] at foundEq
      | some home =>
          simp only [homeAt] at foundEq ⊢
          generalize scannedEq : lookup.scanLine home = scanned at foundEq
          obtain ⟨outcome, after⟩ := scanned
          cases outcome with
          | error error => simp at foundEq
          | ok result =>
              cases result with
              | some token =>
                  obtain rfl := Except.ok.inj foundEq
                  exact ⟨lookup, home, .refl, homeAt, scannedEq⟩
              | none =>
                  simp only at foundEq ⊢
                  obtain ⟨before, last, reaches, lastAt, lastEq⟩ := ih after.nextLine foundEq
                  have whole := (reaches_nextLine homeAt scannedEq).trans reaches
                  exact ⟨before, last, whole, lastAt, lastEq⟩

theorem finished_of_scanLine {before after : Lookup} (pipeline : Task.Pipeline target tasks)
    (serves : ∀ task ∈ tasks, task.Serves target) (targetEq : before.target = target)
    (placed : before.Placed line) (queued : before.Queued tasks)
    (homeAt : before.document.line? before.cursor.line = some home)
    (scannedEq : before.scanLine home = (.ok (some found), after)) :
    after.Finished line home found := by
  have stays := Stays.of_acts (before.acts_scanLine home)
  have reaches := reaches_scanLine homeAt
  rw [scannedEq] at stays reaches
  obtain ⟨afterPlaced, afterQueued⟩ := placed_of_reaches pipeline placed queued reaches
  have afterTarget : after.target = target := stays.target_eq.trans targetEq
  have pendingServes : ∀ task ∈ (before.scanComments home).pending, task.Serves target :=
    fun task member => serves task (queued.mem_tasks member)
  rw [scanLine] at scannedEq
  split at scannedEq
  · simp at scannedEq
  · rename_i spans gapsEq
    have works := runTasks_works home spans (before.scanComments home).pending
      (before.scanComments home) (targetEq ▸ pendingServes)
    generalize runTasks home spans _ _ = outcome at works scannedEq
    cases works with
    | failed error after expected => simp at scannedEq
    | worked worked keeps laterServes =>
        obtain ⟨firstEq, rfl⟩ := Prod.mk.inj scannedEq
        have firstEq := Except.ok.inj firstEq
        refine
          { placed := afterPlaced
            homeAt := ?_
            pending_eq := ?_
            target_ne := ?_
            first_eq := firstEq
            scanned := ⟨before.comments, keeps.comments_eq, ?_⟩ }
        · rw [stays.document_eq, stays.line_eq]
          exact homeAt
        · rw [← afterQueued.contains_target_iff pipeline, ← afterTarget]
          obtain ⟨token, tokenEq, -⟩ := Option.map_eq_some_iff.mp firstEq
          have member : token ∈ worked.tokens.get worked.target := List.mem_of_mem_head? tokenEq
          cases recorded : worked.tokens.get worked.target with
          | nil => simp [recorded] at member
          | cons first others => simp [TokenMap.contains, recorded]
        · rw [afterTarget]
          obtain ⟨others, last, tasksEq, kindEq⟩ := pipeline.exists_last
          rw [← kindEq]
          apply pipeline.kind_ne_comment
          simp [tasksEq]
        · intro comment member
          rw [keeps.recorded_eq, Lookup.scanComments, TokenMap.get_extend, if_pos rfl]
          exact List.mem_append_right _ member

theorem exists_finished {text : Text} {document : LineSource} (isOf : document.IsOf text)
    {kind : TokenKind} {line column : Nat} {search : Option Text} {lookup : Lookup}
    (started : start document kind line column search = .ok lookup) {runs : Nat}
    (foundEq : (lookup.after runs).run.1 = .ok found) :
    ∃ home, (lookup.after (runs + 1)).Finished line home found := by
  obtain ⟨tasks, first, pattern, listed, lineAt, -, rfl⟩ := eq_of_start started
  have pipeline := Task.pipeline_of_listFor listed
  obtain ⟨before, home, reaches, homeAt, scannedEq⟩ :=
    exists_scanLine_of_runLines _ _ foundEq
  have whole := (reaches_after runs _).trans reaches
  obtain ⟨placed, queued⟩ := placed_of_reaches pipeline
    (placed_fresh isOf.regular kind tasks pattern lineAt (Nat.min_le_right column first.width))
    (queued_fresh document kind tasks pattern line (min column first.width)) whole
  refine ⟨home, ?_⟩
  rw [after_add]
  exact finished_of_scanLine pipeline (Task.serves_of_listFor listed) (same_of_reaches whole).2
    placed queued homeAt scannedEq

/-- Once a run has found a match, every later run finds the same match, or the comments
that it has recorded on the line of the match overlap.  It changes nothing but the
comments, and not even these if the line is all code. -/
theorem rerun_of_found {text : Text} {document : LineSource} (isOf : document.IsOf text)
    {kind : TokenKind} {line column : Nat} {search : Option Text} {lookup : Lookup}
    (started : start document kind line column search = .ok lookup) {runs : Nat}
    {found : Match} (foundEq : (lookup.after runs).run.1 = .ok found) {later : Nat}
    (isLater : runs < later) :
    ((lookup.after later).run.1 = .ok found ∨
      (lookup.after later).run.1 = .error (.rangeIntersection found.start.line)) ∧
    (lookup.after later).run.2.cursor = (lookup.after later).cursor ∧
    (∀ kind, kind ≠ .comment →
      (lookup.after later).run.2.tokens.get kind = (lookup.after later).tokens.get kind) ∧
    ((∀ comment ∈ (lookup.after later).tokens.get .comment,
        ¬ comment.found.Touches found.start.line) →
      (lookup.after later).comments = .closed →
      ∀ further, ((lookup.after later).after further).run = (.ok found, lookup.after later)) := by
  obtain ⟨home, first⟩ := exists_finished isOf started foundEq
  obtain ⟨between, rfl⟩ := Nat.exists_eq_add_of_le (Nat.succ_le_of_lt isLater)
  have finished := first.after between
  rw [← after_add] at finished
  generalize lookup.after (runs + 1 + between) = again at finished ⊢
  have stateEq := finished.run_state
  refine ⟨?_, ?_, ?_, ?_⟩
  · rcases finished.run_cases with same | refused
    · rw [same]
      exact Or.inl rfl
    · rw [refused]
      exact Or.inr rfl
  · rw [stateEq]
    rfl
  · intro kind other
    rw [stateEq]
    exact get_scanComments again home other
  · intro clear closed further
    have runEq := finished.run_of_clear closed clear
    have same : again.run.2 = again := by rw [runEq]
    rw [after_eq_of_run same, runEq]

set_option maxRecDepth 100000 in
/-- A comment in front of the match is recorded twice, and overlaps itself.  Without it,
all runs are the same. -/
theorem rerun_of_found_behind_comment :
    (∃ lookup,
      start (IndexedText.ofText "/**/required".toList).source .required 0 0 none = .ok lookup ∧
      lookup.run.1 = .ok ⟨"required".toList, ⟨0, 4⟩, ⟨0, 12⟩⟩ ∧
      (lookup.after 1).run.1 = .error (.rangeIntersection 0) ∧
      (lookup.after 1).run.2.cursor = (lookup.after 1).cursor) ∧
    ∃ lookup,
      start (IndexedText.ofText "required".toList).source .required 0 0 none = .ok lookup ∧
      ∀ further, ((lookup.after 1).after further).run =
        (.ok ⟨"required".toList, ⟨0, 0⟩, ⟨0, 8⟩⟩, lookup.after 1) := by
  constructor
  · have started : start (IndexedText.ofText "/**/required".toList).source .required 0 0 none =
        .ok (fresh (IndexedText.ofText "/**/required".toList).source .required
          [.keyword .required] none 0 0) := rfl
    have foundEq : ((fresh (IndexedText.ofText "/**/required".toList).source .required
        [.keyword .required] none 0 0).after 0).run.1 =
          .ok ⟨"required".toList, ⟨0, 4⟩, ⟨0, 12⟩⟩ := by cbv
    have refused : ((fresh (IndexedText.ofText "/**/required".toList).source .required
        [.keyword .required] none 0 0).after 1).run.1 = .error (.rangeIntersection 0) := by cbv
    obtain ⟨-, cursorEq, -, -⟩ :=
      rerun_of_found .indexed started foundEq (Nat.lt_succ_self 0)
    exact ⟨_, started, foundEq, refused, cursorEq⟩
  · have started : start (IndexedText.ofText "required".toList).source .required 0 0 none =
        .ok (fresh (IndexedText.ofText "required".toList).source .required
          [.keyword .required] none 0 0) := rfl
    have foundEq : ((fresh (IndexedText.ofText "required".toList).source .required
        [.keyword .required] none 0 0).after 0).run.1 =
          .ok ⟨"required".toList, ⟨0, 0⟩, ⟨0, 8⟩⟩ := by cbv
    have noComment : ((fresh (IndexedText.ofText "required".toList).source .required
        [.keyword .required] none 0 0).after 1).tokens.get .comment = [] := by cbv
    have closed : ((fresh (IndexedText.ofText "required".toList).source .required
        [.keyword .required] none 0 0).after 1).comments = .closed := by cbv
    obtain ⟨-, -, -, same⟩ :=
      rerun_of_found .indexed started foundEq (Nat.lt_succ_self 0)
    refine ⟨_, started, same ?_ closed⟩
    intro comment member
    rw [noComment] at member
    simp at member

end Lookup

end Pinpoint
