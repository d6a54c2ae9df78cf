import Mathlib.Logic.Relation
import Pinpoint.Proofs.Line.Matches
import Pinpoint.Proofs.Lookup.Run

/-!
# Moves of a lookup

All that a lookup ever does: it records the comments of a line, records a token at or
behind its cursor, drops a task that has found its token, and goes on to the next line
as long as the target is not found.  A run is a sequence of such moves, whatever it
comes to, so what every move keeps holds after any number of runs.
-/

namespace Pinpoint

namespace Lookup

/-- One thing that a lookup does on a line. -/
inductive Acts (home : Line) : Lookup → Lookup → Prop
  | comments (lookup : Lookup) : Acts home lookup (lookup.scanComments home)
  | cardinality (lookup : Lookup) (later : List Task) (found : Match)
      (pendingEq : lookup.pending = .fieldType :: later)
      (unmet : lookup.tokens.contains .fieldCardinality = false)
      (piece : found.IsPiece home lookup.cursor.column) :
      Acts home lookup (lookup.record (.fieldCardinality, found))
  | token (lookup : Lookup) (task : Task) (later : List Task) (found : Match)
      (pendingEq : lookup.pending = task :: later)
      (piece : found.IsPiece home lookup.cursor.column) :
      Acts home lookup ((lookup.record (task.kind, found)).waitingFor later)

/-- One thing that a lookup does. -/
inductive Moves : Lookup → Lookup → Prop
  | onLine {home : Line} {before after : Lookup}
      (homeAt : before.document.line? before.cursor.line = some home)
      (acts : Acts home before after) : Moves before after
  | nextLine {home : Line} (lookup : Lookup)
      (homeAt : lookup.document.line? lookup.cursor.line = some home)
      (unfound : lookup.tokens.get lookup.target = []) : Moves lookup lookup.nextLine

/-- A lookup comes to another one by moves. -/
abbrev Reaches : Lookup → Lookup → Prop :=
  Relation.ReflTransGen Moves

/-- A lookup after a number of runs, whatever these came to. -/
def after : (runs : Nat) → Lookup → Lookup
  | 0, lookup => lookup
  | runs + 1, lookup => after runs lookup.run.2

/-- The work on a line keeps the document, the target and the line. -/
structure Stays (before after : Lookup) : Prop where
  document_eq : after.document = before.document
  target_eq : after.target = before.target
  line_eq : after.cursor.line = before.cursor.line

theorem Acts.stays {home : Line} {before after : Lookup} (acts : Acts home before after) :
    before.Stays after := by
  cases acts with
  | comments => exact ⟨rfl, rfl, rfl⟩
  | cardinality later found pendingEq unmet piece => exact ⟨rfl, rfl, rfl⟩
  | token task later found pendingEq piece => exact ⟨rfl, rfl, rfl⟩

theorem Stays.of_acts {home : Line} {before after : Lookup}
    (acts : Relation.ReflTransGen (Acts home) before after) : before.Stays after := by
  induction acts with
  | refl => exact ⟨rfl, rfl, rfl⟩
  | tail _ last ih =>
      have lastStays := last.stays
      exact ⟨lastStays.document_eq.trans ih.document_eq,
        lastStays.target_eq.trans ih.target_eq, lastStays.line_eq.trans ih.line_eq⟩

/-- Work on the line of the cursor is made of moves. -/
theorem reaches_of_acts {home : Line} {before after : Lookup}
    (homeAt : before.document.line? before.cursor.line = some home)
    (acts : Relation.ReflTransGen (Acts home) before after) : before.Reaches after := by
  induction acts with
  | refl => exact .refl
  | tail earlier last ih =>
      have stays := Stays.of_acts earlier
      refine ih.tail (.onLine ?_ last)
      rw [stays.document_eq, stays.line_eq]
      exact homeAt

/-- A task that is settled records the cardinality that it passed, and its token. -/
theorem acts_settled {home : Line} {lookup : Lookup} {task : Task} {later : List Task}
    {passed others : List Match} {token : Match}
    (few : task.PassesFew (lookup.tokens.contains .fieldCardinality) passed)
    (pieces : ∀ found ∈ passed ++ token :: others, found.IsPiece home lookup.cursor.column)
    (ordered : (passed ++ token :: others).Pairwise fun left right =>
      left.stop.column ≤ right.start.column) :
    Relation.ReflTransGen (Acts home) (lookup.waitingFor (task :: later))
      (((lookup.waitingFor (task :: later)).settled passed task.kind token).waitingFor later) := by
  cases few with
  | none =>
      have piece := pieces token (by simp)
      exact .single (.token (lookup.waitingFor (task :: later)) task later token rfl piece)
  | first found isFieldType unmet =>
      subst isFieldType
      have foundPiece := pieces found (by simp)
      have tokenPiece := pieces token (by simp)
      have before : found.stop.column ≤ token.start.column := by
        rw [List.singleton_append, List.pairwise_cons] at ordered
        exact ordered.1 token List.mem_cons_self
      have columnEq : max lookup.cursor.column found.stop.column = found.stop.column := by
        have firstLe := foundPiece.first_le
        have startLt := foundPiece.start_lt
        omega
      refine .tail (.single (.cardinality _ later found rfl unmet foundPiece)) ?_
      refine .token _ .fieldType later token rfl ?_
      change token.IsPiece home (max lookup.cursor.column found.stop.column)
      rw [columnEq]
      exact tokenPiece.behind before

/-- The tasks record their tokens one by one. -/
theorem acts_runTasks {home : Line} {spans : List Span}
    (ordered : Span.Ordered 0 home.width spans) (tasks : List Task) (lookup : Lookup) :
    Relation.ReflTransGen (Acts home) (lookup.waitingFor tasks)
      (runTasks home spans tasks lookup).2 := by
  -- By induction on the tasks: only a task that is settled leaves the line to the later ones.
  induction tasks generalizing lookup with
  | nil => exact .refl
  | cons task later ih =>
      have settles : task.Settles (lookup.tokens.contains .fieldCardinality) _
          (task.resolve ⟨home, spans, lookup.cursor.column, lookup.searchFor later⟩
            lookup.tokens) :=
        task.settles_resolve fun limit => home.findInSpans_limited spans _ _ limit
      have pieces : ∀ found ∈ home.findInSpans spans
          (task.patternFor (lookup.searchFor later)) lookup.cursor.column 0,
          found.IsPiece home lookup.cursor.column :=
        fun found member => home.isPiece_of_mem_findInSpans member
      have foundOrdered : (home.findInSpans spans
          (task.patternFor (lookup.searchFor later)) lookup.cursor.column 0).Pairwise
            fun left right => left.stop.column ≤ right.start.column :=
        home.findInSpans_ordered ordered.pairwise
      simp only at settles
      generalize home.findInSpans spans (task.patternFor (lookup.searchFor later))
        lookup.cursor.column 0 = here at settles pieces foundOrdered
      generalize resolvedEq : task.resolve _ _ = resolved at settles
      cases settles with
      | missing kind none =>
          rw [runTasks_of_notFound resolvedEq]
      | refused other chosen =>
          rw [runTasks_of_error other resolvedEq]
      | parked first isFieldType unmet foundEq chosen =>
          subst isFieldType foundEq
          rw [runTasks_of_ok resolvedEq]
          have piece := pieces first List.mem_cons_self
          exact .single (.cardinality (lookup.waitingFor (.fieldType :: later)) later first rfl
            unmet piece)
      | settled passed token others few foundEq chosen =>
          subst foundEq
          rw [runTasks_of_ok resolvedEq, if_pos rfl]
          exact (acts_settled few pieces foundOrdered).trans (ih _)

/-- The spans that tokens cover on a line are never reversed. -/
theorem le_of_mem_spansOn {tokens : TokenMap} {kind : TokenKind} {home : Line} {span : Span}
    (member : span ∈ tokens.spansOn kind home) : span.start ≤ span.stop := by
  obtain ⟨token, -, clamped⟩ := List.mem_filterMap.mp member
  rw [Match.clampTo] at clamped
  split at clamped
  · simp at clamped
  · obtain rfl := Option.some.inj clamped
    exact Nat.min_le_right _ _

/-- The work on a line as a whole. -/
theorem acts_scanLine (home : Line) (lookup : Lookup) :
    Relation.ReflTransGen (Acts home) lookup (lookup.scanLine home).2 := by
  have scanned : Acts home lookup (lookup.scanComments home) := .comments lookup
  rw [scanLine]
  cases gapsEq : home.gaps ((lookup.scanComments home).tokens.spansOn .comment home) with
  | error error => exact .single scanned
  | ok spans =>
      have ordered := Line.ordered_of_gaps (fun span member => le_of_mem_spansOn member) gapsEq
      have acts := acts_runTasks ordered (lookup.scanComments home).pending
        (lookup.scanComments home)
      have whole := Relation.ReflTransGen.head scanned acts
      simp only
      split
      · rename_i error after outcome
        rw [outcome] at whole
        exact whole
      · rename_i after outcome
        rw [outcome] at whole
        exact whole

/-- Where the work on a line ends without the target, the target has not been recorded. -/
theorem unfound_of_scanLine {home : Line} {lookup after : Lookup}
    (scanned : lookup.scanLine home = (.ok none, after)) :
    after.tokens.get after.target = [] := by
  rw [scanLine] at scanned
  split at scanned
  · simp at scanned
  · split at scanned
    · simp at scanned
    · rename_i other outcome
      obtain ⟨missing, rfl⟩ := Prod.mk.inj scanned
      have noFirst := Option.map_eq_none_iff.mp (Except.ok.inj missing)
      exact List.head?_eq_none_iff.mp noFirst

section

variable {home : Line} {lookup : Lookup}
  (homeAt : lookup.document.line? lookup.cursor.line = some home)

include homeAt

theorem reaches_scanLine : lookup.Reaches (lookup.scanLine home).2 :=
  reaches_of_acts homeAt (lookup.acts_scanLine home)

/-- A line without the target leads to the next one. -/
theorem reaches_nextLine {after : Lookup} (scanned : lookup.scanLine home = (.ok none, after)) :
    lookup.Reaches after.nextLine := by
  have here := reaches_scanLine homeAt
  have stays := Stays.of_acts (lookup.acts_scanLine home)
  rw [scanned] at here stays
  have nextAt : after.document.line? after.cursor.line = some home := by
    rw [stays.document_eq, stays.line_eq]
    exact homeAt
  exact here.tail (.nextLine after nextAt (unfound_of_scanLine scanned))

end

/-- What a lookup comes to on several lines, it comes to by moves. -/
theorem reaches_runLines (lines : Nat) (lookup : Lookup) :
    lookup.Reaches (runLines lines lookup).2 := by
  induction lines generalizing lookup with
  | zero => exact .refl
  | succ lines ih =>
      rw [runLines]
      cases homeAt : lookup.document.line? lookup.cursor.line with
      | none => exact .refl
      | some home =>
          have here := reaches_scanLine homeAt
          simp only
          generalize scannedEq : lookup.scanLine home = scanned at here
          obtain ⟨outcome, after⟩ := scanned
          cases outcome with
          | error error => exact here
          | ok result =>
              cases result with
              | some found => exact here
              | none => exact (reaches_nextLine homeAt scannedEq).trans (ih after.nextLine)

theorem reaches_run (lookup : Lookup) : lookup.Reaches lookup.run.2 :=
  reaches_runLines _ lookup

/-- Any number of runs is a sequence of moves. -/
theorem reaches_after (runs : Nat) (lookup : Lookup) : lookup.Reaches (lookup.after runs) := by
  induction runs generalizing lookup with
  | zero => exact .refl
  | succ runs ih => exact lookup.reaches_run.trans (ih lookup.run.2)

end Lookup

end Pinpoint
