import Pinpoint.Proofs.Line.Boundaries
import Pinpoint.Proofs.Lookup.Stages
import Pinpoint.Proofs.Lookup.Transparency

/-!
# Lookups that cut no character

A lookup that starts between two characters of a line never stands inside one.  Its cursor,
the comments and tokens that it has recorded and the spans that it searches all start and end
between characters, so there is no text that it passes over because it could not be cut out.
-/

namespace Pinpoint

/-- On a line of a document, a position stands between two characters. -/
def LineSource.Aligns (document : LineSource) (position : Position) : Prop :=
  ∀ home, document.line? position.line = some home → home.HasColumn position.column

theorem LineSource.aligns_position {document : LineSource} {home : Line}
    (homeAt : document.line? home.number = some home) {column : Nat}
    (has : home.HasColumn column) : document.Aligns (home.position column) := by
  intro other otherAt
  obtain rfl := Option.some.inj (homeAt.symm.trans otherAt)
  exact has

/-- A match between two characters covers a part of every line that starts and ends between
two characters. -/
theorem Match.hasColumns_of_clampTo {document : LineSource} {home : Line}
    (homeAt : document.line? home.number = some home) {found : Match}
    (atStart : document.Aligns found.start) (atStop : document.Aligns found.stop) {span : Span}
    (clamped : found.clampTo home = some span) :
    home.HasColumn span.start ∧ home.HasColumn span.stop := by
  obtain ⟨startLe, leStop⟩ := touches_of_clampTo clamped
  rw [clampTo, if_neg (by omega)] at clamped
  obtain rfl := Option.some.inj clamped
  have start : home.HasColumn
      (if found.start.line < home.number then 0 else found.start.column) := by
    split
    · exact home.hasColumn_zero
    · have lineEq : found.start.line = home.number := by omega
      exact atStart home (lineEq ▸ homeAt)
  have stop : home.HasColumn
      (if home.number < found.stop.line then home.width else found.stop.column) := by
    split
    · exact home.hasColumn_width
    · have lineEq : found.stop.line = home.number := by omega
      exact atStop home (lineEq ▸ homeAt)
  exact ⟨start.min stop, stop⟩

/-- What a task reports are matches of its pattern in the spans that it searches. -/
theorem Task.mem_findInSpans_of_resolve {task : Task} {input : TaskInput} {tokens : TokenMap}
    {resolved : Resolved} (resolvedEq : task.resolve input tokens = .ok resolved)
    {entry : TokenKind × Match} (member : entry ∈ resolved.tokens) :
    entry.2 ∈ input.line.findInSpans input.spans (task.patternFor input.search)
      input.first 0 := by
  have settles : task.Settles (tokens.contains .fieldCardinality) _ (task.resolve input tokens) :=
    task.settles_resolve fun limit => input.line.findInSpans_limited input.spans _ _ limit
  rw [resolvedEq] at settles
  cases settles with
  | parked first isFieldType unmet foundEq chosen =>
      obtain rfl := List.mem_singleton.mp member
      rw [foundEq]
      exact List.mem_cons_self
  | settled passed token others few foundEq chosen =>
      rw [foundEq]
      rcases List.mem_append.mp member with early | last
      · obtain ⟨found, inPassed, rfl⟩ := List.mem_map.mp early
        exact List.mem_append_left _ inPassed
      · obtain rfl := List.mem_singleton.mp last
        exact List.mem_append_right _ List.mem_cons_self

namespace Lookup

/-- All the positions that a lookup knows of stand between two characters. -/
structure Aligned (lookup : Lookup) : Prop where
  regular : lookup.document.Regular
  place : lookup.document.Aligns lookup.place
  opened : ∀ position, lookup.comments = .opened position → lookup.document.Aligns position
  tokens : ∀ entry ∈ lookup.tokens.entries,
    lookup.document.Aligns entry.2.found.start ∧ lookup.document.Aligns entry.2.found.stop

/-- Where the cursor of a lookup stands on a line and what it searches there cuts no
character, at any stage of its work on the line. -/
structure CutsNone (home : Line) (lookup : Lookup) : Prop where
  cursor : ∀ during ∈ lookup.stages home, home.HasColumn during.cursor.column
  kept : ∀ spans, lookup.searched home = .ok spans →
    ∀ span ∈ spans, home.HasColumn span.start ∧ home.HasColumn span.stop
  searchable : ∀ spans, lookup.searched home = .ok spans →
    ∀ during ∈ lookup.stages home, ∀ span ∈ spans, home.Searchable during.cursor.column span

theorem aligned_fresh {document : LineSource} (regular : document.Regular) (kind : TokenKind)
    (tasks : List Task) (pattern : Option Pattern) {line column : Nat}
    (aligns : document.Aligns ⟨line, column⟩) :
    (fresh document kind tasks pattern line column).Aligned where
  regular := regular
  place := aligns
  opened position opened := by simp [fresh] at opened
  tokens entry member := by simp [fresh, TokenMap.empty] at member

variable {lookup : Lookup} {home : Line}

namespace Aligned

theorem waitingFor (aligned : lookup.Aligned) (tasks : List Task) :
    (lookup.waitingFor tasks).Aligned :=
  ⟨aligned.regular, aligned.place, aligned.opened, aligned.tokens⟩

theorem nextLine (aligned : lookup.Aligned) : lookup.nextLine.Aligned where
  regular := aligned.regular
  place home _ := home.hasColumn_zero
  opened := aligned.opened
  tokens := aligned.tokens

section

variable (aligned : lookup.Aligned)
  (homeAt : lookup.document.line? lookup.cursor.line = some home)

include aligned homeAt

theorem number_eq : home.number = lookup.cursor.line :=
  aligned.regular.number_eq _ _ homeAt

theorem homeAt_number : lookup.document.line? home.number = some home := by
  rw [aligned.number_eq homeAt]
  exact homeAt

theorem hasColumn : home.HasColumn lookup.cursor.column :=
  aligned.place home homeAt

theorem scanComments : (lookup.scanComments home).Aligned := by
  obtain ⟨found, state⟩ := Comment.holds_of_scanFrom
    (fun column => LineSource.aligns_position (aligned.homeAt_number homeAt)) lookup.comments 0
    home.text aligned.opened (List.nil_append home.text).symm rfl
  refine ⟨aligned.regular, aligned.place, state, ?_⟩
  intro entry member
  rw [entries_scanComments] at member
  rcases List.mem_append.mp member with earlier | now
  · exact aligned.tokens entry earlier
  · obtain ⟨comment, reported, rfl⟩ := List.mem_map.mp now
    exact found comment reported

/-- The spans between the comments of a line can be searched from the cursor on. -/
theorem hasColumns_of_searched {spans : List Span}
    (searchedEq : lookup.searched home = .ok spans) {span : Span} (member : span ∈ spans) :
    home.HasColumn span.start ∧ home.HasColumn span.stop := by
  have scanned := aligned.scanComments homeAt
  refine Line.hasColumns_of_mem_gaps (fun other => le_of_mem_spansOn) ?_ searchedEq member
  intro other isComment
  obtain ⟨comment, recorded, clamped⟩ := List.mem_filterMap.mp isComment
  obtain ⟨atStart, atStop⟩ := scanned.tokens (.comment, comment) (TokenMap.mem_get.mp recorded)
  exact Match.hasColumns_of_clampTo (aligned.homeAt_number homeAt) atStart atStop clamped

/-- Recording a match of the line moves the cursor to the end of the match, if at all. -/
theorem record {pattern : Pattern} {first : Nat} {spans : List Span}
    {entry : TokenKind × Match}
    (found : entry.2 ∈ home.findInSpans spans pattern first 0) :
    (lookup.record entry).Aligned := by
  have piece := home.isPiece_of_mem_findInSpans found
  obtain ⟨startColumn, stopColumn⟩ := Line.hasColumns_of_mem_findInSpans found
  have atHome := aligned.homeAt_number homeAt
  refine ⟨aligned.regular, ?_, aligned.opened, ?_⟩
  · intro other otherAt
    obtain rfl := Option.some.inj (homeAt.symm.trans otherAt)
    exact (aligned.hasColumn homeAt).max stopColumn
  · intro other member
    rw [entries_record] at member
    rcases List.mem_append.mp member with earlier | last
    · exact aligned.tokens other earlier
    · obtain rfl := List.mem_singleton.mp last
      have startEq : entry.2.start = home.position entry.2.start.column :=
        congrArg (Position.mk · _) piece.startLine
      have stopEq : entry.2.stop = home.position entry.2.stop.column :=
        congrArg (Position.mk · _) piece.stopLine
      constructor
      · rw [startEq]
        exact LineSource.aligns_position atHome startColumn
      · rw [stopEq]
        exact LineSource.aligns_position atHome stopColumn

end

/-- So does recording several matches, one after the other. -/
theorem of_mem_scanl (aligned : lookup.Aligned)
    (homeAt : lookup.document.line? lookup.cursor.line = some home) {pattern : Pattern}
    {first : Nat} {spans : List Span} {entries : List (TokenKind × Match)}
    (found : ∀ entry ∈ entries, entry.2 ∈ home.findInSpans spans pattern first 0)
    {during : Lookup} (member : during ∈ entries.scanl Lookup.record lookup) :
    during.Aligned ∧ during.document.line? during.cursor.line = some home := by
  induction entries generalizing lookup with
  | nil =>
      rw [List.scanl_nil, List.mem_singleton] at member
      subst member
      exact ⟨aligned, homeAt⟩
  | cons entry rest ih =>
      rw [List.scanl_cons] at member
      rcases List.mem_cons.mp member with rfl | later
      · exact ⟨aligned, homeAt⟩
      · refine ih (aligned.record homeAt (found entry List.mem_cons_self)) homeAt ?_ later
        exact fun other inRest => found other (List.mem_cons_of_mem _ inRest)

theorem of_mem_stagesOfTasks (aligned : lookup.Aligned)
    (homeAt : lookup.document.line? lookup.cursor.line = some home) {spans : List Span}
    {tasks : List Task} {during : Lookup}
    (member : during ∈ stagesOfTasks home spans tasks lookup) :
    during.Aligned ∧ during.document.line? during.cursor.line = some home := by
  -- By induction on the tasks: the last of the recorded matches leaves a lookup for the later
  -- tasks.
  induction tasks generalizing lookup with
  | nil =>
      obtain rfl := List.mem_singleton.mp member
      exact ⟨aligned.waitingFor [], homeAt⟩
  | cons task later ih =>
      have waiting := aligned.waitingFor (task :: later)
      rw [stagesOfTasks] at member
      cases resolvedEq : task.resolve ⟨home, spans, lookup.cursor.column, lookup.searchFor later⟩
          lookup.tokens with
      | error error =>
          simp only [resolvedEq] at member
          obtain rfl := List.mem_singleton.mp member
          exact ⟨waiting, homeAt⟩
      | ok resolved =>
          simp only [resolvedEq] at member
          have recorded {during : Lookup} (isStage : during ∈ resolved.tokens.scanl Lookup.record
              (lookup.waitingFor (task :: later))) :=
            waiting.of_mem_scanl homeAt
              (fun entry => Task.mem_findInSpans_of_resolve resolvedEq) isStage
          rcases List.mem_append.mp member with here | behind
          · exact recorded here
          · split at behind
            · obtain ⟨last, lastAt⟩ := recorded (List.mem_of_getLast? List.getLast?_scanl)
              exact ih last lastAt behind
            · simp at behind

section

variable (aligned : lookup.Aligned)
  (homeAt : lookup.document.line? lookup.cursor.line = some home)

include aligned homeAt

theorem of_mem_stages {during : Lookup} (member : during ∈ lookup.stages home) :
    during.Aligned ∧ during.document.line? during.cursor.line = some home := by
  have scanned := aligned.scanComments homeAt
  rcases List.mem_cons.mp member with rfl | later
  · exact ⟨aligned, homeAt⟩
  · rcases List.mem_cons.mp later with rfl | atWork
    · exact ⟨scanned, homeAt⟩
    · split at atWork
      · simp at atWork
      · exact scanned.of_mem_stagesOfTasks homeAt atWork

theorem scanLine : (lookup.scanLine home).2.Aligned :=
  (aligned.of_mem_stages homeAt (List.mem_of_getLast? (getLast?_stages home lookup))).1

theorem cutsNone : lookup.CutsNone home := by
  have cursor : ∀ during ∈ lookup.stages home, home.HasColumn during.cursor.column := by
    intro during member
    obtain ⟨duringAligned, duringAt⟩ := aligned.of_mem_stages homeAt member
    exact duringAligned.hasColumn duringAt
  refine ⟨cursor, ?_, ?_⟩
  · intro spans searchedEq span member
    exact aligned.hasColumns_of_searched homeAt searchedEq member
  · intro spans searchedEq during isStage span member
    obtain ⟨atStart, atStop⟩ := aligned.hasColumns_of_searched homeAt searchedEq member
    exact Line.searchable_of_hasColumn (cursor during isStage) atStart atStop

end

theorem of_visits (aligned : lookup.Aligned) :
    (∀ visit ∈ lookup.visits,
        visit.2.document.line? visit.2.cursor.line = some visit.1 ∧ visit.2.Aligned) ∧
      lookup.run.2.Aligned := by
  refine holds_of_visits ?_ ?_ aligned
  · intro home before homeAt arriving
    exact arriving.scanLine homeAt
  · intro before worked
    exact worked.nextLine

theorem after (aligned : lookup.Aligned) (runs : Nat) : (lookup.after runs).Aligned :=
  holds_after (fun _ before => before.of_visits.2) runs aligned

end Aligned

end Lookup

namespace Lookup

/-- However often a lookup is run that starts between two characters of its line, or behind all
of them, its cursor and the spans that it searches cut no character of any line that it comes
to, so no search fails because it would have to.  A column that is counted in characters
starts such a lookup. -/
theorem cutsNone_of_runs {text : Text} {document : LineSource} (isOf : document.IsOf text)
    {kind : TokenKind} {tasks : List Task} (listed : Task.listFor kind = some tasks)
    {line column : Nat} (within : line < document.lineCount)
    (between : document.StartsBetween line column) {search : Option Text}
    {pattern : Option Pattern} (compiles : search.map Pattern.parse? = pattern.map some) :
    ∃ lookup, start document kind line column search = .ok lookup ∧
      (∀ runs, ∀ visit ∈ (lookup.after runs).visits, visit.2.CutsNone visit.1) ∧
      (∀ runs, document.Aligns (lookup.after runs).place) ∧
      ∀ first, document.line? line = some first →
        ∀ number, document.StartsBetween line (first.byteColumn number) := by
  obtain ⟨first, lineAt⟩ := isOf.exists_line within
  have starts : document.Aligns ⟨line, min column first.width⟩ := by
    intro home homeAt
    obtain rfl := Option.some.inj (lineAt.symm.trans homeAt)
    exact between.hasColumn lineAt
  have aligned := aligned_fresh isOf.regular kind tasks pattern starts
  refine ⟨_, start_eq listed lineAt column compiles, ?_, ?_, ?_⟩
  · intro runs visit member
    obtain ⟨homeAt, arriving⟩ := (aligned.after runs).of_visits.1 visit member
    exact arriving.cutsNone homeAt
  · intro runs
    have documentEq := (same_of_reaches (reaches_after runs
      (fresh document kind tasks pattern line (min column first.width)))).1
    have place := (aligned.after runs).place
    rw [documentEq] at place
    exact place
  · intro other otherAt number home homeAt
    obtain rfl := Option.some.inj (otherAt.symm.trans homeAt)
    exact Or.inr (other.hasColumn_byteColumn number)

set_option maxRecDepth 100000 in
/-- The lookup starts behind a letter of two bytes, and comes to lines that have such letters
in front of the code and in a comment. -/
theorem cutsNone_of_runs_over_accents :
    (Text.source "é/*ü\nß*/ message M".toList).StartsBetween 0 2 ∧
      ∃ lookup, start (Text.source "é/*ü\nß*/ message M".toList) .messageName 0 2 none =
          .ok lookup ∧
        lookup.visits.map (fun visit => visit.2.searched visit.1) =
          [.ok [⟨0, 2⟩], .ok [⟨4, 14⟩]] ∧
        lookup.visits.map (fun visit => (visit.2.stages visit.1).map (·.cursor.column)) =
          [[2, 2, 2], [0, 0, 0, 12, 12, 14, 14]] ∧
        ∀ visit ∈ lookup.visits, visit.2.CutsNone visit.1 := by
  have between : (Text.source "é/*ü\nß*/ message M".toList).StartsBetween 0 2 := by
    intro first lineAt
    have firstEq : (Text.source "é/*ü\nß*/ message M".toList).line? 0 =
        some ⟨0, ['é'] ++ "/*ü".toList⟩ := by decide
    obtain rfl := Option.some.inj (firstEq.symm.trans lineAt)
    have widthEq : Text.width ['é'] = 2 := by decide
    rw [← widthEq]
    exact Or.inr (Line.hasColumn_of_append rfl)
  have compiles : (none : Option Text).map Pattern.parse? = (none : Option Pattern).map some :=
    rfl
  have listed : Task.listFor .messageName = some [.keyword .message, .name .messageName false] :=
    rfl
  have within : 0 < (Text.source "é/*ü\nß*/ message M".toList).lineCount := by decide
  obtain ⟨lookup, started, cuts, -⟩ := cutsNone_of_runs .plain listed within between compiles
  have begun : start (Text.source "é/*ü\nß*/ message M".toList) .messageName 0 2 none =
      .ok (fresh (Text.source "é/*ü\nß*/ message M".toList) .messageName
        [.keyword .message, .name .messageName false] none 0 2) := rfl
  refine ⟨between, lookup, started, ?_, ?_, cuts 0⟩
  · obtain rfl := Except.ok.inj (begun.symm.trans started)
    cbv
  · obtain rfl := Except.ok.inj (begun.symm.trans started)
    cbv

end Lookup

end Pinpoint
