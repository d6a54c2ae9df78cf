import Pinpoint.Proofs.Lookup.Queue

/-!
# Lookups that are run again and again

A lookup can be run any number of times, whatever the runs come to.  What it has
recorded and what it has still to do fit together at any time, and its cursor never
goes back.
-/

namespace Pinpoint

namespace Lookup

variable {target : TokenKind} {tasks : List Task} {line : Nat} {before after : Lookup}

/-- What holds of a lookup at any time. -/
structure Sound (document : LineSource) (target : TokenKind) (tasks : List Task) (line : Nat)
    (lookup : Lookup) : Prop where
  document_eq : lookup.document = document
  queue : ∃ popped, tasks = popped ++ lookup.pending ∧
    (∀ task ∈ popped, ∃ token, lookup.tokens.get task.kind = [token]) ∧
    ∀ task ∈ lookup.pending, lookup.tokens.get task.kind = []
  cardinality : (lookup.tokens.get .fieldCardinality).length ≤ 1
  others : ∀ kind, kind ≠ .comment → kind ∉ TokenKind.fieldCardinality :: tasks.map Task.kind →
    lookup.tokens.get kind = []
  target_iff : lookup.tokens.contains target = true ↔ lookup.pending = []
  whole : ∀ token ∈ lookup.inOrder tasks, token.found.Whole
  ordered : (lookup.inOrder tasks).Pairwise fun left right =>
    left.found.stop.atMost right.found.start = true
  lies : ∀ kind, ∀ token ∈ lookup.tokens.get kind, lookup.Lies line token.found
  line_le : lookup.cursor.line ≤ document.lineCount
  column_le : lookup.cursor.column ≤ lookup.room

/-- The document and the target stay the same. -/
theorem same_of_moves (moves : Moves before after) :
    after.document = before.document ∧ after.target = before.target := by
  cases moves with
  | onLine homeAt acts => exact ⟨acts.stays.document_eq, acts.stays.target_eq⟩
  | nextLine _ homeAt unfound => exact ⟨rfl, rfl⟩

theorem same_of_reaches (reaches : before.Reaches after) :
    after.document = before.document ∧ after.target = before.target := by
  induction reaches with
  | refl => exact ⟨rfl, rfl⟩
  | tail _ last ih =>
      obtain ⟨documentEq, targetEq⟩ := same_of_moves last
      exact ⟨documentEq.trans ih.1, targetEq.trans ih.2⟩

/-- Order and queue are kept together, since the order needs that no task looks for
comments. -/
theorem placed_of_reaches (pipeline : Task.Pipeline target tasks) (placed : before.Placed line)
    (queued : before.Queued tasks) (reaches : before.Reaches after) :
    after.Placed line ∧ after.Queued tasks := by
  induction reaches with
  | refl => exact ⟨placed, queued⟩
  | tail _ last ih =>
      obtain ⟨placed, queued⟩ := ih
      constructor
      · refine placed.of_moves ?_ last
        intro task member
        exact pipeline.kind_ne_comment (queued.mem_tasks member)
      · exact queued.of_moves pipeline last

theorem sound_of_placed {lookup : Lookup} (pipeline : Task.Pipeline target tasks)
    (placed : lookup.Placed line) (queued : lookup.Queued tasks) :
    lookup.Sound lookup.document target tasks line := by
  have inOrderEq := queued.inOrder_eq pipeline
  refine
    { document_eq := rfl
      queue := queued.exists_popped pipeline
      cardinality := queued.length_get_le pipeline (by simp)
      others := fun kind other absent => queued.get_eq_nil other absent
      target_iff := queued.contains_target_iff pipeline
      whole := ?_
      ordered := ?_
      lies := ?_
      line_le := placed.line_le_count
      column_le := placed.column_le }
  · intro token member
    rw [inOrderEq] at member
    obtain ⟨entry, entryMember, rfl⟩ := List.mem_map.mp member
    exact placed.whole entry entryMember
  · rw [inOrderEq, List.pairwise_map]
    exact placed.ordered
  · intro kind token member
    exact placed.lies (kind, token) (TokenMap.mem_get.mp member)

theorem after_add (runs further : Nat) (lookup : Lookup) :
    lookup.after (runs + further) = (lookup.after runs).after further := by
  induction runs generalizing lookup with
  | zero =>
      rw [Nat.zero_add]
      rfl
  | succ runs ih =>
      rw [Nat.succ_add]
      exact ih lookup.run.2

theorem place_le_of_runs {runs later : Nat} (runsLe : runs ≤ later) (lookup : Lookup) :
    (lookup.after runs).place.atMost (lookup.after later).place = true := by
  obtain ⟨further, rfl⟩ := Nat.exists_eq_add_of_le runsLe
  rw [after_add]
  exact place_le_of_reaches (reaches_after further (lookup.after runs))

/-- A task that reports an error leaves the lookup waiting for it. -/
theorem runTasks_of_resolve_error {home : Line} {spans : List Span} {task : Task}
    {later : List Task} {lookup : Lookup} {error : LookupError}
    (resolvedEq : task.resolve ⟨home, spans, lookup.cursor.column, lookup.searchFor later⟩
      lookup.tokens = .error error) :
    (runTasks home spans (task :: later) lookup).2 = lookup.waitingFor (task :: later) := by
  by_cases missing : ∃ kind, error = .notFound kind
  · obtain ⟨kind, rfl⟩ := missing
    rw [runTasks_of_notFound resolvedEq]
  · have other : ∀ kind, error ≠ .notFound kind := fun kind same => missing ⟨kind, same⟩
    rw [runTasks_of_error other resolvedEq]

/-- However often a lookup is run, what it has recorded and what it has to do fit
together, its cursor never goes back, and a task that reports an error neither records a
token nor moves the cursor. -/
theorem sound_of_runs {text : Text} {document : LineSource} (isOf : document.IsOf text)
    {kind : TokenKind} {tasks : List Task} (listed : Task.listFor kind = some tasks)
    {line : Nat} (within : line < document.lineCount) (column : Nat) {search : Option Text}
    {pattern : Option Pattern} (compiles : search.map Pattern.parse? = pattern.map some) :
    ∃ lookup, start document kind line column search = .ok lookup ∧
      (∀ runs, (lookup.after runs).Sound document kind tasks line) ∧
      (∀ runs later, runs ≤ later →
        (lookup.after runs).place.atMost (lookup.after later).place = true) ∧
      ∀ (during : Lookup) (home : Line) (spans : List Span) (task : Task) (rest : List Task)
        (error : LookupError),
        task.resolve ⟨home, spans, during.cursor.column, during.searchFor rest⟩ during.tokens =
            .error error →
          (runTasks home spans (task :: rest) during).2.tokens = during.tokens ∧
          (runTasks home spans (task :: rest) during).2.cursor = during.cursor := by
  have pipeline := Task.pipeline_of_listFor listed
  obtain ⟨first, lineAt⟩ := isOf.exists_line within
  refine ⟨_, start_eq listed lineAt column compiles, ?_, ?_, ?_⟩
  · intro runs
    have reaches := reaches_after runs
      (fresh document kind tasks pattern line (min column first.width))
    have freshPlaced := placed_fresh isOf.regular kind tasks pattern lineAt
      (Nat.min_le_right column first.width)
    have freshQueued := queued_fresh document kind tasks pattern line (min column first.width)
    obtain ⟨placed, queued⟩ := placed_of_reaches pipeline freshPlaced freshQueued reaches
    have documentEq := (same_of_reaches reaches).1
    have sound := sound_of_placed pipeline placed queued
    rw [documentEq] at sound
    exact sound
  · intro runs later runsLe
    exact place_le_of_runs runsLe _
  · intro during home spans task rest error resolvedEq
    rw [runTasks_of_resolve_error resolvedEq]
    exact ⟨rfl, rfl⟩

set_option maxRecDepth 100000 in
/-- A cardinality is recorded on the first line; type and name stand behind a comment on
the second. -/
theorem sound_of_runs_over_lines :
    ∃ lookup,
      start (IndexedText.ofText "repeated /*\n*/a b".toList).source .fieldName 0 0 none =
        .ok lookup ∧
      (lookup.after 1).Sound (IndexedText.ofText "repeated /*\n*/a b".toList).source .fieldName
        [.fieldType, .name .fieldName false] 0 ∧
      (lookup.after 0).place.atMost (lookup.after 1).place = true ∧
      ((lookup.after 1).inOrder [.fieldType, .name .fieldName false]).map (·.found) =
        [⟨"repeated".toList, ⟨0, 0⟩, ⟨0, 8⟩⟩, ⟨"a".toList, ⟨1, 2⟩, ⟨1, 3⟩⟩,
          ⟨"b".toList, ⟨1, 4⟩, ⟨1, 5⟩⟩] := by
  have listed : Task.listFor .fieldName = some [.fieldType, .name .fieldName false] := rfl
  have within : 0 < (IndexedText.ofText "repeated /*\n*/a b".toList).source.lineCount := by decide
  have compiles : (none : Option Text).map Pattern.parse? = (none : Option Pattern).map some :=
    rfl
  obtain ⟨lookup, started, sound, behind, -⟩ := sound_of_runs .indexed listed within 0 compiles
  have begun : start (IndexedText.ofText "repeated /*\n*/a b".toList).source .fieldName 0 0 none =
      .ok (fresh (IndexedText.ofText "repeated /*\n*/a b".toList).source .fieldName
        [.fieldType, .name .fieldName false] none 0 0) := rfl
  refine ⟨lookup, started, sound 1, behind 0 1 (by decide), ?_⟩
  obtain rfl := Except.ok.inj (begun.symm.trans started)
  cbv

end Lookup

end Pinpoint
