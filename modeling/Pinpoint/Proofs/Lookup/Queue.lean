import Pinpoint.Proofs.Lookup.Order

/-!
# The queue of a lookup

The tasks of a lookup form a queue.  However often the lookup is run, the tasks that
left the queue have each recorded one token, those in it none, and only a cardinality
may have been recorded besides.
-/

namespace Pinpoint

namespace Task

/-- Tasks of a lookup: they record tokens of different kinds, neither comments nor
cardinalities, a field type comes first, and the target comes last. -/
structure Pipeline (target : TokenKind) (tasks : List Task) : Prop where
  distinct : (TokenKind.comment :: .fieldCardinality :: tasks.map Task.kind).Nodup
  fieldType_first : ∀ task later, tasks = task :: later → fieldType ∉ later
  last_eq : tasks.getLast?.map Task.kind = some target

theorem pipeline_of_listFor {target : TokenKind} {tasks : List Task}
    (listed : listFor target = some tasks) : Pipeline target tasks := by
  cases target <;> simp [listFor] at listed <;> subst listed <;>
    exact ⟨by decide, by simp, rfl⟩

variable {target : TokenKind} {tasks popped pending : List Task}

theorem Pipeline.kinds_nodup (pipeline : Pipeline target tasks) :
    (TokenKind.fieldCardinality :: tasks.map Task.kind).Nodup :=
  (List.nodup_cons.mp pipeline.distinct).2

theorem Pipeline.comment_not_mem (pipeline : Pipeline target tasks) :
    TokenKind.comment ∉ TokenKind.fieldCardinality :: tasks.map Task.kind :=
  (List.nodup_cons.mp pipeline.distinct).1

theorem Pipeline.kind_ne_comment (pipeline : Pipeline target tasks) {task : Task}
    (member : task ∈ tasks) : task.kind ≠ .comment := by
  intro isComment
  apply pipeline.comment_not_mem
  rw [← isComment]
  exact List.mem_cons_of_mem _ (List.mem_map_of_mem member)

theorem Pipeline.kind_ne_cardinality (pipeline : Pipeline target tasks) {task : Task}
    (member : task ∈ tasks) : task.kind ≠ .fieldCardinality := by
  intro isCardinality
  have others := (List.nodup_cons.mp pipeline.kinds_nodup).1
  apply others
  rw [← isCardinality]
  exact List.mem_map_of_mem member

theorem Pipeline.exists_last (pipeline : Pipeline target tasks) :
    ∃ others last, tasks = others ++ [last] ∧ last.kind = target := by
  obtain ⟨last, lastEq, kindEq⟩ := Option.map_eq_some_iff.mp pipeline.last_eq
  obtain ⟨others, rfl⟩ := List.getLast?_eq_some_iff.mp lastEq
  exact ⟨others, last, rfl, kindEq⟩

/-- Where a field type is looked for, no task has been done. -/
theorem Pipeline.eq_nil_of_fieldType (pipeline : Pipeline target tasks) {later : List Task}
    (tasksEq : tasks = popped ++ fieldType :: later) : popped = [] := by
  cases popped with
  | nil => rfl
  | cons task others =>
      have absent := pipeline.fieldType_first task _ tasksEq
      simp at absent

end Task

namespace Lookup

variable {target : TokenKind} {tasks : List Task} {lookup before after : Lookup}

/-- The tasks that are done were the first ones, and one after the other has recorded a
token.  A cardinality is recorded once at most, in front of a field type. -/
inductive Queued (tasks : List Task) (lookup : Lookup) : Prop
  | intro (passed : List TokenKind) (popped : List Task)
      (tasksEq : tasks = popped ++ lookup.pending)
      (kindsEq : lookup.recorded.map (·.1) = passed ++ popped.map Task.kind)
      (few : passed = [] ∨ passed = [.fieldCardinality] ∧ .fieldType ∈ tasks)

theorem queued_fresh (document : LineSource) (target : TokenKind) (tasks : List Task)
    (pattern : Option Pattern) (line column : Nat) :
    (fresh document target tasks pattern line column).Queued tasks :=
  .intro [] [] rfl rfl (Or.inl rfl)

theorem Queued.of_acts (pipeline : Task.Pipeline target tasks) {home : Line}
    (queued : before.Queued tasks) (acts : Acts home before after) : after.Queued tasks := by
  obtain ⟨passed, popped, tasksEq, kindsEq, few⟩ := queued
  cases acts with
  | comments =>
      refine .intro passed popped tasksEq ?_ few
      rw [recorded_scanComments]
      exact kindsEq
  | cardinality later found pendingEq unmet piece =>
      rw [pendingEq] at tasksEq
      obtain rfl := pipeline.eq_nil_of_fieldType tasksEq
      -- A second cardinality is never recorded, since only the first is unmet.
      have passedEq : passed = [] := by
        rcases few with none | ⟨one, -⟩
        · exact none
        · have notRecorded : before.tokens.get .fieldCardinality = [] := by
            simpa [TokenMap.contains] using unmet
          rw [← get_recorded before (by simp), TokenMap.get_eq_nil_iff] at notRecorded
          change TokenKind.fieldCardinality ∉ before.recorded.map (·.1) at notRecorded
          rw [kindsEq, one] at notRecorded
          simp at notRecorded
      have isTask : Task.fieldType ∈ tasks := by
        rw [tasksEq]
        exact List.mem_cons_self
      refine .intro [.fieldCardinality] [] (tasksEq.trans ?_) ?_ (Or.inr ⟨rfl, isTask⟩)
      · exact congrArg _ pendingEq.symm
      · rw [recorded_record before (by simp), List.map_append, kindsEq, passedEq]
        rfl
  | token task later found pendingEq piece =>
      rw [pendingEq] at tasksEq
      have isTask : task ∈ tasks := by
        rw [tasksEq]
        simp
      refine .intro passed (popped ++ [task]) ?_ ?_ few
      · rw [tasksEq, List.append_assoc]
        rfl
      · change (before.record (task.kind, found)).recorded.map (·.1) = _
        rw [recorded_record before (pipeline.kind_ne_comment isTask), List.map_append, kindsEq,
          List.append_assoc, List.map_append]
        rfl

theorem Queued.of_moves (pipeline : Task.Pipeline target tasks) (queued : before.Queued tasks)
    (moves : Moves before after) : after.Queued tasks := by
  cases moves with
  | onLine homeAt acts => exact queued.of_acts pipeline acts
  | nextLine _ homeAt unfound =>
      obtain ⟨passed, popped, tasksEq, kindsEq, few⟩ := queued
      exact .intro passed popped tasksEq kindsEq few

theorem Queued.mem_tasks (queued : lookup.Queued tasks) {task : Task}
    (member : task ∈ lookup.pending) : task ∈ tasks := by
  obtain ⟨passed, popped, tasksEq, kindsEq, few⟩ := queued
  rw [tasksEq]
  exact List.mem_append_right _ member

/-- What is recorded comes in the order of the tasks. -/
theorem Queued.sublist (queued : lookup.Queued tasks) :
    (lookup.recorded.map (·.1)).Sublist (.fieldCardinality :: tasks.map Task.kind) := by
  obtain ⟨passed, popped, tasksEq, kindsEq, few⟩ := queued
  have passedSublist : passed.Sublist [.fieldCardinality] := by
    rcases few with rfl | ⟨rfl, -⟩
    · exact List.nil_sublist _
    · exact List.Sublist.refl _
  have poppedSublist : (popped.map Task.kind).Sublist (tasks.map Task.kind) := by
    rw [tasksEq, List.map_append]
    exact List.sublist_append_left _ _
  rw [kindsEq]
  exact passedSublist.append poppedSublist

theorem Queued.nodup (pipeline : Task.Pipeline target tasks) (queued : lookup.Queued tasks) :
    (lookup.recorded.map (·.1)).Nodup :=
  queued.sublist.nodup pipeline.kinds_nodup

theorem Queued.length_get_le (pipeline : Task.Pipeline target tasks)
    (queued : lookup.Queued tasks) {kind : TokenKind} (other : kind ≠ .comment) :
    (lookup.tokens.get kind).length ≤ 1 := by
  rw [← get_recorded lookup other]
  exact TokenMap.length_get_le (queued.nodup pipeline) kind

theorem Queued.get_eq_nil (queued : lookup.Queued tasks) {kind : TokenKind}
    (other : kind ≠ .comment) (absent : kind ∉ TokenKind.fieldCardinality :: tasks.map Task.kind) :
    lookup.tokens.get kind = [] := by
  rw [← get_recorded lookup other, TokenMap.get_eq_nil_iff]
  intro member
  exact absent (queued.sublist.subset member)

/-- A task has recorded its token exactly if it has left the queue. -/
theorem Queued.exists_popped (pipeline : Task.Pipeline target tasks)
    (queued : lookup.Queued tasks) :
    ∃ popped, tasks = popped ++ lookup.pending ∧
      (∀ task ∈ popped, ∃ token, lookup.tokens.get task.kind = [token]) ∧
      ∀ task ∈ lookup.pending, lookup.tokens.get task.kind = [] := by
  have distinct := queued.nodup pipeline
  obtain ⟨passed, popped, tasksEq, kindsEq, few⟩ := queued
  refine ⟨popped, tasksEq, ?_, ?_⟩
  · intro task member
    have isTask : task ∈ tasks := by
      rw [tasksEq]
      exact List.mem_append_left _ member
    have isRecorded : task.kind ∈ lookup.recorded.map (·.1) := by
      rw [kindsEq]
      exact List.mem_append_right _ (List.mem_map_of_mem member)
    obtain ⟨⟨kind, token⟩, entryMember, kindEq⟩ := List.mem_map.mp isRecorded
    refine ⟨token, ?_⟩
    rw [← get_recorded lookup (pipeline.kind_ne_comment isTask), ← kindEq]
    exact TokenMap.get_eq_singleton distinct entryMember
  · intro task member
    have isTask : task ∈ tasks := by
      rw [tasksEq]
      exact List.mem_append_right _ member
    rw [← get_recorded lookup (pipeline.kind_ne_comment isTask), TokenMap.get_eq_nil_iff]
    change task.kind ∉ lookup.recorded.map (·.1)
    rw [kindsEq, List.mem_append]
    rintro (isPassed | isPopped)
    · rcases few with rfl | ⟨rfl, -⟩
      · simp at isPassed
      · exact pipeline.kind_ne_cardinality isTask (List.mem_singleton.mp isPassed)
    · have kinds := (List.nodup_cons.mp pipeline.kinds_nodup).2
      rw [tasksEq, List.map_append, List.nodup_append] at kinds
      exact kinds.2.2 _ isPopped _ (List.mem_map_of_mem member) rfl

theorem Queued.contains_target_iff (pipeline : Task.Pipeline target tasks)
    (queued : lookup.Queued tasks) :
    lookup.tokens.contains target = true ↔ lookup.pending = [] := by
  obtain ⟨popped, tasksEq, done, waiting⟩ := queued.exists_popped pipeline
  obtain ⟨others, last, lastEq, kindEq⟩ := pipeline.exists_last
  rw [TokenMap.contains, ← kindEq]
  constructor
  · intro found
    by_contra notEmpty
    obtain ⟨rest, final, pendingEq⟩ :=
      List.eq_nil_or_concat' lookup.pending |>.resolve_left notEmpty
    rw [lastEq, pendingEq, ← List.append_assoc] at tasksEq
    obtain ⟨-, finalEq⟩ := List.append_inj' tasksEq rfl
    have none := waiting last (by simp [pendingEq, List.cons.inj finalEq])
    simp [none] at found
  · intro isEmpty
    rw [isEmpty, List.append_nil] at tasksEq
    have isPopped : last ∈ popped := by
      rw [← tasksEq, lastEq]
      simp
    obtain ⟨token, tokenEq⟩ := done last isPopped
    rw [tokenEq]
    rfl

/-- The tokens on the way to the target, a cardinality first and then one task after the
other. -/
def inOrder (tasks : List Task) (lookup : Lookup) : List Token :=
  (TokenKind.fieldCardinality :: tasks.map Task.kind).flatMap lookup.tokens.get

/-- The order of the tasks is the order of discovery. -/
theorem Queued.inOrder_eq (pipeline : Task.Pipeline target tasks)
    (queued : lookup.Queued tasks) : lookup.inOrder tasks = lookup.recorded.map (·.2) := by
  have kindsGet : lookup.inOrder tasks =
      (TokenKind.fieldCardinality :: tasks.map Task.kind).flatMap
        (TokenMap.mk lookup.recorded).get := by
    apply List.flatMap_congr
    intro kind member
    have other : kind ≠ .comment := by
      rintro rfl
      exact pipeline.comment_not_mem member
    exact (get_recorded lookup other).symm
  rw [kindsGet]
  exact TokenMap.flatMap_get pipeline.kinds_nodup queued.sublist

end Lookup

end Pinpoint
