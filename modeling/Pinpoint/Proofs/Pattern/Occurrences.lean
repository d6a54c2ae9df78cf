import Pinpoint.Pattern.Occurrence
import Pinpoint.Proofs.Text.Columns

/-!
# Where occurrences lie

Whatever a pattern is, the threads of its program only move forward through the
text.  So an occurrence is a piece of the text that starts at the column that
it names, and the occurrences of a text stand one after the other.
-/

namespace Pinpoint

namespace Cursor

/-- The second cursor is a later place in the same text, or the same place. -/
def Reaches (first last : Cursor) : Prop :=
  ∃ passed, first.rest = passed ++ last.rest ∧
    last.column = first.column + Text.width passed

namespace Reaches

theorem refl (cursor : Cursor) : cursor.Reaches cursor :=
  ⟨[], rfl, rfl⟩

theorem trans {first middle last : Cursor} (before : first.Reaches middle)
    (after : middle.Reaches last) : first.Reaches last := by
  obtain ⟨passed, restEq, columnEq⟩ := before
  obtain ⟨passed', restEq', columnEq'⟩ := after
  refine ⟨passed ++ passed', ?_, ?_⟩
  · rw [restEq, restEq', List.append_assoc]
  · rw [columnEq', columnEq, Text.width_append, Nat.add_assoc]

theorem column_le {first last : Cursor} (reaches : first.Reaches last) :
    first.column ≤ last.column := by
  obtain ⟨passed, -, columnEq⟩ := reaches
  omega

theorem rest_lt {first last : Cursor} (reaches : first.Reaches last)
    (passes : first.column < last.column) : last.rest.length < first.rest.length := by
  obtain ⟨passed, restEq, columnEq⟩ := reaches
  have positive : passed ≠ [] := by
    rintro rfl
    rw [Text.width_nil] at columnEq
    omega
  rw [restEq, List.length_append]
  exact Nat.lt_add_of_pos_left (List.length_pos_iff.mpr positive)

theorem upTo {first last : Cursor} (reaches : first.Reaches last) :
    first.rest = first.upTo last ++ last.rest ∧
      last.column = first.column + Text.width (first.upTo last) := by
  obtain ⟨passed, restEq, columnEq⟩ := reaches
  have passedEq : first.upTo last = passed := by
    simp [Cursor.upTo, restEq]
  rw [passedEq]
  exact ⟨restEq, columnEq⟩

end Reaches

theorem reaches_next {cursor : Cursor} {c : Char} {rest : Text}
    (follows : cursor.rest = c :: rest) : cursor.Reaches (cursor.next c rest) :=
  ⟨[c], follows, rfl⟩

/-! ### Places of a text -/

section

variable {cursor first other : Cursor} {c : Char} {rest : Text}

/-- The places of a text from a cursor on, where the rest of the text is given. -/
def walk : Text → Cursor → List Cursor
  | [], cursor => [cursor]
  | c :: rest, cursor => cursor :: walk rest (cursor.next c rest)

/-- The places of a text from a cursor on. -/
def onward (cursor : Cursor) : List Cursor :=
  walk cursor.rest cursor

theorem onward_of_nil (ends : cursor.rest = []) : cursor.onward = [cursor] := by
  rw [onward, ends, walk]

theorem onward_of_cons (follows : cursor.rest = c :: rest) :
    cursor.onward = cursor :: (cursor.next c rest).onward := by
  rw [onward, follows, walk]
  rfl

theorem length_onward (cursor : Cursor) : cursor.onward.length = cursor.rest.length + 1 := by
  obtain ⟨column, before, rest⟩ := cursor
  induction rest generalizing column before with
  | nil => rfl
  | cons c rest ih =>
      rw [onward_of_cons rfl, List.length_cons, next, ih]
      rfl

theorem self_mem_onward (cursor : Cursor) : cursor ∈ cursor.onward := by
  cases follows : cursor.rest with
  | nil => simp [onward_of_nil follows]
  | cons c rest => simp [onward_of_cons follows]

theorem next_mem_onward (follows : cursor.rest = c :: rest) :
    cursor.next c rest ∈ cursor.onward := by
  rw [onward_of_cons follows]
  exact List.mem_cons_of_mem _ (self_mem_onward _)

theorem reaches_of_mem_onward (member : other ∈ cursor.onward) : cursor.Reaches other := by
  obtain ⟨column, before, rest⟩ := cursor
  induction rest generalizing column before with
  | nil =>
      rw [onward_of_nil rfl, List.mem_singleton] at member
      exact member ▸ Reaches.refl _
  | cons c rest ih =>
      rw [onward_of_cons rfl] at member
      rcases List.mem_cons.mp member with rfl | later
      · exact Reaches.refl _
      · exact (reaches_next rfl).trans (ih _ _ later)

theorem onward_subset (member : cursor ∈ first.onward) : cursor.onward ⊆ first.onward := by
  obtain ⟨column, before, rest⟩ := first
  induction rest generalizing column before with
  | nil =>
      rw [onward_of_nil rfl, List.mem_singleton] at member
      rw [member]
      exact List.Subset.refl _
  | cons c rest ih =>
      rw [onward_of_cons rfl] at member
      rcases List.mem_cons.mp member with same | later
      · rw [same]
        exact List.Subset.refl _
      · have whole : onward ⟨column, before, c :: rest⟩ = _ :: _ := onward_of_cons rfl
        rw [whole]
        exact fun place placeMember => List.mem_cons_of_mem _ (ih _ _ later placeMember)

theorem mem_onward_of_skip? {text : Text} {last : Cursor}
    (skipped : skip? text cursor = some last) : last ∈ cursor.onward := by
  induction text generalizing cursor with
  | nil =>
      obtain rfl : cursor = last := by simpa [skip?] using skipped
      exact self_mem_onward _
  | cons c text ih =>
      cases follows : cursor.rest with
      | nil => simp [skip?, follows] at skipped
      | cons d rest =>
          rw [skip?, follows] at skipped
          by_cases same : c = d
          · simp only [if_pos same] at skipped
            exact onward_subset (next_mem_onward follows) (ih skipped)
          · simp [same] at skipped

end

/-- A text can only be skipped where it follows. -/
theorem eq_append_of_skip? {text : Text} {cursor last : Cursor}
    (skipped : skip? text cursor = some last) : cursor.rest = text ++ last.rest := by
  induction text generalizing cursor with
  | nil =>
      obtain rfl : cursor = last := by simpa [skip?] using skipped
      rfl
  | cons c text ih =>
      cases follows : cursor.rest with
      | nil => simp [skip?, follows] at skipped
      | cons d rest =>
          rw [skip?, follows] at skipped
          by_cases same : c = d
          · simp only [if_pos same] at skipped
            have restEq : rest = text ++ last.rest := ih skipped
            rw [same, restEq, List.cons_append]
          · simp [same] at skipped

end Cursor

namespace Pattern

namespace Step

theorem onward_of_mem_threads {step : Step} {thread after : Thread}
    (member : after ∈ step.threads thread) : after.cursor ∈ thread.cursor.onward := by
  cases step with
  | literal text next =>
      simp only [threads, Option.mem_toList, Option.map_eq_some_iff] at member
      obtain ⟨cursor, skipped, rfl⟩ := member
      exact Cursor.mem_onward_of_skip? skipped
  | one set next =>
      cases follows : thread.cursor.rest with
      | nil => simp [threads, follows] at member
      | cons c rest =>
          simp only [threads, follows] at member
          split at member
          · obtain rfl := List.mem_singleton.mp member
            exact Cursor.next_mem_onward follows
          · simp at member
  | assert condition next =>
      simp only [threads] at member
      split at member
      · obtain rfl := List.mem_singleton.mp member
        exact Cursor.self_mem_onward _
      · simp at member
  | fork preferred other =>
      simp only [threads, List.mem_cons, List.not_mem_nil, or_false] at member
      rcases member with rfl | rfl <;> exact Cursor.self_mem_onward _
  | goto next =>
      obtain rfl := List.mem_singleton.mp member
      exact Cursor.self_mem_onward _
  | enter name next =>
      obtain rfl := List.mem_singleton.mp member
      exact Cursor.self_mem_onward _
  | leave name next =>
      obtain rfl := List.mem_singleton.mp member
      exact Cursor.self_mem_onward _
  | accept => simp [threads] at member

theorem reaches_of_mem_threads {step : Step} {thread after : Thread}
    (member : after ∈ step.threads thread) : thread.cursor.Reaches after.cursor :=
  Cursor.reaches_of_mem_onward (onward_of_mem_threads member)

end Step

namespace Program

/-- What holds of the threads at the start and is kept by every step holds of the thread
that accepts. -/
theorem holds_of_explore {program : Program} {Holds : Thread → Prop}
    (keeps : ∀ thread step, program[thread.step]? = some step → Holds thread →
      ∀ after ∈ step.threads thread, Holds after)
    {fuel : Nat} {pending : List Thread} {visited after : Visited} {found : Thread}
    (holds : ∀ thread ∈ pending, Holds thread)
    (explored : program.explore fuel pending visited = (some found, after)) :
    Holds found ∧ program[found.step]? = some .accept := by
  induction fuel generalizing pending visited with
  | zero => simp [explore] at explored
  | succ fuel ih =>
      cases pending with
      | nil => simp [explore] at explored
      | cons thread pending =>
          have here := holds thread List.mem_cons_self
          have later : ∀ other ∈ pending, Holds other :=
            fun other member => holds other (List.mem_cons_of_mem _ member)
          simp only [explore] at explored
          split at explored
          · exact ih later explored
          · split at explored
            · exact ih later explored
            · rename_i accepts
              obtain ⟨rfl, -⟩ : thread = found ∧ visited = after := by
                simpa using explored
              exact ⟨here, accepts⟩
            · rename_i step _ stepAt
              refine ih ?_ explored
              intro other member
              rcases List.mem_append.mp member with stepped | waiting
              · exact keeps thread step stepAt here other stepped
              · exact later other waiting

/-- A search ends with threads followed from one place, from which one accepts. -/
theorem explored_of_searchFrom {program : Program} {fuel : Nat} {rest : Text}
    {cursor first : Cursor} {visited : Visited} {thread : Thread}
    (restEq : cursor.rest = rest)
    (found : program.searchFrom fuel rest cursor visited = some (first, thread)) :
    cursor.Reaches first ∧ ∃ before after,
      program.explore fuel [Thread.start first] before = (some thread, after) := by
  induction rest generalizing cursor visited with
  | nil =>
      rw [searchFrom] at found
      split at found
      · rename_i explored
        obtain ⟨rfl, rfl⟩ := Prod.mk.inj (Option.some.inj found)
        exact ⟨Cursor.Reaches.refl _, visited, _, explored⟩
      · simp at found
  | cons c rest ih =>
      rw [searchFrom] at found
      split at found
      · rename_i explored
        obtain ⟨rfl, rfl⟩ := Prod.mk.inj (Option.some.inj found)
        exact ⟨Cursor.Reaches.refl _, visited, _, explored⟩
      · obtain ⟨behind, explored⟩ := ih rfl found
        exact ⟨(Cursor.reaches_next restEq).trans behind, explored⟩

/-- What holds of the thread at the start of a search and is kept by every step holds of the
thread that accepts. -/
theorem holds_of_search {program : Program} {cursor first : Cursor} {thread : Thread}
    {Holds : Thread → Prop}
    (keeps : ∀ thread step, program[thread.step]? = some step → Holds thread →
      ∀ after ∈ step.threads thread, Holds after)
    (holds : Holds (Thread.start first))
    (found : program.search cursor = some (first, thread)) :
    Holds thread ∧ program[thread.step]? = some .accept := by
  obtain ⟨-, before, after, explored⟩ := explored_of_searchFrom rfl found
  exact holds_of_explore keeps (by simpa using holds) explored

theorem reaches_of_search {program : Program} {cursor first : Cursor} {thread : Thread}
    (found : program.search cursor = some (first, thread)) :
    cursor.Reaches first ∧ first.Reaches thread.cursor := by
  refine ⟨(explored_of_searchFrom rfl found).1, ?_⟩
  have keeps : ∀ (other : Thread) (step : Step), program[other.step]? = some step →
      first.Reaches other.cursor → ∀ after ∈ step.threads other, first.Reaches after.cursor :=
    fun other step _ reached after member =>
      reached.trans (Step.reaches_of_mem_threads member)
  exact (holds_of_search keeps (Cursor.Reaches.refl first) found).1

end Program

namespace Occurrence

/-- An occurrence is a piece of what follows a cursor, at the column where it
starts, and it has characters. -/
def LiesAfter (cursor : Cursor) (found : Occurrence) : Prop :=
  ∃ left right, cursor.rest = left ++ (found.text ++ right) ∧
    found.start = cursor.column + Text.width left ∧ found.text ≠ []

theorem LiesAfter.of_reaches {cursor later : Cursor} {found : Occurrence}
    (reaches : cursor.Reaches later) (lies : found.LiesAfter later) :
    found.LiesAfter cursor := by
  obtain ⟨passed, restEq, columnEq⟩ := reaches
  obtain ⟨left, right, laterEq, startEq, nonempty⟩ := lies
  refine ⟨passed ++ left, right, ?_, ?_, nonempty⟩
  · rw [restEq, laterEq, List.append_assoc]
  · rw [startEq, columnEq, Text.width_append, Nat.add_assoc]

theorem LiesAfter.column_le {cursor : Cursor} {found : Occurrence}
    (lies : found.LiesAfter cursor) : cursor.column ≤ found.start := by
  obtain ⟨left, right, -, startEq, -⟩ := lies
  omega

end Occurrence

/-- The occurrences behind a cursor lie there, one after the other. -/
theorem occurrencesFrom_lieAfter (program : Program) (steps : Nat) (cursor : Cursor) :
    (∀ found ∈ occurrencesFrom program steps cursor, found.LiesAfter cursor) ∧
      (occurrencesFrom program steps cursor).Pairwise fun left right =>
        left.stop ≤ right.start := by
  induction steps generalizing cursor with
  | zero => simp [occurrencesFrom]
  | succ steps ih =>
      rw [occurrencesFrom]
      split
      · simp
      · rename_i first thread found
        obtain ⟨behind, ends⟩ := Program.reaches_of_search found
        obtain ⟨firstRest, stopColumn⟩ := ends.upTo
        split
        · rename_i moved
          obtain ⟨lie, ordered⟩ := ih thread.cursor
          have nonempty : first.upTo thread.cursor ≠ [] := by
            intro empty
            rw [empty] at stopColumn
            simp at stopColumn
            omega
          have lies : Occurrence.LiesAfter first
              ⟨first.column, first.upTo thread.cursor, thread.captures⟩ :=
            ⟨[], thread.cursor.rest, firstRest, rfl, nonempty⟩
          constructor
          · intro other member
            rcases List.mem_cons.mp member with rfl | later
            · exact lies.of_reaches behind
            · exact (lie other later).of_reaches (behind.trans ends)
          · refine List.pairwise_cons.mpr ⟨?_, ordered⟩
            intro other member
            have after := (lie other member).column_le
            rw [stopColumn] at after
            exact after
        · split
          · simp
          · rename_i c rest follows
            -- An empty match is left out, and the search goes on behind the next character.
            obtain ⟨lie, ordered⟩ := ih (first.next c rest)
            have reaches := behind.trans (Cursor.reaches_next follows)
            exact ⟨fun other member => (lie other member).of_reaches reaches, ordered⟩

/-- Every occurrence is what a search has passed. -/
theorem exists_search_of_mem_occurrencesFrom {program : Program} {steps : Nat}
    {cursor : Cursor} {found : Occurrence}
    (member : found ∈ occurrencesFrom program steps cursor) :
    ∃ start first thread, program.search start = some (first, thread) ∧
      found.text = first.upTo thread.cursor := by
  induction steps generalizing cursor with
  | zero => simp [occurrencesFrom] at member
  | succ steps ih =>
      rw [occurrencesFrom] at member
      split at member
      · simp at member
      · rename_i first thread searched
        split at member
        · rcases List.mem_cons.mp member with rfl | later
          · exact ⟨cursor, first, thread, searched, rfl⟩
          · exact ih later
        · split at member
          · simp at member
          · exact ih member

theorem exists_append_of_mem_occurrences {pattern : Pattern} {text : Text}
    {found : Occurrence} (member : found ∈ pattern.occurrences text) :
    ∃ left right, text = left ++ (found.text ++ right) ∧
      found.start = Text.width left ∧ found.text ≠ [] := by
  obtain ⟨left, right, textEq, startEq, nonempty⟩ :=
    (occurrencesFrom_lieAfter _ _ _).1 found member
  exact ⟨left, right, textEq, by simpa [Cursor.start] using startEq, nonempty⟩

/-- The occurrences of a text do not overlap and go from left to right. -/
theorem occurrences_ordered (pattern : Pattern) (text : Text) :
    (pattern.occurrences text).Pairwise fun left right => left.stop ≤ right.start :=
  (occurrencesFrom_lieAfter _ _ _).2

@[simp]
theorem occurrences_nil (pattern : Pattern) : pattern.occurrences [] = [] := rfl

end Pattern

end Pinpoint
