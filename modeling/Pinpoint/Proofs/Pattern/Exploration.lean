import Mathlib.Data.Finset.Prod
import Mathlib.Logic.Relation
import Pinpoint.Proofs.Pattern.Occurrences

/-!
# What a search finds

Followed one after the other, without regard to what has been visited, the threads of a
program come to a list of threads that accept, the preferred one first.  The search finds
the first of them: a thread that it does not follow stands at places from which no thread
accepts, and its fuel lasts for all pairs of places.
-/

namespace Pinpoint

namespace Cursor

variable {cursor first other : Cursor} {c : Char} {rest : Text}

/-- No two places of a text have the same column. -/
theorem eq_of_column_eq (member : cursor ∈ first.onward) (otherMember : other ∈ first.onward)
    (same : cursor.column = other.column) : cursor = other := by
  obtain ⟨column, before, rest⟩ := first
  induction rest generalizing column before with
  | nil =>
      rw [onward_of_nil rfl, List.mem_singleton] at member otherMember
      rw [member, otherMember]
  | cons c rest ih =>
      have apart : ∀ later ∈ (Cursor.next ⟨column, before, c :: rest⟩ c rest).onward,
          column < later.column := by
        intro later member
        have columnLe := (reaches_of_mem_onward member).column_le
        have positive := Char.utf8Size_pos c
        simp only [next] at columnLe
        omega
      rw [onward_of_cons rfl] at member otherMember
      rcases List.mem_cons.mp member with rfl | later
      · rcases List.mem_cons.mp otherMember with rfl | otherLater
        · rfl
        · exact absurd same (Nat.ne_of_lt (apart other otherLater))
      · rcases List.mem_cons.mp otherMember with rfl | otherLater
        · exact absurd same.symm (Nat.ne_of_lt (apart cursor later))
        · exact ih _ _ later otherLater

end Cursor

namespace Pattern

/-- Where a thread stands: its place in the program and its place in the text. -/
def Thread.spot (thread : Thread) : Nat × Cursor :=
  (thread.step, thread.cursor)

theorem Thread.step_eq_of_spot {thread other : Thread} (same : thread.spot = other.spot) :
    thread.step = other.step := congrArg Prod.fst same

theorem Thread.cursor_eq_of_spot {thread other : Thread} (same : thread.spot = other.spot) :
    thread.cursor = other.cursor := congrArg Prod.snd same

namespace Step

/-- Where the threads stand that a thread goes on as only depends on where it stands. -/
theorem map_spot_threads (step : Step) {thread other : Thread}
    (same : thread.spot = other.spot) :
    (step.threads thread).map Thread.spot = (step.threads other).map Thread.spot := by
  have cursorEq := Thread.cursor_eq_of_spot same
  cases step with
  | literal text next =>
      simp only [threads, cursorEq]
      cases other.cursor.skip? text <;> rfl
  | one set next =>
      simp only [threads, cursorEq]
      cases other.cursor.rest with
      | nil => rfl
      | cons c rest =>
          simp only
          split <;> rfl
  | assert condition next =>
      simp only [threads, cursorEq]
      split
      · simp [Thread.spot, Thread.jumped, cursorEq]
      · rfl
  | fork preferred other => simp [threads, Thread.spot, Thread.jumped, cursorEq]
  | goto next => simp [threads, Thread.spot, Thread.jumped, cursorEq]
  | enter name next => simp [threads, Thread.spot, Thread.opened, cursorEq]
  | leave name next => simp [threads, Thread.spot, Thread.closed, cursorEq]
  | accept => rfl

theorem length_threads_le (step : Step) (thread : Thread) :
    (step.threads thread).length ≤ 2 := by
  cases step with
  | literal text next =>
      simp only [threads]
      cases thread.cursor.skip? text <;> simp
  | one set next =>
      simp only [threads]
      split
      · simp
      · split <;> simp
  | assert condition next =>
      simp only [threads]
      split <;> simp
  | _ => simp [threads]

end Step

namespace Program

variable {program : Program} {first : Cursor}

/-- Threads, and those that accept in the end if all threads that they go on as are followed,
the preferred ones first. -/
inductive Leads (program : Program) : List Thread → List Thread → Prop
  | nil : Leads program [] []
  | accept {thread : Thread} {rest further : List Thread}
      (stepAt : program[thread.step]? = some .accept) (later : Leads program rest further) :
      Leads program (thread :: rest) (thread :: further)
  | step {thread : Thread} {step : Step} {rest found further : List Thread}
      (stepAt : program[thread.step]? = some step) (goesOn : step ≠ .accept)
      (here : Leads program (step.threads thread) found)
      (later : Leads program rest further) : Leads program (thread :: rest) (found ++ further)

/-- Threads that stand at the same places accept both or neither. -/
theorem Leads.eq_nil_iff {threads others found otherFound : List Thread}
    (leads : Leads program threads found) (otherLeads : Leads program others otherFound)
    (same : threads.map Thread.spot = others.map Thread.spot) :
    found = [] ↔ otherFound = [] := by
  induction leads generalizing others otherFound with
  | nil =>
      obtain rfl : others = [] := by simpa using same.symm
      cases otherLeads
      simp
  | accept stepAt later ih =>
      cases otherLeads with
      | nil => simp at same
      | accept otherAt otherLater => simp
      | step otherAt goesOn otherHere otherLater =>
          obtain ⟨spotEq, -⟩ := List.cons.inj same
          rw [Thread.step_eq_of_spot spotEq] at stepAt
          exact absurd (Option.some.inj (otherAt.symm.trans stepAt)) goesOn
  | step stepAt goesOn here later ihHere ihLater =>
      cases otherLeads with
      | nil => simp at same
      | accept otherAt otherLater =>
          obtain ⟨spotEq, -⟩ := List.cons.inj same
          rw [Thread.step_eq_of_spot spotEq] at stepAt
          exact absurd (Option.some.inj (stepAt.symm.trans otherAt)) goesOn
      | step otherAt otherGoesOn otherHere otherLater =>
          obtain ⟨spotEq, restEq⟩ := List.cons.inj same
          rw [Thread.step_eq_of_spot spotEq] at stepAt
          obtain rfl := Option.some.inj (stepAt.symm.trans otherAt)
          rw [List.append_eq_nil_iff, List.append_eq_nil_iff,
            ihHere otherHere (Step.map_spot_threads _ spotEq), ihLater otherLater restEq]

/-- Where threads stand that a thread at one place goes on as. -/
def Follows (program : Program) (spot after : Nat × Cursor) : Prop :=
  ∃ (thread : Thread) (step : Step), thread.spot = spot ∧ program[thread.step]? = some step ∧
    after ∈ (step.threads thread).map Thread.spot

/-- Threads that can be followed to the end do not come to the same place again. -/
theorem Leads.acc {threads found : List Thread} (leads : Leads program threads found) :
    ∀ thread ∈ threads, Acc (fun after spot => program.Follows spot after) thread.spot := by
  induction leads with
  | nil => simp
  | accept stepAt later ih =>
      intro thread member
      rcases List.mem_cons.mp member with rfl | waiting
      · refine Acc.intro _ fun after follows => ?_
        obtain ⟨other, step, spotEq, otherAt, afterMember⟩ := follows
        rw [Thread.step_eq_of_spot spotEq] at otherAt
        obtain rfl := Option.some.inj (stepAt.symm.trans otherAt)
        simp [Step.threads] at afterMember
      · exact ih thread waiting
  | step stepAt goesOn here later ihHere ihLater =>
      intro thread member
      rcases List.mem_cons.mp member with rfl | waiting
      · refine Acc.intro _ fun after follows => ?_
        obtain ⟨other, step, spotEq, otherAt, afterMember⟩ := follows
        rw [Thread.step_eq_of_spot spotEq] at otherAt
        obtain rfl := Option.some.inj (stepAt.symm.trans otherAt)
        rw [Step.map_spot_threads _ spotEq] at afterMember
        obtain ⟨next, nextMember, rfl⟩ := List.mem_map.mp afterMember
        exact ihHere next nextMember
      · exact ihLater thread waiting

/-- One place leads to another, or is the same. -/
abbrev ReachesSpot (program : Program) : Nat × Cursor → Nat × Cursor → Prop :=
  Relation.ReflTransGen program.Follows

theorem not_reachesSpot_of_follows {spot after : Nat × Cursor}
    (acc : Acc (fun after spot => program.Follows spot after) spot)
    (follows : program.Follows spot after) : ¬ program.ReachesSpot after spot := by
  -- A round that leads back to the place could be made again from the next place on.
  induction acc generalizing after with
  | intro spot _ ih =>
      intro reaches
      rcases Relation.ReflTransGen.cases_head reaches with rfl | ⟨next, nextFollows, back⟩
      · exact ih after follows follows .refl
      · exact ih after follows nextFollows (back.tail follows)

/-- No thread that stands at the place accepts in the end. -/
def Dead (program : Program) (spot : Nat × Cursor) : Prop :=
  ∀ thread found, Thread.spot thread = spot → Leads program [thread] found → found = []

theorem Leads.dead {thread : Thread} (leads : Leads program [thread] []) :
    program.Dead thread.spot := by
  intro other found spotEq otherLeads
  exact (leads.eq_nil_iff otherLeads (by simp [spotEq])).mp rfl

/-- The visited places to which a place leads are places from which no thread accepts. -/
def Safe (program : Program) (first : Cursor) (visited : Visited) (spot : Nat × Cursor) : Prop :=
  ∀ other, program.ReachesSpot spot other → other.2 ∈ first.onward →
    visited.contains (other.1, other.2.column) = true → program.Dead other

/-- What has been visited besides are places from which no thread accepts. -/
def Grows (program : Program) (first : Cursor) (visited after : Visited) : Prop :=
  ∀ spot : Nat × Cursor, spot.2 ∈ first.onward →
    after.contains (spot.1, spot.2.column) = true →
      visited.contains (spot.1, spot.2.column) = true ∨ program.Dead spot

theorem Grows.refl (visited : Visited) : program.Grows first visited visited :=
  fun _ _ contained => Or.inl contained

theorem Grows.trans {before middle after : Visited} (early : program.Grows first before middle)
    (late : program.Grows first middle after) : program.Grows first before after := by
  intro spot onward contained
  rcases late spot onward contained with old | dead
  · exact early spot onward old
  · exact Or.inr dead

theorem Safe.of_grows {visited after : Visited} {spot : Nat × Cursor}
    (safe : program.Safe first visited spot) (grows : program.Grows first visited after) :
    program.Safe first after spot := by
  intro other reaches onward contained
  rcases grows other onward contained with old | dead
  · exact safe other reaches onward old
  · exact dead

/-- Pairs of places in a program and in a text that have not been visited. -/
def unvisited (program : Program) (first : Cursor) (visited : Visited) : Nat :=
  ((Finset.range program.size ×ˢ (first.onward.map Cursor.column).toFinset).filter
    fun place => visited.contains place = false).card

theorem unvisited_le (program : Program) (first : Cursor) (visited : Visited) :
    program.unvisited first visited ≤ program.size * (first.rest.length + 1) := by
  have columns := List.toFinset_card_le (first.onward.map Cursor.column)
  rw [List.length_map, Cursor.length_onward] at columns
  refine (Finset.card_filter_le _ _).trans ?_
  rw [Finset.card_product, Finset.card_range]
  exact Nat.mul_le_mul_left _ columns

theorem unvisited_insert {thread : Thread} {step : Step}
    (stepAt : program[thread.step]? = some step) (onward : thread.cursor ∈ first.onward)
    {visited : Visited}
    (fresh : visited.contains (thread.step, thread.cursor.column) = false) :
    program.unvisited first (visited.insert (thread.step, thread.cursor.column)) + 1 ≤
      program.unvisited first visited := by
  have within : thread.step < program.size := (Array.getElem?_eq_some_iff.mp stepAt).1
  refine Nat.succ_le_of_lt (Finset.card_lt_card ?_)
  rw [Finset.ssubset_iff_of_subset]
  · refine ⟨(thread.step, thread.cursor.column), ?_, ?_⟩
    · simp only [Finset.mem_filter, Finset.mem_product, Finset.mem_range, List.mem_toFinset]
      exact ⟨⟨within, List.mem_map_of_mem onward⟩, fresh⟩
    · simp
  · intro place member
    simp only [Finset.mem_filter, Std.HashSet.contains_insert, Bool.or_eq_false_iff] at member ⊢
    exact ⟨member.1, member.2.2⟩

/-- What becomes of threads that are followed, with others waiting behind them: the first one
that accepts is found, or there is none and the others are next. -/
def Outcome (program : Program) (first : Cursor) (fuel : Nat) (threads found waiting : List Thread)
    (visited : Visited) : Prop :=
  (∃ thread rest, found = thread :: rest ∧
    (program.explore fuel (threads ++ waiting) visited).1 = some thread) ∨
  (found = [] ∧ ∃ left after,
    program.explore fuel (threads ++ waiting) visited = program.explore left waiting after ∧
    2 * program.unvisited first after + waiting.length ≤ left ∧
    program.Grows first visited after)

theorem explore_of_visited {fuel : Nat} {thread : Thread} {pending : List Thread}
    {visited : Visited}
    (seen : visited.contains (thread.step, thread.cursor.column) = true) :
    program.explore (fuel + 1) (thread :: pending) visited =
      program.explore fuel pending visited := by
  rw [explore]
  simp only [seen, if_true]

theorem explore_of_accept {fuel : Nat} {thread : Thread} {pending : List Thread}
    {visited : Visited} (stepAt : program[thread.step]? = some .accept)
    (fresh : visited.contains (thread.step, thread.cursor.column) = false) :
    program.explore (fuel + 1) (thread :: pending) visited = (some thread, visited) := by
  rw [explore]
  simp only [fresh, Bool.false_eq_true, if_false, stepAt]

theorem explore_of_step {fuel : Nat} {thread : Thread} {step : Step} {pending : List Thread}
    {visited : Visited} (stepAt : program[thread.step]? = some step) (goesOn : step ≠ .accept)
    (fresh : visited.contains (thread.step, thread.cursor.column) = false) :
    program.explore (fuel + 1) (thread :: pending) visited =
      program.explore fuel (step.threads thread ++ pending)
        (visited.insert (thread.step, thread.cursor.column)) := by
  rw [explore]
  simp only [fresh, Bool.false_eq_true, if_false, stepAt]

theorem Leads.of_step {thread : Thread} {step : Step} {found : List Thread}
    (stepAt : program[thread.step]? = some step) (goesOn : step ≠ .accept)
    (here : Leads program (step.threads thread) found) : Leads program [thread] found := by
  have both := Leads.step stepAt goesOn here .nil
  rwa [List.append_nil] at both

/-- A place stays safe when a place is visited that leads to it. -/
theorem Safe.insert {thread : Thread} {after : Nat × Cursor} {visited : Visited}
    (onward : thread.cursor ∈ first.onward)
    (acc : Acc (fun after spot => program.Follows spot after) thread.spot)
    (follows : program.Follows thread.spot after)
    (safe : program.Safe first visited thread.spot) :
    program.Safe first (visited.insert (thread.step, thread.cursor.column)) after := by
  intro other reaches otherOnward contained
  rw [Std.HashSet.contains_insert, Bool.or_eq_true, beq_iff_eq, Prod.mk.injEq] at contained
  rcases contained with ⟨stepEq, columnEq⟩ | old
  · have same : other = thread.spot :=
      Prod.ext stepEq.symm (Cursor.eq_of_column_eq otherOnward onward columnEq.symm)
    exact absurd (same ▸ reaches) (not_reachesSpot_of_follows acc follows)
  · exact safe other (.head follows reaches) otherOnward old

theorem Outcome.explore {threads found : List Thread} (leads : Leads program threads found)
    (onward : ∀ thread ∈ threads, thread.cursor ∈ first.onward) {visited : Visited}
    (safe : ∀ thread ∈ threads, program.Safe first visited thread.spot)
    {waiting : List Thread} {fuel : Nat}
    (enough : 2 * program.unvisited first visited + (threads.length + waiting.length) ≤ fuel) :
    program.Outcome first fuel threads found waiting visited := by
  -- By induction on how the threads lead to those found.  The visited places are dead or
  -- behind the threads, so a thread that is not followed would not have been found.
  induction leads generalizing visited waiting fuel with
  | nil => exact Or.inr ⟨rfl, fuel, visited, rfl, by simpa using enough, Grows.refl visited⟩
  | accept stepAt later ih =>
      rename_i thread rest further
      have fresh : visited.contains (thread.step, thread.cursor.column) = false := by
        by_contra seen
        rw [Bool.not_eq_false] at seen
        have dead := safe thread List.mem_cons_self thread.spot .refl
          (onward thread List.mem_cons_self) seen
        have none := dead thread [thread] rfl (.accept stepAt .nil)
        simp at none
      obtain ⟨fuel, rfl⟩ : ∃ fewer, fuel = fewer + 1 := by
        rw [List.length_cons] at enough
        exact ⟨fuel - 1, by omega⟩
      refine Or.inl ⟨thread, further, rfl, ?_⟩
      rw [List.cons_append, explore_of_accept stepAt fresh]
  | step stepAt goesOn here later ihHere ihLater =>
      rename_i thread step rest found further
      have hereOnward := onward thread List.mem_cons_self
      have hereSafe := safe thread List.mem_cons_self
      have restOnward : ∀ other ∈ rest, other.cursor ∈ first.onward :=
        fun other member => onward other (List.mem_cons_of_mem _ member)
      have restSafe : ∀ other ∈ rest, program.Safe first visited other.spot :=
        fun other member => safe other (List.mem_cons_of_mem _ member)
      have leadsHere := Leads.of_step stepAt goesOn here
      rw [List.length_cons] at enough
      obtain ⟨fuel, rfl⟩ : ∃ fewer, fuel = fewer + 1 := ⟨fuel - 1, by omega⟩
      cases seen : visited.contains (thread.step, thread.cursor.column) with
      | true =>
          have dead := hereSafe thread.spot .refl hereOnward seen
          obtain rfl := dead thread found rfl leadsHere
          rw [Outcome, List.cons_append, explore_of_visited seen]
          exact ihLater restOnward restSafe (by omega)
      | false =>
          have fewer := unvisited_insert stepAt hereOnward seen
          have few : (step.threads thread).length ≤ 2 := step.length_threads_le thread
          have acc := Leads.acc leadsHere thread (List.mem_singleton.mpr rfl)
          have afterOnward : ∀ after ∈ step.threads thread, after.cursor ∈ first.onward :=
            fun after member =>
              Cursor.onward_subset hereOnward (Step.onward_of_mem_threads member)
          have afterSafe : ∀ after ∈ step.threads thread, program.Safe first
              (visited.insert (thread.step, thread.cursor.column)) after.spot := by
            intro after member
            exact hereSafe.insert hereOnward acc
              ⟨thread, step, rfl, stepAt, List.mem_map_of_mem member⟩
          have outcome : program.Outcome first fuel (step.threads thread) found (rest ++ waiting)
              (visited.insert (thread.step, thread.cursor.column)) :=
            ihHere afterOnward afterSafe (by rw [List.length_append]; omega)
          rw [Outcome, List.cons_append, explore_of_step stepAt goesOn seen]
          rcases outcome with ⟨accepted, others, rfl, foundEq⟩ |
            ⟨rfl, left, after, exploreEq, enoughLeft, grows⟩
          · exact Or.inl ⟨accepted, others ++ further, rfl, foundEq⟩
          · have growsOn : program.Grows first visited after := by
              intro spot spotOnward contained
              rcases grows spot spotOnward contained with inserted | dead
              · rw [Std.HashSet.contains_insert, Bool.or_eq_true, beq_iff_eq, Prod.mk.injEq]
                  at inserted
                rcases inserted with ⟨stepEq, columnEq⟩ | old
                · have same : spot = thread.spot := Prod.ext stepEq.symm
                    (Cursor.eq_of_column_eq spotOnward hereOnward columnEq.symm)
                  exact Or.inr (same ▸ leadsHere.dead)
                · exact Or.inl old
              · exact Or.inr dead
            rw [exploreEq, List.nil_append]
            rw [List.length_append] at enoughLeft
            rcases ihLater restOnward (fun other member => (restSafe other member).of_grows growsOn)
              enoughLeft with accepted | ⟨rfl, rest', after', exploreEq', enough', grows'⟩
            · exact Or.inl accepted
            · exact Or.inr ⟨rfl, rest', after', exploreEq', enough', growsOn.trans grows'⟩

/-- All that has been visited of a text are places from which no thread accepts. -/
def AllDead (program : Program) (first : Cursor) (visited : Visited) : Prop :=
  ∀ spot : Nat × Cursor, spot.2 ∈ first.onward →
    visited.contains (spot.1, spot.2.column) = true → program.Dead spot

/-- Where only dead places have been visited, the preferred thread that accepts is found. -/
theorem explore_of_leads {thread : Thread} {found : List Thread}
    (leads : Leads program [thread] found) (onward : thread.cursor ∈ first.onward)
    {visited : Visited} (dead : program.AllDead first visited) :
    ∃ after, program.explore (program.fuelFor first.rest) [thread] visited =
      (found.head?, after) ∧ (found = [] → program.AllDead first after) := by
  have enough : 2 * program.unvisited first visited + (1 + 0) ≤ program.fuelFor first.rest := by
    have bound := program.unvisited_le first visited
    rw [fuelFor, Nat.mul_assoc]
    omega
  have outcome : program.Outcome first (program.fuelFor first.rest) [thread] found [] visited :=
    Outcome.explore leads (by simpa using onward)
      (fun _ _ other _ otherOnward contained => dead other otherOnward contained) enough
  rw [Outcome, List.append_nil] at outcome
  rcases outcome with ⟨accepted, others, rfl, explored⟩ | ⟨rfl, left, after, explored, -, grows⟩
  · exact ⟨_, Prod.ext explored rfl, by simp⟩
  · have ended : program.explore left [] after = (none, after) := by cases left <;> rfl
    refine ⟨after, explored.trans ended, fun _ spot spotOnward contained => ?_⟩
    rcases grows spot spotOnward contained with old | isDead
    · exact dead spot spotOnward old
    · exact isDead

theorem searchFrom_eq {found : Cursor → List Thread}
    (leads : ∀ place ∈ first.onward, Leads program [Thread.start place] (found place))
    {rest : Text} {cursor : Cursor} (follows : cursor.rest = rest)
    (member : cursor ∈ first.onward) {visited : Visited}
    (dead : program.AllDead first visited) :
    program.searchFrom (program.fuelFor first.rest) rest cursor visited =
      cursor.onward.findSome? fun place => (found place).head?.map (place, ·) := by
  induction rest generalizing cursor visited with
  | nil =>
      obtain ⟨after, explored, -⟩ := explore_of_leads (leads cursor member) member dead
      rw [searchFrom, explored, Cursor.onward_of_nil follows, List.findSome?_singleton]
      cases (found cursor).head? <;> rfl
  | cons c rest ih =>
      obtain ⟨after, explored, stillDead⟩ := explore_of_leads (leads cursor member) member dead
      -- What has been visited is kept for the next place, where it is as dead as before.
      rw [searchFrom, explored, Cursor.onward_of_cons follows, List.findSome?_cons]
      cases foundEq : found cursor with
      | cons thread others => rfl
      | nil =>
          have nextMember := Cursor.onward_subset member (Cursor.next_mem_onward follows)
          exact ih rfl nextMember (stillDead foundEq)

/-- A search finds the first place from which a thread accepts, and the preferred thread from
there. -/
theorem search_eq {cursor : Cursor} {found : Cursor → List Thread}
    (leads : ∀ place ∈ cursor.onward, Leads program [Thread.start place] (found place)) :
    program.search cursor =
      cursor.onward.findSome? fun place => (found place).head?.map (place, ·) :=
  searchFrom_eq leads rfl (Cursor.self_mem_onward _) (by simp [AllDead])

end Program

end Pattern

end Pinpoint
