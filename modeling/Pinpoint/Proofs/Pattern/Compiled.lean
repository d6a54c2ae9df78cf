import Pinpoint.Proofs.Pattern.Meaning

/-!
# The program of a pattern

The steps of a pattern take a thread to the ends of the pattern, in the same order, unless a
round of an unlimited repetition can pass no character.  So a search stops at the first
place from which the pattern comes to an end, and takes the first of these ends.
-/

namespace Pinpoint

namespace Pattern

theorem length_copies {size count start : Nat} {steps : Nat → List Step}
    (length_eq : ∀ start, (steps start).length = size) :
    (copies size count start steps).length = count * size := by
  rw [copies, List.length_flatMap]
  simp [length_eq]

theorem copies_succ (size count start : Nat) (steps : Nat → List Step) :
    copies size (count + 1) start steps =
      steps start ++ copies size count (start + size) steps := by
  rw [copies, List.range_succ_eq_map, List.flatMap_cons, Nat.zero_mul, Nat.add_zero,
    List.flatMap_map, copies]
  refine congrArg (_ ++ ·) (List.flatMap_congr fun k _ => ?_)
  rw [Nat.succ_mul]
  exact congrArg steps (by omega)

theorem copies_succ_last (size count start : Nat) (steps : Nat → List Step) :
    copies size (count + 1) start steps =
      copies size count start steps ++ steps (start + count * size) := by
  rw [copies, List.range_succ, List.flatMap_append, List.flatMap_singleton, copies]

theorem length_steps (pattern : Pattern) (start next : Nat) :
    (pattern.steps start next).length = pattern.size := by
  induction pattern generalizing start next with
  | seq first second ihFirst ihSecond => simp [steps, size, ihFirst, ihSecond]
  | alt first second ihFirst ihSecond =>
      simp only [steps, size, List.length_cons, List.length_append, ihFirst, ihSecond]
      omega
  | times greedy least most body ih =>
      cases most with
      | none =>
          simp only [steps, size]
          split
          · split
            · simp [ih]
            · simp [ih]
          · simp [length_copies fun start => ih start (start + body.size)]
      | some most =>
          have once := fun start => ih start (start + body.size)
          simp only [steps, size, List.length_append, List.length_singleton]
          rw [length_copies once]
          refine congrArg (_ + · + 1) (length_copies fun start => ?_)
          rw [List.length_cons, once]
  | group number name body ih =>
      cases name with
      | none => exact ih start next
      | some name => simp [steps, size, ih]
  | _ => rfl

namespace Program

variable {program : Program}

/-- Some steps stand in a program, the first one at a given number. -/
def HasSteps (program : Program) (start : Nat) (steps : List Step) : Prop :=
  ∀ index step, steps[index]? = some step → program[start + index]? = some step

theorem HasSteps.of_append {start : Nat} {left right : List Step}
    (has : program.HasSteps start (left ++ right)) :
    program.HasSteps start left ∧ program.HasSteps (start + left.length) right := by
  constructor
  · intro index step stepAt
    refine has index step ?_
    rw [List.getElem?_append_left (List.getElem?_eq_some_iff.mp stepAt).1]
    exact stepAt
  · intro index step stepAt
    rw [Nat.add_assoc]
    refine has (left.length + index) step ?_
    rw [List.getElem?_append_right (Nat.le_add_right _ _), Nat.add_sub_cancel_left]
    exact stepAt

theorem HasSteps.of_cons {start : Nat} {step : Step} {rest : List Step}
    (has : program.HasSteps start (step :: rest)) :
    program[start]? = some step ∧ program.HasSteps (start + 1) rest :=
  have both : program.HasSteps start ([step] ++ rest) := has
  ⟨has 0 step rfl, both.of_append.2⟩

/-- Whatever threads lead to, those lead to that they come from. -/
def Becomes (program : Program) (before after : List Thread) : Prop :=
  ∀ found, Leads program after found → Leads program before found

theorem Becomes.refl (threads : List Thread) : program.Becomes threads threads :=
  fun _ leads => leads

theorem Becomes.trans {before middle after : List Thread} (early : program.Becomes before middle)
    (late : program.Becomes middle after) : program.Becomes before after :=
  fun found leads => early found (late found leads)

theorem Becomes.of_step {number : Nat} {step : Step} (stepAt : program[number]? = some step)
    (goesOn : step ≠ .accept) (trail : Trail) :
    program.Becomes [trail.onStep number] (step.threads (trail.onStep number)) :=
  fun _ leads => Leads.of_step stepAt goesOn leads

theorem Leads.append {left right found further : List Thread}
    (leads : Leads program left found) (leadsFurther : Leads program right further) :
    Leads program (left ++ right) (found ++ further) := by
  induction leads with
  | nil => exact leadsFurther
  | accept stepAt _ ih => exact .accept stepAt ih
  | step stepAt goesOn here _ _ ih =>
      rw [List.append_assoc]
      exact .step stepAt goesOn here ih

theorem Leads.of_append {left right found : List Thread}
    (leads : Leads program (left ++ right) found) :
    ∃ early late, Leads program left early ∧ Leads program right late ∧
      found = early ++ late := by
  induction left generalizing found with
  | nil => exact ⟨[], found, .nil, leads, rfl⟩
  | cons thread rest ih =>
      cases leads with
      | accept stepAt later =>
          obtain ⟨early, late, leadsEarly, leadsLate, rfl⟩ := ih later
          exact ⟨thread :: early, late, .accept stepAt leadsEarly, leadsLate, rfl⟩
      | step stepAt goesOn here later =>
          obtain ⟨early, late, leadsEarly, leadsLate, rfl⟩ := ih later
          exact ⟨_, late, .step stepAt goesOn here leadsEarly, leadsLate,
            (List.append_assoc _ _ _).symm⟩

theorem Becomes.append {left right leftAfter rightAfter : List Thread}
    (first : program.Becomes left leftAfter) (second : program.Becomes right rightAfter) :
    program.Becomes (left ++ right) (leftAfter ++ rightAfter) := by
  intro found leads
  obtain ⟨early, late, leadsEarly, leadsLate, rfl⟩ := leads.of_append
  exact (first early leadsEarly).append (second late leadsLate)

theorem Becomes.flatMap {α : Type} {items : List α} {before : α → Thread}
    {after : α → List Thread} (each : ∀ item ∈ items, program.Becomes [before item] (after item)) :
    program.Becomes (items.map before) (items.flatMap after) := by
  induction items with
  | nil => exact .refl _
  | cons item rest ih =>
      have first := each item List.mem_cons_self
      exact first.append (ih fun other member => each other (List.mem_cons_of_mem _ member))

/-- A step of the program takes trails from one number to another as a function does. -/
def Runs (program : Program) (start : Nat) (round : Trail → List Trail) (next : Nat) : Prop :=
  ∀ trail, program.Becomes [trail.onStep start] ((round trail).map (Trail.onStep next))

theorem Runs.flatMap {start middle next : Nat} {round further : Trail → List Trail}
    (first : program.Runs start round middle) (second : program.Runs middle further next) :
    program.Runs start (fun trail => (round trail).flatMap further) next := by
  intro trail
  rw [List.map_flatMap]
  exact (first trail).trans (Becomes.flatMap fun after _ => second after)

theorem runs_inTurn {size count start : Nat} {steps : Nat → List Step}
    (length_eq : ∀ start, (steps start).length = size) {round : Trail → List Trail}
    (once : ∀ start, program.HasSteps start (steps start) →
      program.Runs start round (start + size))
    (has : program.HasSteps start (copies size count start steps)) :
    program.Runs start (inTurn round count) (start + count * size) := by
  induction count generalizing start with
  | zero =>
      intro trail
      rw [Nat.zero_mul]
      exact .refl _
  | succ count ih =>
      rw [copies_succ] at has
      obtain ⟨here, later⟩ := has.of_append
      rw [length_eq] at later
      have stop : start + (count + 1) * size = start + size + count * size := by
        rw [Nat.succ_mul]
        omega
      rw [stop]
      exact (once start here).flatMap (ih later)

theorem becomes_turn {greedy : Bool} {number body exit : Nat}
    (turnAt : program[number]? = some (turn greedy body exit)) (trail : Trail) :
    program.Becomes [trail.onStep number]
      (if greedy then [trail.onStep body, trail.onStep exit]
        else [trail.onStep exit, trail.onStep body]) := by
  cases greedy with
  | true => exact Becomes.of_step turnAt (by simp [turn]) trail
  | false => exact Becomes.of_step turnAt (by simp [turn]) trail

/-- A step that goes on with a round or leaves, where up to a number of rounds are left. -/
theorem runs_upTo_succ {greedy : Bool} {number body exit : Nat}
    (turnAt : program[number]? = some (turn greedy body exit)) {round : Trail → List Trail}
    {count : Nat} {trail : Trail}
    (goesOn : program.Becomes [trail.onStep body]
      (((round trail).flatMap (upTo greedy round count)).map (Trail.onStep exit))) :
    program.Becomes [trail.onStep number]
      ((upTo greedy round (count + 1) trail).map (Trail.onStep exit)) := by
  refine (becomes_turn turnAt trail).trans ?_
  cases greedy with
  | true =>
      simp only [upTo, if_true, List.map_append]
      exact goesOn.append (.refl [trail.onStep exit])
  | false =>
      simp only [upTo, Bool.false_eq_true, if_false, List.map_cons]
      exact (Becomes.refl [trail.onStep exit]).append goesOn

/-- A loop whose rounds pass a character ends, at the latest with the text. -/
theorem becomes_loop {greedy : Bool} {number body exit : Nat}
    (turnAt : program[number]? = some (turn greedy body exit)) {round : Trail → List Trail}
    (once : program.Runs body round number)
    (advances : Advances round) {count : Nat} {trail : Trail}
    (enough : trail.cursor.rest.length ≤ count) :
    program.Becomes [trail.onStep number]
      ((upTo greedy round count trail).map (Trail.onStep exit)) := by
  induction count generalizing trail with
  | zero =>
      -- No character is left to pass, so the round fails and the loop is left.
      have stops := once trail
      rw [advances.eq_nil enough] at stops
      refine (becomes_turn turnAt trail).trans ?_
      cases greedy with
      | true => exact stops.append (.refl [trail.onStep exit])
      | false => exact (Becomes.refl [trail.onStep exit]).append stops
  | succ count ih =>
      refine runs_upTo_succ turnAt ((once trail).trans ?_)
      rw [List.map_flatMap]
      refine Becomes.flatMap fun after member => ih ?_
      have shorter := advances trail after member
      omega

/-- Rounds that may be left out one after the other. -/
theorem runs_upTo {greedy : Bool} {size count start exit : Nat} {steps : Nat → List Step}
    (length_eq : ∀ start, (steps start).length = size) {round : Trail → List Trail}
    (once : ∀ start, program.HasSteps start (steps start) →
      program.Runs start round (start + size))
    (exitEq : exit = start + count * (size + 1))
    (has : program.HasSteps start (copies (size + 1) count start
      fun start => turn greedy (start + 1) exit :: steps (start + 1))) :
    program.Runs start (upTo greedy round count) exit := by
  induction count generalizing start with
  | zero =>
      intro trail
      rw [exitEq, Nat.zero_mul]
      exact .refl _
  | succ count ih =>
      rw [copies_succ] at has
      obtain ⟨here, later⟩ := has.of_append
      obtain ⟨turnAt, body⟩ := here.of_cons
      rw [List.length_cons, length_eq] at later
      have laterExit : exit = start + (size + 1) + count * (size + 1) := by
        rw [exitEq, Nat.succ_mul]
        omega
      intro trail
      refine runs_upTo_succ turnAt ?_
      have whole := (once (start + 1) body).flatMap (by
        rw [Nat.add_right_comm]
        exact ih laterExit later)
      exact whole trail

/-- The steps of a pattern do what the pattern means. -/
theorem runs_ends {pattern : Pattern} (proper : pattern.isProper = true) {start next : Nat}
    (has : program.HasSteps start (pattern.steps start next)) :
    program.Runs start pattern.ends next := by
  -- The steps of a part start where those of the part in front of it end, which `length_steps`
  -- says.
  induction pattern generalizing start next with
  | empty => exact Becomes.of_step has.of_cons.1 (by simp)
  | literal text =>
      intro trail
      have stepped := Becomes.of_step has.of_cons.1 (by simp) trail
      have same : (Step.literal text next).threads (trail.onStep start) =
          ((literal text).ends trail).map (Trail.onStep next) := by
        simp only [Step.threads, ends, Trail.onStep]
        cases trail.cursor.skip? text <;> rfl
      rwa [same] at stepped
  | one set =>
      intro trail
      have stepped := Becomes.of_step has.of_cons.1 (by simp) trail
      have same : (Step.one set next).threads (trail.onStep start) =
          ((one set).ends trail).map (Trail.onStep next) := by
        simp only [Step.threads, ends, Trail.onStep]
        cases trail.cursor.rest with
        | nil => rfl
        | cons c rest =>
            simp only
            split <;> rfl
      rwa [same] at stepped
  | assert condition =>
      intro trail
      have stepped := Becomes.of_step has.of_cons.1 (by simp) trail
      have same : (Step.assert condition next).threads (trail.onStep start) =
          ((assert condition).ends trail).map (Trail.onStep next) := by
        rw [Step.threads, ends]
        by_cases holds : condition.holds trail.cursor = true
        · rw [if_pos holds]
          exact if_pos holds
        · rw [if_neg holds]
          exact if_neg holds
      rwa [same] at stepped
  | seq first second ihFirst ihSecond =>
      obtain ⟨firstProper, secondProper⟩ := Bool.and_eq_true_iff.mp proper
      obtain ⟨firstHas, secondHas⟩ := has.of_append
      rw [length_steps] at secondHas
      exact (ihFirst firstProper firstHas).flatMap (ihSecond secondProper secondHas)
  | alt first second ihFirst ihSecond =>
      obtain ⟨firstProper, secondProper⟩ := Bool.and_eq_true_iff.mp proper
      obtain ⟨forkAt, both⟩ := has.of_cons
      obtain ⟨firstHas, secondHas⟩ := both.of_append
      rw [length_steps] at secondHas
      intro trail
      have forked := Becomes.of_step forkAt (by simp) trail
      rw [ends, List.map_append]
      exact forked.trans
        ((ihFirst firstProper firstHas trail).append (ihSecond secondProper secondHas trail))
  | times greedy least most body ih =>
      have length_eq := fun start => length_steps body start (start + body.size)
      cases most with
      | none =>
          obtain ⟨bodyProper, solid⟩ := Bool.and_eq_true_iff.mp proper
          rw [Bool.not_eq_true'] at solid
          have advances := advances_ends solid
          simp only [steps, solid] at has
          by_cases none : least = 0
          · subst none
            obtain ⟨turnAt, bodyHas⟩ := has.of_cons
            intro trail
            have loops := becomes_loop turnAt (ih bodyProper bodyHas) advances
              (Nat.le_refl trail.cursor.rest.length)
            simpa [ends, inTurn] using loops
          · -- The loop goes back to the last of the copies.
            rw [if_neg none] at has
            obtain ⟨copiesHas, turnHas⟩ := has.of_append
            rw [length_copies length_eq] at turnHas
            obtain ⟨before, rfl⟩ := Nat.exists_eq_succ_of_ne_zero none
            have turns := runs_inTurn length_eq (fun start here => ih bodyProper here) copiesHas
            have lastHas : program.HasSteps (start + before * body.size)
                (body.steps (start + before * body.size)
                  (start + (before + 1) * body.size)) := by
              rw [copies_succ_last] at copiesHas
              have last := copiesHas.of_append.2
              rwa [length_copies length_eq, Nat.add_assoc, ← Nat.succ_mul] at last
            refine turns.flatMap fun trail => ?_
            exact becomes_loop turnHas.of_cons.1 (ih bodyProper lastHas) advances
              (Nat.le_refl trail.cursor.rest.length)
      | some most =>
          simp only [steps] at has
          obtain ⟨front, exitHas⟩ := has.of_append
          obtain ⟨copiesHas, restHas⟩ := front.of_append
          rw [length_copies length_eq] at restHas
          have turns := runs_inTurn length_eq (fun start here => ih proper here) copiesHas
          have rests := runs_upTo length_eq (fun start here => ih proper here) rfl restHas
          have exitLength : ∀ exit, (copies (body.size + 1) (most - least)
              (start + least * body.size) fun start => turn greedy (start + 1) exit ::
                body.steps (start + 1) (start + 1 + body.size)).length =
              (most - least) * (body.size + 1) :=
            fun exit => length_copies fun start => congrArg Nat.succ (length_eq (start + 1))
          rw [List.length_append, length_copies length_eq, exitLength, ← Nat.add_assoc] at exitHas
          intro trail
          refine (turns.flatMap rests trail).trans ?_
          rw [List.map_eq_flatMap (f := Trail.onStep next)]
          refine Becomes.flatMap fun after _ => ?_
          exact Becomes.of_step exitHas.of_cons.1 (by simp) after
  | group number name body ih =>
      cases name with
      | none => exact ih proper has
      | some name =>
          obtain ⟨enterAt, bodyHas⟩ := has.of_cons
          obtain ⟨bodyHas, leaveHas⟩ := bodyHas.of_append
          rw [length_steps] at leaveHas
          intro trail
          have entered := Becomes.of_step enterAt (by simp) trail
          have inside := ih proper bodyHas (trail.opened name)
          refine (entered.trans inside).trans ?_
          rw [ends, List.map_map, List.map_eq_flatMap (f := Trail.onStep next ∘ _)]
          refine Becomes.flatMap fun after _ => ?_
          exact Becomes.of_step leaveHas.of_cons.1 (by simp) after

end Program

/-! ### Searches and occurrences -/

theorem hasSteps_program (pattern : Pattern) :
    pattern.program.HasSteps 0 (pattern.steps 0 pattern.size) ∧
      pattern.program[pattern.size]? = some .accept := by
  have whole : pattern.program.HasSteps 0 (pattern.steps 0 pattern.size ++ [.accept]) := by
    intro index step stepAt
    rw [program, List.getElem?_toArray, Nat.zero_add]
    exact stepAt
  obtain ⟨steps, accept⟩ := whole.of_append
  rw [length_steps, Nat.zero_add] at accept
  exact ⟨steps, accept.of_cons.1⟩

variable {pattern : Pattern} {cursor : Cursor}

/-- The threads of a program that start at a place accept where the pattern ends. -/
theorem leads_program (proper : pattern.isProper = true) (cursor : Cursor) :
    pattern.program.Leads [Thread.start cursor]
      ((pattern.ends (.start cursor)).map (Trail.onStep pattern.size)) := by
  obtain ⟨has, acceptAt⟩ := pattern.hasSteps_program
  refine Program.runs_ends proper has (.start cursor) _ ?_
  generalize pattern.ends (.start cursor) = trails
  induction trails with
  | nil => exact .nil
  | cons trail rest ih => exact .accept acceptAt ih

theorem search_of_head? (proper : pattern.isProper = true) {trail : Trail}
    (first : (pattern.ends (.start cursor)).head? = some trail) :
    pattern.program.search cursor = some (cursor, trail.onStep pattern.size) := by
  rw [Program.search_eq fun place _ => leads_program proper place]
  cases follows : cursor.rest with
  | nil => simp [Cursor.onward_of_nil follows, first]
  | cons c rest => simp [Cursor.onward_of_cons follows, first]

theorem search_of_nil (proper : pattern.isProper = true)
    (none : pattern.ends (.start cursor) = []) {c : Char} {rest : Text}
    (follows : cursor.rest = c :: rest) :
    pattern.program.search cursor = pattern.program.search (cursor.next c rest) := by
  rw [Program.search_eq fun place _ => leads_program proper place,
    Program.search_eq fun place _ => leads_program proper place,
    Cursor.onward_of_cons follows, List.findSome?_cons]
  simp [none]

theorem occurrencesFrom_of_end {program : Program} (ends : cursor.rest = []) (steps : Nat) :
    occurrencesFrom program steps cursor = [] := by
  cases steps with
  | zero => rfl
  | succ steps =>
      rw [occurrencesFrom]
      split
      · rfl
      · rename_i first thread searched
        obtain ⟨⟨skipped, restEq, -⟩, ⟨passed, passedEq, columnEq⟩⟩ :=
          Program.reaches_of_search searched
        rw [ends, eq_comm, List.append_eq_nil_iff] at restEq
        rw [restEq.2, eq_comm, List.append_eq_nil_iff] at passedEq
        rw [passedEq.1, Text.width_nil, Nat.add_zero] at columnEq
        rw [columnEq, if_neg (Nat.lt_irrefl _), restEq.2]

/-- More steps than characters are left find no more occurrences. -/
theorem occurrencesFrom_congr {program : Program} {steps other : Nat} {cursor : Cursor}
    (enough : cursor.rest.length ≤ steps) (otherEnough : cursor.rest.length ≤ other) :
    occurrencesFrom program steps cursor = occurrencesFrom program other cursor := by
  -- A step reports an occurrence or passes over a place, and uses up a character either way.
  induction steps generalizing other cursor with
  | zero =>
      have ends := List.length_eq_zero_iff.mp (Nat.le_zero.mp enough)
      rw [occurrencesFrom_of_end ends, occurrencesFrom_of_end ends]
  | succ steps ih =>
      cases other with
      | zero =>
          have ends := List.length_eq_zero_iff.mp (Nat.le_zero.mp otherEnough)
          rw [occurrencesFrom_of_end ends, occurrencesFrom_of_end ends]
      | succ other =>
          rw [occurrencesFrom, occurrencesFrom]
          cases searched : program.search cursor with
          | none => rfl
          | some result =>
              obtain ⟨first, thread⟩ := result
              obtain ⟨⟨skipped, restEq, -⟩, reaches⟩ := Program.reaches_of_search searched
              rw [restEq, List.length_append] at enough otherEnough
              simp only
              split
              · rename_i moved
                have shorter := reaches.rest_lt moved
                rw [ih (by omega) (by omega : thread.cursor.rest.length ≤ other)]
              · cases follows : first.rest with
                | nil => rfl
                | cons c rest =>
                    rw [follows, List.length_cons] at enough otherEnough
                    have shorter : (first.next c rest).rest.length = rest.length := rfl
                    exact ih (by omega) (by omega)

/-- The occurrences from a cursor on. -/
def found (pattern : Pattern) (cursor : Cursor) : List Occurrence :=
  occurrencesFrom pattern.program cursor.rest.length cursor

/-- The occurrences behind the next character. -/
def foundBehind (pattern : Pattern) (cursor : Cursor) : List Occurrence :=
  match cursor.rest with
  | [] => []
  | c :: rest => pattern.found (cursor.next c rest)

theorem occurrences_eq_found (pattern : Pattern) (text : Text) :
    pattern.occurrences text = pattern.found (.start text) := rfl

theorem found_of_nil (proper : pattern.isProper = true)
    (none : pattern.ends (.start cursor) = []) :
    pattern.found cursor = pattern.foundBehind cursor := by
  cases follows : cursor.rest with
  | nil => rw [found, occurrencesFrom_of_end follows, foundBehind, follows]
  | cons c rest =>
      have searched := search_of_nil proper none follows
      have shorter : (cursor.next c rest).rest.length ≤ rest.length + 1 := Nat.le_succ _
      rw [foundBehind, follows, found, follows, List.length_cons]
      refine Eq.trans ?_ (occurrencesFrom_congr shorter (Nat.le_refl _))
      rw [occurrencesFrom, occurrencesFrom, searched]

theorem found_of_stays (proper : pattern.isProper = true) {trail : Trail}
    (first : (pattern.ends (.start cursor)).head? = some trail)
    (stays : trail.cursor.column ≤ cursor.column) :
    pattern.found cursor = pattern.foundBehind cursor := by
  cases follows : cursor.rest with
  | nil => rw [found, occurrencesFrom_of_end follows, foundBehind, follows]
  | cons c rest =>
      rw [found, follows, List.length_cons, occurrencesFrom, search_of_head? proper first]
      refine (if_neg (Nat.not_lt.mpr stays)).trans ?_
      rw [foundBehind, follows]
      rfl

theorem found_of_passes (proper : pattern.isProper = true) {trail : Trail}
    (first : (pattern.ends (.start cursor)).head? = some trail)
    (passes : cursor.column < trail.cursor.column) :
    pattern.found cursor =
      ⟨cursor.column, cursor.upTo trail.cursor, trail.captures⟩ :: pattern.found trail.cursor := by
  have shorter := (reaches_of_head?_ends first).rest_lt passes
  cases follows : cursor.rest with
  | nil => simp [follows] at shorter
  | cons c rest =>
      rw [follows, List.length_cons, Nat.lt_succ_iff] at shorter
      rw [found, follows, List.length_cons, occurrencesFrom, search_of_head? proper first]
      refine (if_pos passes).trans ?_
      rw [found, ← occurrencesFrom_congr shorter (Nat.le_refl _)]
      rfl

/-- The occurrences from a cursor on, read off the ends of the matches.  No program runs
here, so that they can be computed inside a proof. -/
def foundByEnds (pattern : Pattern) : Nat → Cursor → List Occurrence
  | 0, _ => []
  | steps + 1, cursor =>
      match cursor.rest, (pattern.ends (.start cursor)).head? with
      | [], _ => []
      | c :: rest, none => foundByEnds pattern steps (cursor.next c rest)
      | c :: rest, some trail =>
          if cursor.column < trail.cursor.column then
            ⟨cursor.column, cursor.upTo trail.cursor, trail.captures⟩ ::
              foundByEnds pattern steps trail.cursor
          else foundByEnds pattern steps (cursor.next c rest)

theorem found_eq_foundByEnds (proper : pattern.isProper = true) {steps : Nat} {cursor : Cursor}
    (enough : cursor.rest.length ≤ steps) :
    pattern.found cursor = pattern.foundByEnds steps cursor := by
  induction steps generalizing cursor with
  | zero =>
      have ends := List.length_eq_zero_iff.mp (Nat.le_zero.mp enough)
      rw [found, occurrencesFrom_of_end ends, foundByEnds]
  | succ steps ih =>
      rw [foundByEnds]
      cases follows : cursor.rest with
      | nil => rw [found, occurrencesFrom_of_end follows]
      | cons c rest =>
          rw [follows, List.length_cons, Nat.succ_le_succ_iff] at enough
          have behind : pattern.foundBehind cursor =
              pattern.foundByEnds steps (cursor.next c rest) := by
            rw [foundBehind, follows]
            exact ih enough
          cases first : (pattern.ends (.start cursor)).head? with
          | none => exact (found_of_nil proper (List.head?_eq_none_iff.mp first)).trans behind
          | some trail =>
              simp only
              split
              · rename_i passes
                have shorter := (reaches_of_head?_ends first).rest_lt passes
                rw [follows, List.length_cons, Nat.lt_succ_iff] at shorter
                rw [found_of_passes proper first passes, ih (Nat.le_trans shorter enough)]
              · rename_i stays
                exact (found_of_stays proper first (Nat.le_of_not_lt stays)).trans behind

theorem occurrences_eq_foundByEnds (proper : pattern.isProper = true) (text : Text) :
    pattern.occurrences text = pattern.foundByEnds text.length (.start text) :=
  (occurrences_eq_found pattern text).trans (found_eq_foundByEnds proper (Nat.le_refl text.length))

end Pattern

end Pinpoint
