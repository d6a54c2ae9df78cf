import Mathlib.Data.List.Infix
import Pinpoint.Proofs.Pattern.Compiled

/-!
# The preferred match

Where the preferred match of a pattern ends, part by part: a text is passed where it
follows, a greedy run of characters goes on as long as they belong to its set, and a lazy one
stops as soon as the rest of the pattern matches.  The first occurrence in a text is the
preferred match at the first place where there is one.
-/

namespace Pinpoint

namespace Cursor

variable {cursor : Cursor} {text passed rest : Text}

/-- The place behind a text that a cursor has passed, where what follows is given. -/
def past (cursor : Cursor) (passed rest : Text) : Cursor :=
  ⟨cursor.column + Text.width passed, passed.getLast?.or cursor.before, rest⟩

@[simp]
theorem rest_past (cursor : Cursor) (passed rest : Text) : (cursor.past passed rest).rest = rest :=
  rfl

theorem past_nil (follows : cursor.rest = rest) : cursor.past [] rest = cursor := by
  subst follows
  rfl

theorem past_next (cursor : Cursor) (c : Char) (passed rest behind : Text) :
    (cursor.next c behind).past passed rest = cursor.past (c :: passed) rest := by
  simp only [past, next, Text.width_cons, List.getLast?_cons, Nat.add_assoc]
  cases passed.getLast? <;> rfl

theorem past_past (cursor : Cursor) (passed further between rest : Text) :
    (cursor.past passed between).past further rest = cursor.past (passed ++ further) rest := by
  simp only [past, Text.width_append, List.getLast?_append, Nat.add_assoc]
  cases further.getLast? <;> rfl

theorem skip?_of_follows (follows : cursor.rest = text ++ rest) :
    cursor.skip? text = some (cursor.past text rest) := by
  induction text generalizing cursor with
  | nil => exact congrArg some (past_nil follows).symm
  | cons c text ih =>
      rw [skip?, follows]
      simp only [List.cons_append, if_true]
      rw [ih rfl, past_next]

theorem skip?_eq_none (absent : ¬ text <+: cursor.rest) : cursor.skip? text = none := by
  cases skipped : cursor.skip? text with
  | none => rfl
  | some last => exact absurd ⟨last.rest, (eq_append_of_skip? skipped).symm⟩ absent

theorem skip?_append (left right : Text) (cursor : Cursor) :
    cursor.skip? (left ++ right) = (cursor.skip? left).bind (skip? right) := by
  induction left generalizing cursor with
  | nil => rfl
  | cons c left ih =>
      rw [List.cons_append, skip?, skip?]
      cases cursor.rest with
      | nil => rfl
      | cons d rest =>
          by_cases same : c = d
          · simp only [if_pos same, ih]
          · simp only [if_neg same, Option.bind_none]

theorem upTo_past (follows : cursor.rest = passed ++ rest) :
    cursor.upTo (cursor.past passed rest) = passed := by
  simp [upTo, past, follows]

end Cursor

namespace Text

variable {words before more right : Text}

/-- In a text followed by some words, no earlier place has these words behind it. -/
def FirstBehind (words before : Text) : Prop :=
  ∀ right ∈ before.tails, right ≠ [] → ¬ words <+: right ++ words

instance (words before : Text) : Decidable (FirstBehind words before) :=
  inferInstanceAs (Decidable (∀ right ∈ before.tails, right ≠ [] → ¬ words <+: right ++ words))

theorem FirstBehind.not_follows (first : FirstBehind words before) (suffix : right <:+ before)
    (nonempty : right ≠ []) (follow : words <+: more) : ¬ words <+: right ++ more := by
  intro early
  obtain ⟨rest, rfl⟩ := follow
  have whole : right ++ words <+: right ++ (words ++ rest) := ⟨rest, List.append_assoc _ _ _⟩
  refine first right ((List.mem_tails _ _).mpr suffix) nonempty ?_
  exact List.prefix_of_prefix_length_le early whole (by simp)

theorem FirstBehind.of_cons {c : Char} (first : FirstBehind words (c :: before)) :
    FirstBehind words before := by
  intro right isTail
  have suffix : right <:+ before := (List.mem_tails _ _).mp isTail
  exact first right ((List.mem_tails _ _).mpr (suffix.trans (List.suffix_cons _ _)))

theorem firstBehind_of_notMem {c : Char} (absent : c ∉ before) (words : Text) :
    FirstBehind (c :: words) before := by
  intro right isTail nonempty early
  obtain ⟨d, rest, rfl⟩ := List.exists_cons_of_ne_nil nonempty
  have same : c = d := (List.cons_prefix_cons.mp early).1
  have member : d ∈ before := ((List.mem_tails _ _).mp isTail).mem List.mem_cons_self
  exact absent (same ▸ member)

end Text

namespace Pattern

/-! ### Patterns one after the other -/

/-- Where matches of patterns one after the other end. -/
def endsInTurn : List Pattern → Trail → List Trail
  | [], trail => [trail]
  | pattern :: rest, trail => (pattern.ends trail).flatMap (endsInTurn rest)

theorem endsInTurn_append (left right : List Pattern) (trail : Trail) :
    endsInTurn (left ++ right) trail = (endsInTurn left trail).flatMap (endsInTurn right) := by
  induction left generalizing trail with
  | nil => simp [endsInTurn]
  | cons pattern left ih =>
      rw [List.cons_append, endsInTurn, endsInTurn, List.flatMap_assoc]
      exact List.flatMap_congr fun after _ => ih after

theorem ends_chain (patterns : List Pattern) (trail : Trail) :
    (chain patterns).ends trail = endsInTurn patterns trail := by
  induction patterns generalizing trail with
  | nil => rfl
  | cons pattern rest ih =>
      cases rest with
      | nil => simp [chain, endsInTurn]
      | cons second others => exact List.flatMap_congr fun after _ => ih after

theorem endsInTurn_parts (pattern : Pattern) (trail : Trail) :
    endsInTurn pattern.parts trail = pattern.ends trail := by
  induction pattern generalizing trail with
  | seq first second _ ih => exact List.flatMap_congr fun after _ => ih after
  | _ => simp [parts, endsInTurn]

theorem ends_literal_append (left right : Text) (trail : Trail) :
    (literal (left ++ right)).ends trail =
      ((literal left).ends trail).flatMap (literal right).ends := by
  simp only [ends, Cursor.skip?_append]
  cases trail.cursor.skip? left with
  | none => rfl
  | some middle => simp only [Option.map_some, Option.toList_some, List.flatMap_singleton]; rfl

theorem endsInTurn_prepend (part : Pattern) (rest : List Pattern) (trail : Trail) :
    endsInTurn (prepend part rest) trail = endsInTurn (part :: rest) trail := by
  rw [prepend.eq_def]
  split
  · simp [endsInTurn, ends]
  · rw [endsInTurn, endsInTurn, ends_literal_append, List.flatMap_assoc]
    rfl
  · rfl

/-- However the parts of patterns are joined, the patterns match one after the other. -/
theorem ends_concat (patterns : List Pattern) (trail : Trail) :
    (concat patterns).ends trail = endsInTurn patterns trail := by
  have joined : ∀ (parts : List Pattern) (trail : Trail),
      endsInTurn (parts.foldr prepend []) trail = endsInTurn parts trail := by
    intro parts
    induction parts with
    | nil => exact fun _ => rfl
    | cons part parts ih =>
        intro trail
        rw [List.foldr_cons, endsInTurn_prepend]
        exact List.flatMap_congr fun after _ => ih after
  rw [concat, ends_chain, joined]
  induction patterns generalizing trail with
  | nil => rfl
  | cons pattern rest ih =>
      rw [List.flatMap_cons, endsInTurn_append, endsInTurn_parts]
      exact List.flatMap_congr fun after _ => ih after

theorem ends_concat_cons (pattern : Pattern) (rest : List Pattern) (trail : Trail) :
    (concat (pattern :: rest)).ends trail = (pattern.ends trail).flatMap (concat rest).ends := by
  rw [ends_concat]
  exact List.flatMap_congr fun after _ => (ends_concat rest after).symm

/-! ### Words that a match needs -/

/-- A pattern does not match where some words do not follow. -/
def Needs (words : Text) (pattern : Pattern) : Prop :=
  ∀ trail, ¬ words <+: trail.cursor.rest → pattern.ends trail = []

theorem needs_literal (words : Text) : Needs words (literal words) := by
  intro trail absent
  simp [ends, Cursor.skip?_eq_none absent]

theorem Needs.concat_cons {words : Text} {pattern : Pattern} (needs : Needs words pattern)
    (rest : List Pattern) : Needs words (concat (pattern :: rest)) := by
  intro trail absent
  rw [ends_concat_cons, needs trail absent, List.flatMap_nil]

theorem Needs.behind_assert {words : Text} {rest : List Pattern}
    (needs : Needs words (concat rest)) (condition : Assertion) :
    Needs words (concat (assert condition :: rest)) := by
  intro trail absent
  rw [ends_concat_cons, ends]
  split
  · rw [List.flatMap_singleton, needs trail absent]
  · rfl

/-! ### The preferred end -/

namespace Trail

variable {trail : Trail} {passed more : Text}

/-- The trail behind a text that it has passed. -/
def past (trail : Trail) (passed rest : Text) : Trail :=
  trail.moved (trail.cursor.past passed rest)

/-- The trail behind a text that it has passed and keeps under a name. -/
def kept (trail : Trail) (name : String) (passed rest : Text) : Trail :=
  ⟨trail.cursor.past passed rest, (name, trail.cursor) :: trail.entered,
    (name, passed) :: trail.captures⟩

theorem past_nil (follows : trail.cursor.rest = more) : trail.past [] more = trail := by
  rw [past, Cursor.past_nil follows]
  rfl

theorem past_past (trail : Trail) (passed further between rest : Text) :
    (trail.past passed between).past further rest = trail.past (passed ++ further) rest :=
  congrArg trail.moved (trail.cursor.past_past passed further between rest)

/-- What is passed between the start and the end of a group is what the group keeps. -/
theorem closed_past_opened (name : String) (follows : trail.cursor.rest = passed ++ more) :
    ((trail.opened name).past passed more).closed name = trail.kept name passed more := by
  have text : trail.cursor.upTo (trail.cursor.past passed more) = passed :=
    Cursor.upTo_past follows
  simp [closed, past, moved, opened, kept, text]

end Trail

/-- From one trail the preferred match of a pattern comes to the other one. -/
def Prefers (pattern : Pattern) (trail after : Trail) : Prop :=
  (pattern.ends trail).head? = some after

variable {trail middle after : Trail} {pattern body : Pattern} {rest : List Pattern}
  {set : CharSet} {passed more : Text}

theorem ends_one_of_cons {c : Char} (follows : trail.cursor.rest = c :: more)
    (has : set.has c = true) : (one set).ends trail = [trail.past [c] more] := by
  rw [ends, follows]
  simp only [if_pos has]
  rfl

theorem ends_one_of_stops (stops : ∀ c ∈ trail.cursor.rest.head?, set.has c = false) :
    (one set).ends trail = [] := by
  rw [ends]
  cases follows : trail.cursor.rest with
  | nil => rfl
  | cons c more =>
      have outside : set.has c = false := stops c (by rw [follows]; rfl)
      simp [outside]

theorem stops_at {c : Char} (outside : set.has c = false) (behind : Text) :
    ∀ d ∈ (c :: behind).head?, set.has d = false := by
  intro d first
  obtain rfl : c = d := by simpa using first
  exact outside

theorem inTurn_one (follows : trail.cursor.rest = passed ++ more)
    (inside : ∀ c ∈ passed, set.has c = true) :
    inTurn (one set).ends passed.length trail = [trail.past passed more] := by
  induction passed generalizing trail with
  | nil => exact congrArg ([·]) (Trail.past_nil follows).symm
  | cons c passed ih =>
      obtain ⟨here, later⟩ := List.forall_mem_cons.mp inside
      rw [List.length_cons, inTurn, ends_one_of_cons follows here, List.flatMap_singleton]
      exact (ih rfl later).trans (congrArg ([·]) (trail.past_past [c] passed _ more))

/-- As many rounds as possible stop in front of the first character outside the set. -/
theorem head?_upTo_one {count : Nat} (follows : trail.cursor.rest = passed ++ more)
    (inside : ∀ c ∈ passed, set.has c = true) (stops : ∀ c ∈ more.head?, set.has c = false)
    (enough : passed.length ≤ count) :
    (upTo true (one set).ends count trail).head? = some (trail.past passed more) := by
  induction passed generalizing trail count with
  | nil =>
      have none : (one set).ends trail = [] := ends_one_of_stops (by rw [follows]; exact stops)
      have stays : trail.past [] more = trail := Trail.past_nil follows
      rw [stays]
      cases count <;> simp [upTo, none]
  | cons c passed ih =>
      obtain ⟨here, later⟩ := List.forall_mem_cons.mp inside
      cases count with
      | zero => exact absurd enough (Nat.not_succ_le_zero _)
      | succ count =>
          have further : (upTo true (one set).ends count
              (trail.past [c] (passed ++ more))).head? =
                some ((trail.past [c] (passed ++ more)).past passed more) :=
            ih rfl later (Nat.le_of_succ_le_succ enough)
          have joined := trail.past_past [c] passed (passed ++ more) more
          rw [upTo, ends_one_of_cons follows here, List.flatMap_singleton]
          simp only [if_true, List.head?_append, List.append_eq]
          rw [further, joined]
          rfl

namespace Prefers

theorem done (trail : Trail) : Prefers (concat []) trail trail :=
  rfl

theorem followedBy (first : Prefers pattern trail middle)
    (others : Prefers (concat rest) middle after) :
    Prefers (concat (pattern :: rest)) trail after := by
  obtain ⟨further, endsEq⟩ := List.head?_eq_some_iff.mp first
  rw [Prefers, ends_concat_cons, endsEq, List.flatMap_cons, List.head?_append, others]
  rfl

theorem ofLiteral (follows : trail.cursor.rest = passed ++ more) :
    Prefers (literal passed) trail (trail.past passed more) := by
  rw [Prefers, ends, Cursor.skip?_of_follows follows]
  rfl

theorem ofAssert {condition : Assertion} (holds : condition.holds trail.cursor = true) :
    Prefers (assert condition) trail trail := by
  rw [Prefers, ends, if_pos holds]
  rfl

/-- A greedy run of characters goes on up to the first one outside the set. -/
theorem ofRun {least : Nat} (follows : trail.cursor.rest = passed ++ more)
    (inside : ∀ c ∈ passed, set.has c = true) (stops : ∀ c ∈ more.head?, set.has c = false)
    (enough : least ≤ passed.length) :
    Prefers (times true least none (one set)) trail (trail.past passed more) := by
  obtain ⟨first, others, rfl, rfl⟩ : ∃ first others, passed = first ++ others ∧
      least = first.length :=
    ⟨passed.take least, passed.drop least, (List.take_append_drop _ _).symm, by simp [enough]⟩
  have turns : inTurn (one set).ends first.length trail = [trail.past first (others ++ more)] :=
    inTurn_one (by rw [follows, List.append_assoc])
      fun c member => inside c (List.mem_append_left _ member)
  have further : (upTo true (one set).ends (others ++ more).length
      (trail.past first (others ++ more))).head? =
        some ((trail.past first (others ++ more)).past others more) :=
    head?_upTo_one rfl (fun c member => inside c (List.mem_append_right _ member)) stops (by simp)
  rw [Prefers, ends, turns, List.flatMap_singleton, ← Trail.past_past]
  exact further

/-- A group keeps the greedy run of characters that it passes. -/
theorem ofKept {least : Nat} (name : String) (follows : trail.cursor.rest = passed ++ more)
    (inside : ∀ c ∈ passed, set.has c = true) (stops : ∀ c ∈ more.head?, set.has c = false)
    (enough : least ≤ passed.length) :
    Prefers (capture name (times true least none (one set))) trail
      (trail.kept name passed more) := by
  have run : Prefers (times true least none (one set)) (trail.opened name)
      ((trail.opened name).past passed more) := ofRun follows inside stops enough
  rw [Prefers, capture, ends, List.head?_map, run, ← Trail.closed_past_opened name follows]
  rfl

theorem ofOpt (first : Prefers body trail after) :
    Prefers (times true 0 (some 1) body) trail after := by
  obtain ⟨further, endsEq⟩ := List.head?_eq_some_iff.mp first
  simp [Prefers, ends, inTurn, upTo, endsEq]

theorem ofOpt_none (none : body.ends trail = []) :
    Prefers (times true 0 (some 1) body) trail trail := by
  simp [Prefers, ends, inTurn, upTo, none]

/-- A lazy run of characters goes on up to the first place where words follow that the other
patterns need. -/
theorem ofLazy {words : Text} (follows : trail.cursor.rest = passed ++ more)
    (inside : ∀ c ∈ passed, set.has c = true) (needs : Needs words (concat rest))
    (first : Text.FirstBehind words passed) (follow : words <+: more)
    (others : Prefers (concat rest) (trail.past passed more) after) :
    Prefers (concat (star false (one set) :: rest)) trail after := by
  have run : ∀ count, passed.length ≤ count →
      ((upTo false (one set).ends count trail).flatMap (concat rest).ends).head? = some after := by
    intro count enough
    induction passed generalizing trail count with
    | nil =>
        have stays : trail.past [] more = trail := Trail.past_nil follows
        rw [stays] at others
        obtain ⟨further, endsEq⟩ := List.head?_eq_some_iff.mp others
        cases count <;> simp [upTo, endsEq]
    | cons c passed ih =>
        obtain ⟨here, later⟩ := List.forall_mem_cons.mp inside
        -- The words do not follow yet, so the rest fails here and one more round is made.
        have notHere : (concat rest).ends trail = [] := needs trail (by
          rw [follows]
          exact first.not_follows (List.suffix_refl _) (List.cons_ne_nil _ _) follow)
        rw [← List.singleton_append, ← trail.past_past [c] passed (passed ++ more)] at others
        cases count with
        | zero => exact absurd enough (Nat.not_succ_le_zero _)
        | succ count =>
            have further := ih rfl later first.of_cons others count
              (Nat.le_of_succ_le_succ enough)
            rw [upTo, ends_one_of_cons follows here, List.flatMap_singleton]
            simp only [Bool.false_eq_true, if_false, List.flatMap_cons, notHere, List.nil_append]
            exact further
  have star_eq : star false (one set) = times false 0 none (one set) := rfl
  have whole := run trail.cursor.rest.length (by simp [follows])
  rw [Prefers, ends_concat_cons, star_eq, ends, inTurn, List.flatMap_singleton]
  exact whole

end Prefers

/-! ### The first occurrence -/

theorem column_lt_of_ends (solid : pattern.canBeEmpty = false) {cursor : Cursor}
    (first : Prefers pattern (.start cursor) after) : cursor.column < after.cursor.column := by
  have member := List.mem_of_head? first
  have shorter := advances_ends solid _ _ member
  obtain ⟨passed, restEq, columnEq⟩ := reaches_of_head?_ends first
  have nonempty : passed ≠ [] := by
    rintro rfl
    rw [List.nil_append] at restEq
    have started : (Trail.start cursor).cursor.rest = after.cursor.rest := restEq
    rw [started] at shorter
    exact Nat.lt_irrefl _ shorter
  rw [columnEq]
  exact Nat.lt_add_of_pos_right (Text.width_pos nonempty)

section

variable {words before : Text} (proper : pattern.isProper = true) (needs : Needs words pattern)

include proper needs

/-- Nothing is found in front of the first place where words follow that a pattern needs. -/
theorem found_past {cursor : Cursor} (follows : cursor.rest = before ++ more)
    (first : Text.FirstBehind words before) (follow : words <+: more) :
    pattern.found cursor = pattern.found (cursor.past before more) := by
  induction before generalizing cursor with
  | nil =>
      have stays : cursor.past [] more = cursor := Cursor.past_nil follows
      rw [stays]
  | cons c before ih =>
      have notHere : pattern.ends (.start cursor) = [] := needs _ (by
        have started : (Trail.start cursor).cursor.rest = c :: before ++ more := follows
        rw [started]
        exact first.not_follows (List.suffix_refl _) (List.cons_ne_nil _ _) follow)
      rw [found_of_nil proper notHere, foundBehind, follows]
      exact (ih rfl first.of_cons).trans (congrArg _ (cursor.past_next c before more _))

/-- The first occurrence of a pattern starts at the first place where words follow that the
pattern needs, if the pattern matches there. -/
theorem firstOccurrence?_eq (solid : pattern.canBeEmpty = false)
    (first : Text.FirstBehind words before) (follow : words <+: more)
    (prefers : Prefers pattern (.start ((Cursor.start (before ++ more)).past before more)) after) :
    pattern.firstOccurrence? (before ++ more) =
      some ⟨Text.width before,
        ((Cursor.start (before ++ more)).past before more).upTo after.cursor, after.captures⟩ := by
  have passes := column_lt_of_ends solid prefers
  have follows : (Cursor.start (before ++ more)).rest = before ++ more := rfl
  rw [firstOccurrence?, occurrences_eq_found, found_past proper needs follows first follow,
    found_of_passes proper prefers passes]
  simp [Cursor.past, Cursor.start]

end

end Pattern

end Pinpoint
