import Pinpoint.Proofs.Line.Gaps

/-!
# What is left of a line is the complement

Spans within a line that do not overlap can be taken out of it in any order, and
every other column is left exactly once.  Spans are refused exactly if one of them
ends past the line or if two of them overlap: once they are sorted, no overlap
escapes the comparison of neighbours.
-/

namespace Pinpoint

namespace Span

instance (span : Span) (column : Nat) : Decidable (span.Holds column) :=
  inferInstanceAs (Decidable (_ ∧ _))

/-- One of two spans ends where the other starts, or before. -/
def Apart (left right : Span) : Prop :=
  left.stop ≤ right.start ∨ right.stop ≤ left.start

instance (left right : Span) : Decidable (left.Apart right) :=
  inferInstanceAs (Decidable (_ ∨ _))

theorem Apart.symm {left right : Span} (apart : left.Apart right) : right.Apart left :=
  Or.symm apart

/-! ### Sorting -/

instance : Std.Total fun left right : Span => left.precedes right = true where
  total left right := by
    simp only [precedes_iff]
    omega

instance : IsTrans Span fun left right => left.precedes right = true where
  trans left middle right := by
    simp only [precedes_iff]
    omega

instance : Std.Antisymm fun left right : Span => left.precedes right = true where
  antisymm left right := by
    obtain ⟨start, stop⟩ := left
    obtain ⟨otherStart, otherStop⟩ := right
    simp only [precedes_iff, Span.mk.injEq]
    omega

theorem pairwise_sorted (spans : List Span) :
    (sorted spans).Pairwise fun left right => left.precedes right = true := by
  rw [sorted_eq_insertionSort]
  exact List.pairwise_insertionSort _ spans

/-- The order in which spans are given does not matter. -/
theorem sorted_eq_of_perm {spans others : List Span} (perm : others.Perm spans) :
    sorted others = sorted spans := by
  have sortedPerm := ((sorted_perm others).trans perm).trans (sorted_perm spans).symm
  exact sortedPerm.eq_of_pairwise' (pairwise_sorted others) (pairwise_sorted spans)

/-- Of two spans that are apart, the one that precedes the other ends before it: if it
did not, both would be empty and the same. -/
theorem stop_le_of_precedes {left right : Span} (_leftProper : left.start ≤ left.stop)
    (rightProper : right.start ≤ right.stop) (precedes : left.precedes right = true)
    (apart : left.Apart right) : left.stop ≤ right.start := by
  rw [precedes_iff] at precedes
  rcases apart with before | after
  · exact before
  · omega

theorem ordered_of_pairwise {first last : Nat} {spans : List Span} (le : first ≤ last)
    (within : ∀ span ∈ spans, first ≤ span.start ∧ span.start ≤ span.stop ∧ span.stop ≤ last)
    (pairwise : spans.Pairwise fun left right => left.stop ≤ right.start) :
    Ordered first last spans := by
  induction spans generalizing first with
  | nil => exact le
  | cons span rest ih =>
      obtain ⟨startLe, proper, stopLe⟩ := within span List.mem_cons_self
      obtain ⟨headBefore, restPairwise⟩ := List.pairwise_cons.mp pairwise
      refine ⟨startLe, proper, ih stopLe ?_ restPairwise⟩
      intro later member
      have laterWithin := within later (List.mem_cons_of_mem span member)
      exact ⟨headBefore later member, laterWithin.2⟩

/-- Sorted spans stand in order exactly if any two of them are apart. -/
theorem ordered_sorted_iff {last : Nat} {spans : List Span}
    (within : ∀ span ∈ spans, span.start ≤ span.stop ∧ span.stop ≤ last) :
    Ordered 0 last (sorted spans) ↔ spans.Pairwise Apart := by
  rw [← (sorted_perm spans).pairwise_iff Apart.symm]
  constructor
  · intro ordered
    exact ordered.pairwise.imp fun before => Or.inl before
  · intro apart
    have sortedWithin : ∀ span ∈ sorted spans, span.start ≤ span.stop ∧ span.stop ≤ last :=
      fun span member => within span ((sorted_perm spans).mem_iff.mp member)
    apply ordered_of_pairwise (Nat.zero_le last)
    · intro span member
      exact ⟨Nat.zero_le _, sortedWithin span member⟩
    · refine ((pairwise_sorted spans).and apart).imp_of_mem ?_
      rintro left right leftMember rightMember ⟨precedes, isApart⟩
      exact stop_le_of_precedes (sortedWithin left leftMember).1
        (sortedWithin right rightMember).1 precedes isApart

/-! ### Columns -/

theorem countP_singleton (span : Span) (column : Nat) :
    [span].countP (·.Holds column) =
      if span.start ≤ column ∧ column < span.stop then 1 else 0 := by
  rw [List.countP_singleton]
  simp only [decide_eq_true_eq]
  rfl

theorem countP_between (start stop column : Nat) :
    (between start stop).countP (·.Holds column) =
      if start ≤ column ∧ column < stop then 1 else 0 := by
  rw [between]
  split
  · rw [List.countP_nil, if_neg (by omega)]
  · exact countP_singleton ⟨start, stop⟩ column

/-- Ordered spans and what lies outside them hold every column between the bounds
once. -/
theorem countP_outside {first last : Nat} {spans : List Span}
    (ordered : Ordered first last spans) (column : Nat) :
    spans.countP (·.Holds column) + (outside first last spans).countP (·.Holds column) =
      if first ≤ column ∧ column < last then 1 else 0 := by
  induction spans generalizing first with
  | nil => rw [List.countP_nil, Nat.zero_add, outside, countP_between]
  | cons span rest ih =>
      obtain ⟨startLe, proper, restOrdered⟩ := ordered
      have behind := ih restOrdered
      have stopLe := restOrdered.le
      rw [← List.singleton_append, List.countP_append, List.singleton_append, outside,
        List.countP_append, countP_between, countP_singleton]
      -- The column is in front of the span, in it, or behind it.
      split at behind <;> split <;> split <;> split <;> omega

end Span

namespace Line

/-- Why spans cannot be taken out of a line. -/
inductive Refuses (line : Line) (excluded : List Span) : LookupError → Prop
  /-- The first span that ends past the line is named. -/
  | beyond {before behind : List Span} {span : Span}
      (split : excluded = before ++ span :: behind)
      (inside : ∀ earlier ∈ before, earlier.stop ≤ line.width)
      (outside : line.width < span.stop) :
      Refuses line excluded (.rangeBeyondLine line.number span line.width)
  | overlap {first second : Nat} {left right : Span}
      (inside : ∀ span ∈ excluded, span.stop ≤ line.width) (distinct : first < second)
      (leftAt : excluded[first]? = some left) (rightAt : excluded[second]? = some right)
      (overlap : ¬ left.Apart right) :
      Refuses line excluded (.rangeIntersection line.number)

variable {line : Line} {excluded : List Span}

theorem gaps_of_pairwise
    (within : ∀ span ∈ excluded, span.start ≤ span.stop ∧ span.stop ≤ line.width)
    (apart : excluded.Pairwise Span.Apart) :
    line.gaps excluded = .ok (if excluded.isEmpty then [line.span]
      else Span.outside 0 line.width (Span.sorted excluded)) :=
  line.gaps_of_ordered_sorted ((Span.ordered_sorted_iff within).mpr apart)

/-! ### Refusals -/

theorem gaps_of_beyond {before behind : List Span} {span : Span}
    (inside : ∀ earlier ∈ before, earlier.stop ≤ line.width) (outside : line.width < span.stop) :
    line.gaps (before ++ span :: behind) =
      .error (.rangeBeyondLine line.number span line.width) := by
  have found : (before ++ span :: behind).find? (fun span => !line.span.contains span) =
      some span := by
    rw [List.find?_eq_some_iff_append]
    refine ⟨?_, before, behind, rfl, ?_⟩
    · rw [Bool.not_eq_true', ← Bool.not_eq_true, contains_span]
      exact Nat.not_le.mpr outside
    · intro earlier member
      rw [Bool.not_not, contains_span]
      exact inside earlier member
  rw [gaps, if_neg (by simp), found]

/-- An overlap is found, wherever the two spans stand among the others. -/
theorem gaps_of_overlap (proper : ∀ span ∈ excluded, span.start ≤ span.stop)
    (inside : ∀ span ∈ excluded, span.stop ≤ line.width)
    (overlaps : ¬ excluded.Pairwise Span.Apart) :
    line.gaps excluded = .error (.rangeIntersection line.number) := by
  cases gapsEq : line.gaps excluded with
  | error error => rw [error_of_gaps inside gapsEq]
  | ok kept =>
      have nonempty : excluded ≠ [] := by
        rintro rfl
        exact overlaps List.Pairwise.nil
      have within : ∀ span ∈ excluded, span.start ≤ span.stop ∧ span.stop ≤ line.width :=
        fun span member => ⟨proper span member, inside span member⟩
      have sortedProper : ∀ span ∈ Span.sorted excluded, span.start ≤ span.stop :=
        fun span member => proper span ((Span.sorted_perm excluded).mem_iff.mp member)
      rw [gaps, if_neg (by simpa using nonempty)] at gapsEq
      split at gapsEq
      · simp at gapsEq
      · have ordered := ordered_of_gapsFrom sortedProper gapsEq
        exact absurd ((Span.ordered_sorted_iff within).mp ordered) overlaps

theorem gaps_of_refuses (proper : ∀ span ∈ excluded, span.start ≤ span.stop)
    {error : LookupError} (refuses : line.Refuses excluded error) :
    line.gaps excluded = .error error := by
  cases refuses with
  | beyond split inside outside =>
      rw [split]
      exact gaps_of_beyond inside outside
  | overlap inside distinct leftAt rightAt overlap =>
      apply gaps_of_overlap proper inside
      intro apart
      obtain ⟨firstLt, rfl⟩ := List.getElem?_eq_some_iff.mp leftAt
      obtain ⟨secondLt, rfl⟩ := List.getElem?_eq_some_iff.mp rightAt
      exact overlap (List.pairwise_iff_getElem.mp apart _ _ firstLt secondLt distinct)

/-- Spans that cannot all be taken out are refused for some reason. -/
theorem exists_refuses (unfit : ¬ ((∀ span ∈ excluded, span.stop ≤ line.width) ∧
    excluded.Pairwise Span.Apart)) : ∃ error, line.Refuses excluded error := by
  by_cases inside : ∀ span ∈ excluded, span.stop ≤ line.width
  · have overlaps : ¬ excluded.Pairwise Span.Apart := fun apart => unfit ⟨inside, apart⟩
    rw [List.pairwise_iff_getElem] at overlaps
    push Not at overlaps
    obtain ⟨first, second, firstLt, secondLt, distinct, overlap⟩ := overlaps
    exact ⟨_, .overlap inside distinct (List.getElem?_eq_getElem firstLt)
      (List.getElem?_eq_getElem secondLt) overlap⟩
  · -- The first span past the line stands behind spans that are within it.
    cases found : excluded.find? fun span => line.width < span.stop with
    | none =>
        refine absurd (fun span member => ?_) inside
        have notOutside := List.find?_eq_none.mp found span member
        rwa [decide_eq_true_eq, Nat.not_lt] at notOutside
    | some span =>
        obtain ⟨outside, before, behind, split, earlierInside⟩ :=
          List.find?_eq_some_iff_append.mp found
        refine ⟨_, .beyond split (fun earlier member => ?_) (of_decide_eq_true outside)⟩
        have notOutside := earlierInside earlier member
        rwa [Bool.not_eq_true', decide_eq_false_iff_not, Nat.not_lt] at notOutside

/-! ### What is left -/

/-- What is left of a line when spans are taken out of it. -/
structure IsComplement (line : Line) (excluded kept : List Span) : Prop where
  holdsOnce : ∀ column < line.width, (excluded ++ kept).countP (·.Holds column) = 1
  leftToRight :
    kept.Pairwise fun left right => left.start < right.start ∧ left.stop ≤ right.start
  within : ∀ span ∈ kept, span.stop ≤ line.width
  nonempty : (∀ span ∈ kept, span.start < span.stop) ∨
    excluded = [] ∧ line.width = 0 ∧ kept = [⟨0, 0⟩]

theorem isComplement_span (line : Line) : line.IsComplement [] [line.span] where
  holdsOnce column lt := by
    rw [List.nil_append, Span.countP_singleton, if_pos ⟨Nat.zero_le column, lt⟩]
  leftToRight := List.pairwise_singleton _ _
  within span member := by
    obtain rfl := List.mem_singleton.mp member
    exact Nat.le_refl _
  nonempty := by
    rcases Nat.eq_zero_or_pos line.width with empty | positive
    · exact Or.inr ⟨rfl, empty, by rw [span, empty]⟩
    · refine Or.inl fun span member => ?_
      obtain rfl := List.mem_singleton.mp member
      exact positive

theorem isComplement_outside (ordered : Span.Ordered 0 line.width (Span.sorted excluded)) :
    line.IsComplement excluded (Span.outside 0 line.width (Span.sorted excluded)) := by
  have keptOrdered := Span.ordered_outside ordered
  have proper : ∀ span ∈ Span.outside 0 line.width (Span.sorted excluded),
      span.start < span.stop :=
    fun span member => (Span.not_holds_of_mem_outside ordered member).1
  refine ⟨?_, ?_, fun span member => (keptOrdered.bounds member).2.2, Or.inl proper⟩
  · intro column lt
    have once := Span.countP_outside ordered column
    rw [if_pos ⟨Nat.zero_le column, lt⟩] at once
    rw [List.countP_append, ← (Span.sorted_perm excluded).countP_eq]
    exact once
  · refine keptOrdered.pairwise.imp_of_mem fun leftMember _ before => ?_
    exact ⟨Nat.lt_of_lt_of_le (proper _ leftMember) before, before⟩

end Line

/-- Spans within a line of which any two are apart can be taken out of it, in whatever
order they are given.  Together with what is left they hold every column of the line once,
and what is left stands strictly from left to right and is empty only if the line is. -/
theorem Line.gaps_complement (line : Line) {excluded : List Span}
    (within : ∀ span ∈ excluded, span.start ≤ span.stop ∧ span.stop ≤ line.width)
    (apart : excluded.Pairwise Span.Apart) :
    ∃ kept, line.gaps excluded = .ok kept ∧ line.IsComplement excluded kept ∧
      ∀ others, others.Perm excluded → line.gaps others = .ok kept := by
  refine ⟨_, gaps_of_pairwise within apart, ?_, ?_⟩
  · cases excluded with
    | nil => exact isComplement_span line
    | cons span rest => exact isComplement_outside ((Span.ordered_sorted_iff within).mpr apart)
  · intro others perm
    have othersWithin : ∀ span ∈ others, span.start ≤ span.stop ∧ span.stop ≤ line.width :=
      fun span member => within span (perm.mem_iff.mp member)
    have othersApart := (perm.pairwise_iff Span.Apart.symm).mpr apart
    rw [gaps_of_pairwise othersWithin othersApart, perm.isEmpty_eq, Span.sorted_eq_of_perm perm]

/-- Spans that touch, of which one is empty, not given from left to right. -/
theorem Line.gaps_complement_touching :
    (Line.mk 0 "abcdef".toList).IsComplement [⟨4, 6⟩, ⟨2, 2⟩, ⟨0, 2⟩] [⟨2, 4⟩] := by
  have within : ∀ span ∈ [⟨4, 6⟩, ⟨2, 2⟩, (⟨0, 2⟩ : Span)],
      span.start ≤ span.stop ∧ span.stop ≤ (Line.mk 0 "abcdef".toList).width := by decide
  have apart : [⟨4, 6⟩, ⟨2, 2⟩, (⟨0, 2⟩ : Span)].Pairwise Span.Apart := by decide
  obtain ⟨kept, gapsEq, complement, -⟩ := gaps_complement ⟨0, "abcdef".toList⟩ within apart
  obtain rfl : [⟨2, 4⟩] = kept := Except.ok.inj gapsEq
  exact complement

/-- Spans are refused exactly if one of them ends past the line, where the first such span
is named, or if all end within it and two of them are not apart. -/
theorem Line.gaps_eq_error_iff (line : Line) {excluded : List Span}
    (proper : ∀ span ∈ excluded, span.start ≤ span.stop) :
    (∀ error, line.gaps excluded = .error error ↔ line.Refuses excluded error) ∧
    ((∃ kept, line.gaps excluded = .ok kept) ↔
      (∀ span ∈ excluded, span.stop ≤ line.width) ∧ excluded.Pairwise Span.Apart) := by
  have accepted : (∀ span ∈ excluded, span.stop ≤ line.width) ∧
      excluded.Pairwise Span.Apart → ∃ kept, line.gaps excluded = .ok kept := by
    rintro ⟨inside, apart⟩
    exact ⟨_, gaps_of_pairwise (fun span member => ⟨proper span member, inside span member⟩)
      apart⟩
  refine ⟨fun error => ⟨?_, gaps_of_refuses proper⟩, ?_, accepted⟩
  · intro refused
    have unfit : ¬ ((∀ span ∈ excluded, span.stop ≤ line.width) ∧
        excluded.Pairwise Span.Apart) := by
      intro fit
      obtain ⟨kept, ok⟩ := accepted fit
      simp [refused] at ok
    obtain ⟨cause, refuses⟩ := exists_refuses unfit
    rw [gaps_of_refuses proper refuses] at refused
    obtain rfl := Except.error.inj refused
    exact refuses
  · rintro ⟨kept, ok⟩
    by_contra unfit
    obtain ⟨cause, refuses⟩ := exists_refuses unfit
    simp [gaps_of_refuses proper refuses] at ok

/-- The two spans that overlap are no neighbours when they are sorted. -/
theorem Line.gaps_eq_error_iff_nested :
    (Line.mk 3 "abcdef".toList).gaps [⟨4, 5⟩, ⟨1, 2⟩, ⟨0, 6⟩] = .error (.rangeIntersection 3) := by
  have proper : ∀ span ∈ [⟨4, 5⟩, ⟨1, 2⟩, (⟨0, 6⟩ : Span)], span.start ≤ span.stop := by decide
  have refuses : (Line.mk 3 "abcdef".toList).Refuses [⟨4, 5⟩, ⟨1, 2⟩, ⟨0, 6⟩]
      (.rangeIntersection 3) :=
    .overlap (by decide) (by decide : 0 < 2) rfl rfl (by decide)
  exact ((gaps_eq_error_iff _ proper).1 _).mpr refuses

end Pinpoint
