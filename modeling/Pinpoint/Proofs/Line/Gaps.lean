import Mathlib.Data.List.Sort
import Pinpoint.Line.Gaps

/-!
# Gaps between ordered spans

Spans that stand one after the other within a line can be taken out of it
without an error, and what is left are the columns that none of them holds.
-/

namespace Pinpoint

namespace Span

/-- A column lies in a span. -/
def Holds (span : Span) (column : Nat) : Prop :=
  span.start ≤ column ∧ column < span.stop

/-- Spans that stand one after the other between two columns. -/
def Ordered : Nat → Nat → List Span → Prop
  | first, last, [] => first ≤ last
  | first, last, span :: rest =>
      first ≤ span.start ∧ span.start ≤ span.stop ∧ Ordered span.stop last rest

/-- The columns between two bounds, unless there are none. -/
def between (start stop : Nat) : List Span :=
  if start = stop then [] else [⟨start, stop⟩]

/-- The columns before, between and after spans. -/
def outside : Nat → Nat → List Span → List Span
  | first, last, [] => between first last
  | first, last, span :: rest => between first span.start ++ outside span.stop last rest

/-! ### Sorting -/

theorem precedes_iff {left right : Span} : left.precedes right = true ↔
    left.start < right.start ∨ left.start = right.start ∧ left.stop ≤ right.stop := by
  simp [precedes]

theorem insertSorted_eq_orderedInsert (span : Span) (spans : List Span) :
    insertSorted span spans = spans.orderedInsert (·.precedes ·) span := by
  induction spans with
  | nil => rfl
  | cons first rest ih => rw [insertSorted, List.orderedInsert_cons, ih]

theorem sorted_eq_insertionSort (spans : List Span) :
    sorted spans = spans.insertionSort (·.precedes ·) := by
  induction spans with
  | nil => rfl
  | cons span rest ih =>
      rw [sorted, ih, insertSorted_eq_orderedInsert, List.insertionSort_cons]

theorem sorted_perm (spans : List Span) : (sorted spans).Perm spans := by
  rw [sorted_eq_insertionSort]
  exact List.perm_insertionSort _ spans

/-! ### Order -/

namespace Ordered

theorem le {first last : Nat} {spans : List Span} (ordered : Ordered first last spans) :
    first ≤ last := by
  induction spans generalizing first with
  | nil => exact ordered
  | cons span rest ih =>
      obtain ⟨startLe, proper, restOrdered⟩ := ordered
      have restLe := ih restOrdered
      omega

theorem of_le {first first' last : Nat} {spans : List Span}
    (ordered : Ordered first last spans) (earlier : first' ≤ first) :
    Ordered first' last spans := by
  cases spans with
  | nil => exact Nat.le_trans earlier ordered
  | cons span rest => exact ⟨Nat.le_trans earlier ordered.1, ordered.2⟩

theorem bounds {first last : Nat} {spans : List Span} (ordered : Ordered first last spans)
    {span : Span} (member : span ∈ spans) :
    first ≤ span.start ∧ span.start ≤ span.stop ∧ span.stop ≤ last := by
  induction spans generalizing first with
  | nil => simp at member
  | cons head rest ih =>
      obtain ⟨startLe, proper, restOrdered⟩ := ordered
      rcases List.mem_cons.mp member with rfl | later
      · exact ⟨startLe, proper, restOrdered.le⟩
      · have restBounds := ih restOrdered later
        omega

/-- Ordered spans end before the later ones start. -/
theorem pairwise {first last : Nat} {spans : List Span} (ordered : Ordered first last spans) :
    spans.Pairwise fun left right => left.stop ≤ right.start := by
  induction spans generalizing first with
  | nil => exact List.Pairwise.nil
  | cons span rest ih =>
      obtain ⟨-, -, restOrdered⟩ := ordered
      apply List.Pairwise.cons
      · intro later member
        exact (restOrdered.bounds member).1
      · exact ih restOrdered

theorem sorted_eq {first last : Nat} {spans : List Span}
    (ordered : Ordered first last spans) : sorted spans = spans := by
  rw [sorted_eq_insertionSort]
  refine (ordered.pairwise.imp_of_mem ?_).insertionSort_eq
  intro left right leftMember rightMember before
  have leftBounds := ordered.bounds leftMember
  have rightBounds := ordered.bounds rightMember
  rw [precedes_iff]
  omega

end Ordered

@[simp]
theorem between_self (column : Nat) : between column column = [] :=
  if_pos rfl

theorem mem_between {start stop : Nat} {span : Span} :
    span ∈ between start stop ↔ start ≠ stop ∧ span = ⟨start, stop⟩ := by
  unfold between
  split <;> simp_all

theorem ordered_between {start stop : Nat} (le : start ≤ stop) :
    Ordered start stop (between start stop) := by
  rw [between]
  split
  · exact le
  · exact ⟨Nat.le_refl _, le, Nat.le_refl _⟩

theorem ordered_between_append {first start stop last : Nat} {spans : List Span}
    (startLe : first ≤ start) (proper : start ≤ stop) (ordered : Ordered stop last spans) :
    Ordered first last (between first start ++ spans) := by
  rw [between]
  split
  · exact ordered.of_le (Nat.le_trans startLe proper)
  · exact ⟨Nat.le_refl _, startLe, ordered.of_le proper⟩

/-- What lies outside ordered spans is ordered as well. -/
theorem ordered_outside {first last : Nat} {spans : List Span}
    (ordered : Ordered first last spans) :
    Ordered first last (outside first last spans) := by
  induction spans generalizing first with
  | nil => exact ordered_between ordered
  | cons span rest ih =>
      obtain ⟨startLe, proper, restOrdered⟩ := ordered
      exact ordered_between_append startLe proper (ih restOrdered)

/-- What lies outside ordered spans has columns, and none of them is in one of
the spans. -/
theorem not_holds_of_mem_outside {first last : Nat} {spans : List Span}
    (ordered : Ordered first last spans) {gap : Span}
    (member : gap ∈ outside first last spans) :
    gap.start < gap.stop ∧
      ∀ column, gap.Holds column → ∀ span ∈ spans, ¬ span.Holds column := by
  induction spans generalizing first with
  | nil =>
      obtain ⟨apart, rfl⟩ := mem_between.mp member
      exact ⟨Nat.lt_of_le_of_ne ordered apart, by simp⟩
  | cons head rest ih =>
      obtain ⟨startLe, proper, restOrdered⟩ := ordered
      rw [outside] at member
      rcases List.mem_append.mp member with before | later
      · obtain ⟨apart, rfl⟩ := mem_between.mp before
        refine ⟨Nat.lt_of_le_of_ne startLe apart, ?_⟩
        intro column inGap span spanMember inSpan
        rcases List.mem_cons.mp spanMember with rfl | spanLater
        · simp only [Holds] at inGap inSpan
          omega
        · have bounds := restOrdered.bounds spanLater
          simp only [Holds] at inGap inSpan
          omega
      · obtain ⟨nonempty, avoids⟩ := ih restOrdered later
        refine ⟨nonempty, ?_⟩
        intro column inGap span spanMember inSpan
        rcases List.mem_cons.mp spanMember with rfl | spanLater
        · have bounds := (ordered_outside restOrdered).bounds later
          simp only [Holds] at inGap inSpan
          omega
        · exact avoids column inGap span spanLater inSpan

end Span

namespace Line

theorem gap_of_le (line : Line) {start stop : Nat} (le : start ≤ stop) :
    line.gap start stop = .ok (Span.between start stop) := by
  rw [gap, if_neg (Nat.not_lt.mpr le), Span.between]
  split <;> rfl

theorem eq_of_gap {line : Line} {start stop : Nat} {kept : List Span}
    (gapEq : line.gap start stop = .ok kept) :
    start ≤ stop ∧ kept = Span.between start stop := by
  by_cases crossed : stop < start
  · simp [gap, crossed] at gapEq
  · have le : start ≤ stop := Nat.le_of_not_lt crossed
    rw [line.gap_of_le le] at gapEq
    exact ⟨le, (Except.ok.inj gapEq).symm⟩

theorem error_of_gap {line : Line} {start stop : Nat} {error : LookupError}
    (gapEq : line.gap start stop = .error error) :
    error = .rangeIntersection line.number := by
  by_cases crossed : stop < start
  · rw [gap, if_pos crossed] at gapEq
    exact (Except.error.inj gapEq).symm
  · rw [line.gap_of_le (Nat.le_of_not_lt crossed)] at gapEq
    simp at gapEq

theorem gapsFrom_of_ordered (line : Line) {start : Nat} {spans : List Span}
    (ordered : Span.Ordered start line.width spans) :
    line.gapsFrom start spans = .ok (Span.outside start line.width spans) := by
  induction spans generalizing start with
  | nil => exact line.gap_of_le ordered
  | cons span rest ih =>
      obtain ⟨startLe, -, restOrdered⟩ := ordered
      rw [gapsFrom, line.gap_of_le startLe, ih restOrdered]
      rfl

theorem contains_span (line : Line) (span : Span) :
    line.span.contains span = true ↔ span.stop ≤ line.width := by
  rw [Span.contains, Bool.and_eq_true, decide_eq_true_eq, decide_eq_true_eq]
  exact and_iff_right (Nat.zero_le span.start)

/-- Spans that stand in order once they are sorted can be taken out of a line. -/
theorem gaps_of_ordered_sorted (line : Line) {spans : List Span}
    (ordered : Span.Ordered 0 line.width (Span.sorted spans)) :
    line.gaps spans = .ok (if spans.isEmpty then [line.span]
      else Span.outside 0 line.width (Span.sorted spans)) := by
  rw [gaps]
  split
  · rfl
  · have within : spans.find? (fun span => !line.span.contains span) = none := by
      rw [List.find?_eq_none]
      intro span member
      rw [Bool.not_eq_true', Bool.not_eq_false, contains_span]
      exact (ordered.bounds ((Span.sorted_perm spans).mem_iff.mpr member)).2.2
    rw [within]
    exact line.gapsFrom_of_ordered ordered

/-- Ordered spans within a line can be taken out of it. -/
theorem gaps_of_ordered (line : Line) {spans : List Span}
    (ordered : Span.Ordered 0 line.width spans) :
    line.gaps spans =
      .ok (if spans.isEmpty then [line.span] else Span.outside 0 line.width spans) := by
  have sortedEq := ordered.sorted_eq
  have gapsEq := line.gaps_of_ordered_sorted (sortedEq ▸ ordered)
  rwa [sortedEq] at gapsEq

/-- Spans between which there are gaps stand in order. -/
theorem ordered_of_gapsFrom {line : Line} {start : Nat} {spans kept : List Span}
    (proper : ∀ span ∈ spans, span.start ≤ span.stop)
    (gapsEq : line.gapsFrom start spans = .ok kept) :
    Span.Ordered start line.width spans := by
  induction spans generalizing start kept with
  | nil => exact (eq_of_gap gapsEq).1
  | cons span rest ih =>
      rw [gapsFrom] at gapsEq
      split at gapsEq
      · simp at gapsEq
      · rename_i first firstEq
        split at gapsEq
        · simp at gapsEq
        · rename_i others othersEq
          have restProper : ∀ other ∈ rest, other.start ≤ other.stop :=
            fun other member => proper other (List.mem_cons_of_mem _ member)
          exact ⟨(eq_of_gap firstEq).1, proper span List.mem_cons_self, ih restProper othersEq⟩

theorem error_of_gapsFrom {line : Line} {start : Nat} {spans : List Span} {error : LookupError}
    (gapsEq : line.gapsFrom start spans = .error error) :
    error = .rangeIntersection line.number := by
  induction spans generalizing start with
  | nil => exact error_of_gap gapsEq
  | cons span rest ih =>
      rw [gapsFrom] at gapsEq
      split at gapsEq
      · rename_i cause firstEq
        obtain rfl := Except.error.inj gapsEq
        exact error_of_gap firstEq
      · split at gapsEq
        · rename_i cause othersEq
          obtain rfl := Except.error.inj gapsEq
          exact ih othersEq
        · simp at gapsEq

/-- Spans that can be taken out of a line stand in order once they are sorted. -/
theorem ordered_sorted_of_gaps {line : Line} {excluded kept : List Span}
    (proper : ∀ span ∈ excluded, span.start ≤ span.stop)
    (gapsEq : line.gaps excluded = .ok kept) :
    Span.Ordered 0 line.width (Span.sorted excluded) := by
  rw [gaps] at gapsEq
  split at gapsEq
  · rename_i empty
    obtain rfl := List.isEmpty_iff.mp empty
    exact Nat.zero_le line.width
  · split at gapsEq
    · simp at gapsEq
    · refine ordered_of_gapsFrom ?_ gapsEq
      exact fun span member => proper span ((Span.sorted_perm excluded).mem_iff.mp member)

/-- Whatever spans are taken out of a line, what is left of it stands in order. -/
theorem ordered_of_gaps {line : Line} {excluded kept : List Span}
    (proper : ∀ span ∈ excluded, span.start ≤ span.stop)
    (gapsEq : line.gaps excluded = .ok kept) : Span.Ordered 0 line.width kept := by
  have ordered := ordered_sorted_of_gaps proper gapsEq
  rw [line.gaps_of_ordered_sorted ordered] at gapsEq
  obtain rfl := Except.ok.inj gapsEq
  split
  · exact ⟨Nat.le_refl _, Nat.zero_le _, Nat.le_refl _⟩
  · exact Span.ordered_outside ordered

/-- Spans within a line can only be refused because two of them overlap. -/
theorem error_of_gaps {line : Line} {excluded : List Span} {error : LookupError}
    (within : ∀ span ∈ excluded, span.stop ≤ line.width)
    (gapsEq : line.gaps excluded = .error error) :
    error = .rangeIntersection line.number := by
  rw [gaps] at gapsEq
  split at gapsEq
  · simp at gapsEq
  · split at gapsEq
    · rename_i span outside
      have isOutside := List.find?_some outside
      rw [Bool.not_eq_true', ← Bool.not_eq_true, contains_span] at isOutside
      exact absurd (within span (List.mem_of_find?_eq_some outside)) isOutside
    · exact error_of_gapsFrom gapsEq

end Line

end Pinpoint
