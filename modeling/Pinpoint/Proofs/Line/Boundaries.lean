import Pinpoint.Proofs.Document.Places
import Pinpoint.Proofs.Line.Matches

/-!
# Columns between characters

A search through a line can only be carried out where it cuts no character.  The comments
of a line start and end between characters, so do the gaps that they leave, and so do the
matches of a pattern in these.
-/

namespace Pinpoint

namespace Line

variable {line : Line}

theorem HasColumn.max {left right : Nat} (hasLeft : line.HasColumn left)
    (hasRight : line.HasColumn right) : line.HasColumn (max left right) := by
  rcases Nat.le_total left right with le | le
  · rwa [Nat.max_eq_right le]
  · rwa [Nat.max_eq_left le]

theorem HasColumn.min {left right : Nat} (hasLeft : line.HasColumn left)
    (hasRight : line.HasColumn right) : line.HasColumn (min left right) := by
  rcases Nat.le_total left right with le | le
  · rwa [Nat.min_eq_left le]
  · rwa [Nat.min_eq_right le]

/-! ### Searching -/

/-- What is left of a span from a column on can be cut out of the line.  Otherwise a search
there finds nothing, whatever the text. -/
def Searchable (line : Line) (first : Nat) (seek : Span) : Prop :=
  max seek.start first < min seek.stop line.width →
    ∃ window, Text.between? (max seek.start first) (min seek.stop line.width) line.text =
      some window

theorem searchable_of_hasColumn {first : Nat} {seek : Span} (hasFirst : line.HasColumn first)
    (hasStart : line.HasColumn seek.start) (hasStop : line.HasColumn seek.stop) :
    line.Searchable first seek := by
  intro nonempty
  have startColumn := hasStart.max hasFirst
  have stopColumn := hasStop.min line.hasColumn_width
  exact Text.exists_between? startColumn.isBoundary stopColumn.isBoundary (Nat.le_of_lt nonempty)

/-- A match that is found in spans of a line starts and ends between characters of it. -/
theorem hasColumns_of_mem_findInSpans {pattern : Pattern} {first : Nat} {spans : List Span}
    {found : Match} (member : found ∈ line.findInSpans spans pattern first 0) :
    line.HasColumn found.start.column ∧ line.HasColumn found.stop.column := by
  obtain ⟨span, -, inSpan⟩ := mem_findInSpans.mp member
  exact hasColumns_of_between? (between?_of_mem_matchesIn inSpan)

end Line

/-! ### Gaps -/

/-- Where spans leave a gap, they or the bounds end. -/
theorem Span.ends_of_mem_outside {holds : Nat → Prop} {first last : Nat} (atFirst : holds first)
    (atLast : holds last) {spans : List Span}
    (ends : ∀ span ∈ spans, holds span.start ∧ holds span.stop) {gap : Span}
    (member : gap ∈ outside first last spans) : holds gap.start ∧ holds gap.stop := by
  induction spans generalizing first with
  | nil =>
      obtain ⟨-, rfl⟩ := mem_between.mp member
      exact ⟨atFirst, atLast⟩
  | cons span rest ih =>
      obtain ⟨atStart, atStop⟩ := ends span List.mem_cons_self
      rcases List.mem_append.mp member with front | behind
      · obtain ⟨-, rfl⟩ := mem_between.mp front
        exact ⟨atFirst, atStart⟩
      · exact ih atStop (fun other inRest => ends other (List.mem_cons_of_mem _ inRest)) behind

/-- Taking out spans that cut no character leaves spans that cut none. -/
theorem Line.hasColumns_of_mem_gaps {line : Line} {excluded kept : List Span}
    (proper : ∀ span ∈ excluded, span.start ≤ span.stop)
    (ends : ∀ span ∈ excluded, line.HasColumn span.start ∧ line.HasColumn span.stop)
    (gapsEq : line.gaps excluded = .ok kept) {span : Span} (member : span ∈ kept) :
    line.HasColumn span.start ∧ line.HasColumn span.stop := by
  rw [line.gaps_of_ordered_sorted (ordered_sorted_of_gaps proper gapsEq)] at gapsEq
  obtain rfl := Except.ok.inj gapsEq
  split at member
  · obtain rfl := List.mem_singleton.mp member
    exact ⟨line.hasColumn_zero, line.hasColumn_width⟩
  · refine Span.ends_of_mem_outside line.hasColumn_zero line.hasColumn_width ?_ member
    intro other isSorted
    exact ends other ((Span.sorted_perm excluded).mem_iff.mp isSorted)

/-! ### Comments -/

/-- The comments that are found in a line, and a block comment that is open at its end, start
and end between characters of the line, apart from a block comment that was open before. -/
theorem Comment.holds_of_scanFrom {line : Line} {holds : Position → Prop}
    (here : ∀ column, line.HasColumn column → holds (line.position column))
    (state : CommentState) (column : Nat) (rest : Text)
    (opened : ∀ position, state = .opened position → holds position) {before : Text}
    (textEq : line.text = before ++ rest) (columnEq : column = Text.width before) :
    (∀ comment ∈ (scanFrom line state column rest).1,
        holds comment.found.start ∧ holds comment.found.stop) ∧
      ∀ position, (scanFrom line state column rest).2 = .opened position → holds position := by
  have between : ∀ {front back : Text}, line.text = front ++ back →
      holds (line.position (Text.width front)) :=
    fun cut => here _ (Line.hasColumn_of_append cut)
  have atWidth : holds (line.position line.width) := here _ line.hasColumn_width
  induction state, column, rest using scan_induction line generalizing before with
  | slashes column rest =>
      subst columnEq
      rw [scanFrom_slashes]
      refine ⟨?_, by simp⟩
      intro comment member
      obtain rfl := List.mem_singleton.mp member
      exact ⟨between textEq, atWidth⟩
  | opener column rest ih =>
      subst columnEq
      have behindEq : line.text = (before ++ ['/', '*']) ++ rest := by simp [textEq]
      rw [scanFrom_opener]
      refine ih ?_ behindEq (by simp)
      intro position isOpened
      obtain rfl := CommentState.opened.inj isOpened
      exact between textEq
  | plain column c rest plain ih =>
      have behindEq : line.text = (before ++ [c]) ++ rest := by simp [textEq]
      rw [scanFrom_plain plain]
      exact ih (by simp) behindEq (by simp [columnEq])
  | closedEnd column => simp [scanFrom_closed_nil]
  | closer position column rest ih =>
      have behindEq : line.text = (before ++ ['*', '/']) ++ rest := by simp [textEq]
      have columnEq' : column + 2 = Text.width (before ++ ['*', '/']) := by simp [columnEq]
      obtain ⟨others, later⟩ := ih (by simp) behindEq columnEq'
      rw [scanFrom_closer]
      refine ⟨?_, later⟩
      intro comment member
      rcases List.mem_cons.mp member with rfl | inOthers
      · rw [columnEq']
        exact ⟨opened position rfl, between behindEq⟩
      · exact others comment inOthers
  | inside position column c rest inside ih =>
      have behindEq : line.text = (before ++ [c]) ++ rest := by simp [textEq]
      rw [scanFrom_inside inside]
      exact ih opened behindEq (by simp [columnEq])
  | openEnd position column =>
      rw [scanFrom_opened_nil]
      refine ⟨?_, opened⟩
      intro comment member
      obtain rfl := List.mem_singleton.mp member
      exact ⟨opened position rfl, atWidth⟩

end Pinpoint
