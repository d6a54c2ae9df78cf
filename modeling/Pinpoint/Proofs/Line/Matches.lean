-- All of Mathlib, for the equations with which `cbv` runs a search on a text.
import Mathlib
import Pinpoint.Proofs.Code.Search

/-!
# Matches on a line

Whatever spans of a line are searched, every match is a piece of the line that is
not empty and starts behind the column from which the search starts.  If the spans
stand in order, the matches do.
-/

namespace Pinpoint

/-- A match is a piece of a line that is not empty and starts at or behind a column. -/
structure Match.IsPiece (line : Line) (first : Nat) (found : Match) : Prop where
  startLine : found.start.line = line.number
  stopLine : found.stop.line = line.number
  first_le : first ≤ found.start.column
  start_lt : found.start.column < found.stop.column
  stop_le : found.stop.column ≤ line.width
  nonempty : found.text ≠ []

namespace Match.IsPiece

variable {line : Line} {first : Nat} {found : Match}

theorem of_le (piece : found.IsPiece line first) {earlier : Nat} (le : earlier ≤ first) :
    found.IsPiece line earlier :=
  { piece with first_le := Nat.le_trans le piece.first_le }

/-- A piece behind another one starts where that one ends, or later. -/
theorem behind {other : Match} (piece : other.IsPiece line first)
    (before : found.stop.column ≤ other.start.column) :
    other.IsPiece line found.stop.column :=
  { piece with first_le := before }

end Match.IsPiece

namespace Line

variable {line : Line} {pattern : Pattern} {first : Nat}

/-- A match in a span is the occurrence of a pattern in a window there. -/
theorem exists_occurrence_of_mem_matchesIn {seek : Span} {found : Match}
    (member : found ∈ line.matchesIn pattern first seek) :
    ∃ window occurrence, occurrence ∈ pattern.occurrences window ∧
      Text.between? (max seek.start first) (min seek.stop line.width) line.text =
        some window ∧
      found = ⟨occurrence.text, line.position (max seek.start first + occurrence.start),
        line.position (max seek.start first + occurrence.stop)⟩ := by
  rw [matchesIn] at member
  split at member
  · simp at member
  · split at member
    · simp at member
    · rename_i window cut
      obtain ⟨occurrence, occurs, rfl⟩ := List.mem_map.mp member
      exact ⟨window, occurrence, occurs, cut, onLine_eq cut occurs⟩

theorem bounds_of_mem_matchesIn {seek : Span} {found : Match}
    (member : found ∈ line.matchesIn pattern first seek) :
    found.IsPiece line first ∧ seek.start ≤ found.start.column ∧
      found.stop.column ≤ seek.stop := by
  obtain ⟨window, occurrence, occurs, cut, rfl⟩ := exists_occurrence_of_mem_matchesIn member
  obtain ⟨left, right, windowEq, startEq, nonempty⟩ :=
    Pattern.exists_append_of_mem_occurrences occurs
  have positive := Text.width_pos nonempty
  have windowWidth : Text.width window =
      Text.width left + (Text.width occurrence.text + Text.width right) := by
    rw [windowEq, Text.width_append, Text.width_append]
  have stopEq := (Text.le_width_of_between? cut).1
  have stopWidth : occurrence.stop = occurrence.start + Text.width occurrence.text := rfl
  refine ⟨⟨rfl, rfl, ?_, ?_, ?_, nonempty⟩, ?_, ?_⟩
  all_goals simp only [position]; omega

theorem matchesIn_ordered (seek : Span) :
    (line.matchesIn pattern first seek).Pairwise fun left right =>
      left.stop.column ≤ right.start.column := by
  rw [matchesIn]
  split
  · exact List.Pairwise.nil
  · split
    · exact List.Pairwise.nil
    · rename_i window cut
      rw [List.pairwise_map]
      apply (Pattern.occurrences_ordered pattern window).imp
      intro left right before
      simp only [Match.onLine, position]
      omega

theorem mem_findInSpans {spans : List Span} {found : Match} :
    found ∈ line.findInSpans spans pattern first 0 ↔
      ∃ span ∈ spans, found ∈ line.matchesIn pattern first span := by
  rw [findInSpans_eq_limited]
  exact List.mem_flatMap

/-- A match in spans of a line is a piece of the line. -/
theorem isPiece_of_mem_findInSpans {spans : List Span} {found : Match}
    (member : found ∈ line.findInSpans spans pattern first 0) : found.IsPiece line first := by
  obtain ⟨span, -, inSpan⟩ := mem_findInSpans.mp member
  exact (bounds_of_mem_matchesIn inSpan).1

/-- The matches in spans that stand one after the other do so as well. -/
theorem findInSpans_ordered {spans : List Span}
    (apart : spans.Pairwise fun left right => left.stop ≤ right.start) :
    (line.findInSpans spans pattern first 0).Pairwise fun left right =>
      left.stop.column ≤ right.start.column := by
  rw [findInSpans_eq_limited]
  change (spans.flatMap (line.matchesIn pattern first)).Pairwise _
  rw [List.pairwise_flatMap]
  constructor
  · intro span _
    exact line.matchesIn_ordered span
  · apply apart.imp
    intro left right before found inLeft other inRight
    have leftBounds := (bounds_of_mem_matchesIn inLeft).2
    have rightBounds := (bounds_of_mem_matchesIn inRight).2
    omega

/-- The text of a match is what stands on the line at its columns. -/
theorem between?_of_mem_matchesIn {seek : Span} {found : Match}
    (member : found ∈ line.matchesIn pattern first seek) :
    Text.between? found.start.column found.stop.column line.text = some found.text := by
  obtain ⟨window, occurrence, occurs, cut, rfl⟩ := exists_occurrence_of_mem_matchesIn member
  obtain ⟨left, right, windowEq, startEq, -⟩ := Pattern.exists_append_of_mem_occurrences occurs
  rw [windowEq] at cut
  apply Text.between?_of_append cut
  · simp only [position, startEq]
  · simp only [position, Pattern.Occurrence.stop, Nat.add_assoc]

/-- A search through spans that stand one after the other finds pieces of the line from left
to right, each within a span and behind the column where the search starts, and with a limit
the first of them. -/
theorem findInSpans_windowed (line : Line) (pattern : Pattern) (first : Nat)
    {spans : List Span} (apart : spans.Pairwise fun left right => left.stop ≤ right.start) :
    let found := line.findInSpans spans pattern first 0
    (found.Pairwise fun left right =>
      left.start.column < right.start.column ∧ left.stop.column ≤ right.start.column) ∧
    (∀ piece ∈ found, piece.IsPiece line first ∧
      Text.between? piece.start.column piece.stop.column line.text = some piece.text ∧
      ∃ span ∈ spans, span.start ≤ piece.start.column ∧ piece.stop.column ≤ span.stop) ∧
    ∀ limit, 0 < limit → line.findInSpans spans pattern first limit = found.take limit := by
  intro found
  have pieces : ∀ piece ∈ found, piece.IsPiece line first :=
    fun piece member => isPiece_of_mem_findInSpans member
  refine ⟨?_, ?_, ?_⟩
  · apply (findInSpans_ordered apart).imp_of_mem
    intro left right leftMember rightMember before
    have nonempty := (pieces left leftMember).start_lt
    exact ⟨Nat.lt_of_lt_of_le nonempty before, before⟩
  · intro piece member
    refine ⟨pieces piece member, ?_⟩
    obtain ⟨span, spanMember, inSpan⟩ := mem_findInSpans.mp member
    obtain ⟨-, startLe, stopLe⟩ := bounds_of_mem_matchesIn inSpan
    exact ⟨between?_of_mem_matchesIn inSpan, span, spanMember, startLe, stopLe⟩
  · intro limit positive
    rw [findInSpans_limited, limited, if_neg (Nat.ne_of_gt positive)]

/-- The letter between the spans is passed over, and the limit counts for both of them. -/
theorem findInSpans_windowed_apart :
    let line : Line := ⟨4, "éa/*a*/a a".toList⟩
    let spans : List Span := [⟨0, 3⟩, ⟨8, 20⟩]
    (spans.Pairwise fun left right => left.stop ≤ right.start) ∧
      line.findInSpans spans (.char 'a') 2 2 =
        [⟨['a'], ⟨4, 2⟩, ⟨4, 3⟩⟩, ⟨['a'], ⟨4, 8⟩, ⟨4, 9⟩⟩] := by
  intro line spans
  have apart : spans.Pairwise fun left right => left.stop ≤ right.start := by decide
  refine ⟨apart, ?_⟩
  rw [(findInSpans_windowed line (.char 'a') 2 apart).2.2 2 (by decide)]
  cbv

end Line

end Pinpoint
