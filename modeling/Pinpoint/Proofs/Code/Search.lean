import Pinpoint.Proofs.Code.Window
import Pinpoint.Proofs.Pattern.Compiled

/-!
# Searching code

The search through the spans of a line finds the matches in the windows that
stand there, and stops at its limit.  Matches in windows that stand in order are
ordered, too.
-/

namespace Pinpoint

namespace Line

/-- A search stops at its limit, and otherwise collects the matches of all
spans. -/
theorem findInSpans_eq_limited (line : Line) (spans : List Span) (pattern : Pattern)
    (first limit : Nat) :
    line.findInSpans spans pattern first limit =
      limited limit (spans.flatMap (line.matchesIn pattern first)) := by
  induction spans generalizing limit with
  | nil => simp [findInSpans, limited]
  | cons span rest ih =>
      rw [findInSpans, List.flatMap_cons]
      rcases Nat.eq_zero_or_pos limit with rfl | positive
      · simp [findIn, limited, ih]
      · have bounded : limit ≠ 0 := Nat.ne_of_gt positive
        simp only [findIn, limited, if_neg bounded, List.length_take, ih]
        split
        · rename_i enough
          rw [List.take_append_of_le_length (by omega)]
        · rename_i missing
          have all : (line.matchesIn pattern first span).length < limit := by omega
          rw [if_neg (by omega), List.take_of_length_le (Nat.le_of_lt all),
            List.take_append, List.take_of_length_le (Nat.le_of_lt all),
            Nat.min_eq_right (Nat.le_of_lt all)]

/-- A limit cuts the list of all matches short. -/
theorem findInSpans_limited (line : Line) (spans : List Span) (pattern : Pattern)
    (first limit : Nat) :
    line.findInSpans spans pattern first limit =
      limited limit (line.findInSpans spans pattern first 0) := by
  rw [findInSpans_eq_limited, findInSpans_eq_limited line spans pattern first 0]
  rfl

theorem slice_of_between? {line : Line} {span : Span} {piece : Text}
    (cut : Text.between? span.start span.stop line.text = some piece) :
    line.slice span = piece := by
  obtain ⟨stopEq, stopLe⟩ := Text.le_width_of_between? cut
  have stopMin : min span.stop line.width = span.stop := Nat.min_eq_left stopLe
  have startMin : min span.start span.stop = span.start := Nat.min_eq_left (by omega)
  simp [slice, stopMin, startMin, cut]

theorem onLine_eq {line : Line} {start stop : Nat} {window : Text} {pattern : Pattern}
    (cut : Text.between? start stop line.text = some window)
    {found : Pattern.Occurrence} (member : found ∈ pattern.occurrences window) :
    Match.onLine line ⟨start + found.start, start + found.stop⟩ =
      ⟨found.text, line.position (start + found.start), line.position (start + found.stop)⟩ := by
  obtain ⟨left, right, rfl, startEq, -⟩ := Pattern.exists_append_of_mem_occurrences member
  have inner : Text.between? (start + found.start) (start + found.stop) line.text =
      some found.text :=
    Text.between?_of_append cut (by rw [startEq])
      (by rw [Pattern.Occurrence.stop, Nat.add_assoc])
  rw [Match.onLine, slice_of_between? inner]

/-- Within a line a span is searched from a column on as the window that is cut off
there, if no character is cut. -/
theorem matchesIn_eq {line : Line} {span : Span} (within : span.stop ≤ line.width)
    (pattern : Pattern) (first : Nat) :
    line.matchesIn pattern first span =
      ((Text.between? (max span.start first) span.stop line.text).map
        (Window.mk (line.position (max span.start first)))).toList.flatMap
          (Window.occurrences pattern) := by
  rw [matchesIn, Nat.min_eq_left within]
  cases cut : Text.between? (max span.start first) span.stop line.text with
  | none => simp
  | some window =>
      have found_eq : (pattern.occurrences window).map (fun found =>
          Match.onLine line ⟨max span.start first + found.start,
            max span.start first + found.stop⟩) =
          Window.occurrences pattern ⟨line.position (max span.start first), window⟩ :=
        List.map_congr_left fun found member => onLine_eq cut member
      by_cases empty : span.stop ≤ max span.start first
      · have widthEq := (Text.le_width_of_between? cut).1
        obtain rfl : window = [] := Text.width_eq_zero_iff.mp (by omega)
        simp [empty, Window.occurrences]
      · simp [empty, found_eq]

end Line

namespace Code

open Lexer Comment

@[simp]
theorem matchesFrom_nil (pattern : Pattern) (position : Position) :
    matchesFrom [] pattern position = [] := rfl

theorem matchesFrom_singleton (window : Window) (pattern : Pattern) (position : Position) :
    matchesFrom [window] pattern position =
      (window.from? position).toList.flatMap (Window.occurrences pattern) := by
  unfold matchesFrom
  cases left : window.from? position <;> simp [left]

theorem matchesFrom_append (left right : List Window) (pattern : Pattern)
    (position : Position) :
    matchesFrom (left ++ right) pattern position =
      matchesFrom left pattern position ++ matchesFrom right pattern position := by
  simp [matchesFrom]

theorem matchesFrom_cons (window : Window) (rest : List Window) (pattern : Pattern)
    (position : Position) :
    matchesFrom (window :: rest) pattern position =
      matchesFrom [window] pattern position ++ matchesFrom rest pattern position :=
  matchesFrom_append [window] rest pattern position

/-- The matches, read off the ends that the pattern has in each window. -/
theorem matchesFrom_eq_foundByEnds {pattern : Pattern} (proper : pattern.isProper = true)
    (windows : List Window) (position : Position) :
    matchesFrom windows pattern position =
      (windows.filterMap (Window.from? position)).flatMap fun window =>
        (pattern.foundByEnds window.text.length (.start window.text)).map fun found =>
          ⟨found.text, ⟨window.start.line, window.start.column + found.start⟩,
            ⟨window.start.line, window.start.column + found.stop⟩⟩ := by
  rw [matchesFrom]
  congr 1
  funext window
  rw [Window.occurrences, Pattern.occurrences_eq_foundByEnds proper]

theorem matchesIn_eq_matchesFrom {line : Line} {span : Span} {window : Window}
    (cut : line.CutsOut span window) (pattern : Pattern) (first : Nat) :
    line.matchesIn pattern first span =
      matchesFrom [window] pattern (line.position first) := by
  obtain ⟨startEq, textEq⟩ := cut
  have within := (Text.le_width_of_between? textEq).2
  rw [Line.matchesIn_eq within, matchesFrom_singleton, Window.from?, startEq]
  rcases Nat.lt_or_ge span.start first with behind | before
  · rw [Nat.max_eq_right (Nat.le_of_lt behind),
      Text.between?_of_between? textEq (Nat.le_of_lt behind)]
    simp [Line.position, behind]
  · have windowEq : Window.mk (line.position span.start) window.text = window := by
      rw [← startEq]
    rw [Nat.max_eq_left before, textEq]
    simp [Line.position, Nat.not_lt.mpr before] at windowEq ⊢
    rw [windowEq]

/-- Searching the spans of windows finds the matches of the windows, up to the
limit. -/
theorem findInSpans_eq_matchesFrom {line : Line} {spans : List Span}
    {windows : List Window} (cuts : List.Forall₂ line.CutsOut spans windows)
    (pattern : Pattern) (first limit : Nat) :
    line.findInSpans spans pattern first limit =
      Line.limited limit (matchesFrom windows pattern (line.position first)) := by
  rw [Line.findInSpans_eq_limited]
  congr 1
  induction cuts with
  | nil => rfl
  | cons cut _ ih =>
      rw [List.flatMap_cons, matchesFrom_cons, ih, matchesIn_eq_matchesFrom cut]

end Code

namespace Window

theorem from?_of_atMost {position : Position} {window : Window}
    (before : position.atMost window.start = true) :
    window.from? position = some window := by
  simp only [Position.atMost_iff] at before
  rw [from?, if_neg (by omega), if_neg (by omega)]

/-- A match is a piece of the text of a window, and stands where the piece does. -/
def Contains (window : Window) (found : Match) : Prop :=
  ∃ left right, window.text = left ++ (found.text ++ right) ∧ found.text ≠ [] ∧
    found.start = ⟨window.start.line, window.start.column + Text.width left⟩ ∧
    found.stop = ⟨found.start.line, found.start.column + Text.width found.text⟩

/-- A window ends before another one starts on the same line. -/
def Before (left right : Window) : Prop :=
  left.start.line = right.start.line ∧
    left.start.column + Text.width left.text ≤ right.start.column

theorem Contains.bounds {window : Window} {found : Match} (contained : window.Contains found) :
    found.start.line = window.start.line ∧ found.stop.line = window.start.line ∧
      window.start.column ≤ found.start.column ∧ found.start.column < found.stop.column ∧
      found.stop.column ≤ window.start.column + Text.width window.text := by
  obtain ⟨left, right, textEq, nonempty, startEq, stopEq⟩ := contained
  have positive := Text.width_pos nonempty
  simp only [stopEq, startEq, textEq, Text.width_append, true_and]
  omega

theorem contains_of_mem_occurrences {pattern : Pattern} {window : Window} {found : Match}
    (member : found ∈ window.occurrences pattern) : window.Contains found := by
  obtain ⟨occurrence, occurs, rfl⟩ := List.mem_map.mp member
  obtain ⟨left, right, textEq, startEq, nonempty⟩ :=
    Pattern.exists_append_of_mem_occurrences occurs
  refine ⟨left, right, textEq, nonempty, by rw [startEq], ?_⟩
  simp [Pattern.Occurrence.stop, Nat.add_assoc]

theorem contains_of_from? {position : Position} {window left : Window} {found : Match}
    (cut : window.from? position = some left) (contained : left.Contains found) :
    window.Contains found ∧ position.atMost found.start = true := by
  obtain ⟨before, behind, textEq, nonempty, startEq, stopEq⟩ := contained
  rw [from?] at cut
  split at cut
  · simp at cut
  · split at cut
    · rename_i notBefore within
      obtain ⟨rest, dropped, rfl⟩ := Option.map_eq_some_iff.mp cut
      obtain ⟨skipped, windowEq, skippedWidth⟩ := Text.dropBytes?_eq_some_iff.mp dropped
      simp only at textEq startEq
      refine ⟨⟨skipped ++ before, behind, by simp [windowEq, textEq], nonempty, ?_, stopEq⟩, ?_⟩
      · rw [startEq, within.1, Text.width_append]
        congr 1
        omega
      · simp [startEq, Position.atMost]
    · rename_i notBefore notWithin
      obtain rfl := Option.some.inj cut
      refine ⟨⟨before, behind, textEq, nonempty, startEq, stopEq⟩, ?_⟩
      simp only [startEq, Position.atMost_iff]
      omega

end Window

namespace Code

/-- A match lies in one of the windows, at or behind the position. -/
theorem contains_of_mem_matchesFrom {windows : List Window} {pattern : Pattern}
    {position : Position} {found : Match}
    (member : found ∈ matchesFrom windows pattern position) :
    ∃ window ∈ windows, window.Contains found ∧ position.atMost found.start = true := by
  obtain ⟨left, leftMember, occurs⟩ := List.mem_flatMap.mp member
  obtain ⟨window, windowMember, cut⟩ := List.mem_filterMap.mp leftMember
  exact ⟨window, windowMember,
    Window.contains_of_from? cut (Window.contains_of_mem_occurrences occurs)⟩

/-- For windows that stand behind two positions the position does not matter. -/
theorem matchesFrom_of_atMost {windows : List Window} {position other : Position}
    (before : ∀ window ∈ windows, position.atMost window.start = true)
    (otherBefore : ∀ window ∈ windows, other.atMost window.start = true)
    (pattern : Pattern) :
    matchesFrom windows pattern position = matchesFrom windows pattern other := by
  have same : windows.filterMap (Window.from? position) =
      windows.filterMap (Window.from? other) := by
    apply List.filterMap_congr
    intro window member
    rw [Window.from?_of_atMost (before window member),
      Window.from?_of_atMost (otherBefore window member)]
  rw [matchesFrom, matchesFrom, same]

theorem matchesFrom_of_line_lt {windows : List Window} {position : Position}
    (earlier : ∀ window ∈ windows, window.start.line < position.line) (pattern : Pattern) :
    matchesFrom windows pattern position = [] := by
  have none_left : windows.filterMap (Window.from? position) = [] := by
    rw [List.filterMap_eq_nil_iff]
    intro window member
    rw [Window.from?, if_pos (earlier window member)]
  rw [matchesFrom, none_left]
  rfl

/-- Windows where ordered spans of a line stand come one after the other. -/
theorem pairwise_before_of_cutsOut {line : Line} {first last : Nat} {spans : List Span}
    {windows : List Window} (ordered : Span.Ordered first last spans)
    (cuts : List.Forall₂ line.CutsOut spans windows) :
    (∀ window ∈ windows, window.start.line = line.number ∧ first ≤ window.start.column) ∧
      windows.Pairwise Window.Before := by
  induction cuts generalizing first with
  | nil => exact ⟨by simp, List.Pairwise.nil⟩
  | cons cut _ ih =>
      obtain ⟨startLe, proper, restOrdered⟩ := ordered
      obtain ⟨startEq, textEq⟩ := cut
      obtain ⟨behind, pairwise⟩ := ih restOrdered
      have stopEq := (Text.le_width_of_between? textEq).1
      constructor
      · intro window member
        rcases List.mem_cons.mp member with rfl | later
        · rw [startEq]
          exact ⟨rfl, startLe⟩
        · have bounds := behind window later
          omega
      · refine List.Pairwise.cons (fun window member => ?_) pairwise
        obtain ⟨lineEq, columnLe⟩ := behind window member
        rw [Window.Before, startEq, lineEq]
        exact ⟨rfl, by simp only [Line.position]; omega⟩

theorem matchesFrom_ordered {windows : List Window} (ordered : windows.Pairwise Window.Before)
    (pattern : Pattern) (position : Position) :
    (matchesFrom windows pattern position).Pairwise fun left right =>
      left.stop.column ≤ right.start.column := by
  rw [matchesFrom, List.pairwise_flatMap]
  constructor
  · intro window _
    rw [Window.occurrences, List.pairwise_map]
    exact (Pattern.occurrences_ordered pattern window.text).imp fun before => by
      simp only
      omega
  · refine List.Pairwise.filterMap _ (fun left right before => ?_) ordered
    intro cutLeft leftEq cutRight rightEq first firstMember second secondMember
    obtain ⟨firstIn, -⟩ :=
      Window.contains_of_from? leftEq (Window.contains_of_mem_occurrences firstMember)
    obtain ⟨secondIn, -⟩ :=
      Window.contains_of_from? rightEq (Window.contains_of_mem_occurrences secondMember)
    have firstBounds := firstIn.bounds
    have secondBounds := secondIn.bounds
    have apart := before.2
    omega

/-- The first piece between breaks stands in front, and every piece holds no break. -/
private theorem exists_append_of_splitOnP {α : Type} (breaks : α → Bool) (all : List α) :
    ∃ first others, all.splitOnP breaks = first :: others ∧
      (∃ right, all = first ++ right) ∧ (∀ x ∈ first, breaks x = false) ∧
      ∀ piece ∈ others, (∃ left right, all = left ++ (piece ++ right)) ∧
        ∀ x ∈ piece, breaks x = false := by
  induction all with
  | nil => exact ⟨[], [], List.splitOnP_nil, ⟨[], rfl⟩, by simp, by simp⟩
  | cons head rest ih =>
      obtain ⟨first, others, pieces, ⟨behind, restEq⟩, firstClear, later⟩ := ih
      have laterHere : ∀ piece ∈ others, (∃ left right, head :: rest = left ++ (piece ++ right)) ∧
          ∀ x ∈ piece, breaks x = false := by
        intro piece member
        obtain ⟨⟨left, right, restEq⟩, clear⟩ := later piece member
        exact ⟨⟨head :: left, right, by rw [restEq, List.cons_append]⟩, clear⟩
      rw [List.splitOnP_cons_eq_if_modifyHead, pieces]
      split
      · refine ⟨[], first :: others, rfl, ⟨_, rfl⟩, by simp, ?_⟩
        intro piece member
        rcases List.mem_cons.mp member with rfl | other
        · exact ⟨⟨[head], behind, by rw [List.singleton_append, restEq]⟩, firstClear⟩
        · exact laterHere piece other
      · rename_i noBreak
        have headEq : head :: rest = head :: first ++ behind := by rw [restEq, List.cons_append]
        refine ⟨head :: first, others, rfl, ⟨behind, headEq⟩, ?_, laterHere⟩
        intro x member
        rcases List.mem_cons.mp member with rfl | inFirst
        · exact Bool.eq_false_iff.mpr noBreak
        · exact firstClear x inFirst

/-- A window shows characters of code that stand together. -/
theorem exists_append_of_mem_windows {marks : List Lexer.Mark} {window : Window}
    (member : window ∈ windows marks) :
    ∃ left mark inner right, marks = left ++ (mark :: inner ++ right) ∧
      window = ⟨mark.place, mark.char :: inner.map (·.char)⟩ ∧
      ∀ other ∈ mark :: inner, isBreak other = false := by
  obtain ⟨piece, pieceMember, windowEq⟩ := List.mem_filterMap.mp member
  cases piece with
  | nil => simp [Window.ofMarks?] at windowEq
  | cons mark inner =>
      obtain rfl := Option.some.inj windowEq
      obtain ⟨first, others, pieces, ⟨behind, marksEq⟩, firstClear, later⟩ :=
        exists_append_of_splitOnP isBreak marks
      rw [pieces] at pieceMember
      rcases List.mem_cons.mp pieceMember with rfl | other
      · exact ⟨[], mark, inner, behind, marksEq, rfl, firstClear⟩
      · obtain ⟨⟨left, right, marksEq⟩, clear⟩ := later _ other
        exact ⟨left, mark, inner, right, marksEq, rfl, clear⟩

/-- A window stands where one of the characters does. -/
theorem exists_mark_of_mem_windows {marks : List Lexer.Mark} {window : Window}
    (member : window ∈ windows marks) : ∃ mark ∈ marks, mark.place = window.start := by
  obtain ⟨left, mark, inner, right, rfl, rfl, -⟩ := exists_append_of_mem_windows member
  exact ⟨mark, by simp, rfl⟩

end Code

end Pinpoint
