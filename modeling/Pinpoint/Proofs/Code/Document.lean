import Pinpoint.Proofs.Code.Search
import Pinpoint.Proofs.Comment.Exactness

/-!
# The code of a document

The windows of code of a document from a line on, as the lexer leaves them when
it is started at that line.  They fall apart line by line, where the windows of a
line stand in the gaps between the comments that the scanner reports for it.
-/

namespace Pinpoint

open Lexer

/-- The documents that a text can be searched as, indexed or plain. -/
inductive LineSource.IsOf (text : Text) : LineSource → Prop
  | indexed : IsOf text (IndexedText.ofText text).source
  | plain : IsOf text text.source

namespace LineSource

/-- The lines of a document from a number on. -/
def linesFrom (document : LineSource) (first : Nat) : List Line :=
  (List.range' first (document.lineCount - first)).filterMap document.line?

/-- The code of a document from the start of a line on. -/
def codeFrom (document : LineSource) (first : Nat) : List Window :=
  Code.windows (marks .code ⟨first, 0⟩
    (Text.joinLines ((document.linesFrom first).map (·.text))))

/-- From a number on, a document has lines with the given texts, and no others. -/
structure Rows (document : LineSource) (first : Nat) (texts : List Text) : Prop where
  lineCount_eq : document.lineCount - first = texts.length
  line?_eq : ∀ index, document.line? (first + index) =
    texts[index]?.map (Line.mk (first + index))
  clear : ∀ text ∈ texts, '\n' ∉ text

theorem IsOf.eq_source {text : Text} {document : LineSource} (isOf : document.IsOf text) :
    document = text.source := by
  cases isOf with
  | indexed => exact IndexedText.source_ofText text
  | plain => rfl

/-- A document has its lines under their numbers, and no line behind the last. -/
structure Regular (document : LineSource) : Prop where
  number_eq : ∀ number line, document.line? number = some line → line.number = number
  lt_lineCount : ∀ number line, document.line? number = some line →
    number < document.lineCount

theorem Regular.line?_eq_none {document : LineSource} (regular : document.Regular) {number : Nat}
    (beyond : document.lineCount ≤ number) : document.line? number = none := by
  cases lineAt : document.line? number with
  | none => rfl
  | some line => exact absurd (regular.lt_lineCount number line lineAt) (Nat.not_lt.mpr beyond)

theorem IsOf.regular {text : Text} {document : LineSource} (isOf : document.IsOf text) :
    document.Regular := by
  rw [isOf.eq_source]
  constructor
  · intro number line lineAt
    obtain ⟨raw, -, rfl⟩ := Option.map_eq_some_iff.mp lineAt
    rfl
  · intro number line lineAt
    obtain ⟨raw, rawAt, -⟩ := Option.map_eq_some_iff.mp lineAt
    exact (List.getElem?_eq_some_iff.mp rawAt).1

/-- A line without what is left of its line ending. -/
def rowOf (raw : Text) : Text :=
  (Line.ofRaw 0 raw).text

/-- The texts of the lines of a document, without their line endings. -/
def rowsOf (text : Text) : List Text :=
  (Text.splitLines text).map rowOf

theorem newline_not_mem_rowOf {raw : Text} (clear : '\n' ∉ raw) : '\n' ∉ rowOf raw := by
  rw [rowOf, Line.ofRaw]
  split
  · exact fun member => clear (List.dropLast_subset raw member)
  · exact clear

theorem IsOf.rows {text : Text} {document : LineSource} (isOf : document.IsOf text)
    (first : Nat) : document.Rows first ((rowsOf text).drop first) := by
  rw [isOf.eq_source]
  refine ⟨by simp [Text.source, rowsOf], fun index => ?_, fun row member => ?_⟩
  · rw [List.getElem?_drop, rowsOf, List.getElem?_map, Option.map_map]
    rfl
  · obtain ⟨raw, rawMember, rfl⟩ := List.mem_map.mp (List.mem_of_mem_drop member)
    exact newline_not_mem_rowOf (Text.newline_not_mem_of_mem_splitLines rawMember)

theorem IsOf.exists_line {text : Text} {document : LineSource} (isOf : document.IsOf text)
    {number : Nat} (within : number < document.lineCount) :
    ∃ line, document.line? number = some line := by
  rw [isOf.eq_source, Text.source] at within
  rw [isOf.eq_source, Text.source]
  exact ⟨_, Option.map_eq_some_iff.mpr ⟨_, List.getElem?_eq_getElem within, rfl⟩⟩

theorem IsOf.lineCount_pos {text : Text} {document : LineSource} (isOf : document.IsOf text) :
    0 < document.lineCount := by
  rw [isOf.eq_source]
  exact List.length_pos_iff.mpr (Text.splitLines_ne_nil text)

namespace Rows

variable {document : LineSource} {first : Nat} {text : Text} {texts others : List Text}

theorem head (rows : document.Rows first (text :: others)) :
    document.line? first = some ⟨first, text⟩ := rows.line?_eq 0

theorem tail (rows : document.Rows first (text :: others)) :
    document.Rows (first + 1) others where
  lineCount_eq := by
    have countEq := rows.lineCount_eq
    simp only [List.length_cons] at countEq
    omega
  line?_eq index := by
    have lineEq := rows.line?_eq (index + 1)
    rwa [List.getElem?_cons_succ, ← Nat.add_assoc, Nat.add_right_comm] at lineEq
  clear other member := rows.clear other (List.mem_cons_of_mem _ member)

theorem map_text_linesFrom (rows : document.Rows first texts) :
    (document.linesFrom first).map (·.text) = texts := by
  rw [linesFrom, rows.lineCount_eq]
  induction texts generalizing first with
  | nil => rfl
  | cons text others ih =>
      rw [List.length_cons, List.range'_succ, List.filterMap_cons, rows.head]
      exact congrArg (text :: ·) (ih rows.tail)

theorem codeFrom_eq (rows : document.Rows first texts) :
    document.codeFrom first =
      Code.windows (marks .code ⟨first, 0⟩ (Text.joinLines texts)) := by
  rw [codeFrom, rows.map_text_linesFrom]

end Rows

end LineSource

/-- Spans of a line show what windows of code have there: the matches from a column
of the line on are those in the spans, in order, and then those on later lines. -/
structure Line.Exposes (line : Line) (spans : List Span) (windows : List Window) : Prop where
  matchesFrom_eq : ∀ pattern column,
    Code.matchesFrom windows pattern (line.position column) =
      line.findInSpans spans pattern column 0 ++
        Code.matchesFrom windows pattern ⟨line.number + 1, 0⟩
  onLine : ∀ pattern column, ∀ found ∈ line.findInSpans spans pattern column 0,
    found.stop.line = line.number ∧ column ≤ found.stop.column
  ordered : ∀ pattern column, (line.findInSpans spans pattern column 0).Pairwise
    fun left right => left.stop.column ≤ right.stop.column

namespace Code

open Comment

/-- The windows of a document are those of its first line and those of the others,
read in the state that is handed on. -/
theorem windows_joinLines_cons {text : Text} (clear : '\n' ∉ text) (state : CommentState)
    (number : Nat) (others : List Text) :
    windows (marks (.ofState state) ⟨number, 0⟩ (Text.joinLines (text :: others))) =
      windows (marks (.ofState state) ⟨number, 0⟩ text) ++
        windows (marks (.ofState (scan ⟨number, text⟩ state).2) ⟨number + 1, 0⟩
          (Text.joinLines others)) := by
  cases others with
  | nil => simp
  | cons next others =>
      obtain ⟨newline, -, charEq, marksEq⟩ := marks_joinLines_cons clear state number next others
      rw [marksEq, windows_append_cons (by simp [isBreak, charEq])]

theorem line_le_of_mem_windows {mode : Mode} {place : Position} {text : Text}
    {window : Window} (member : window ∈ windows (marks mode place text)) :
    place.line ≤ window.start.line := by
  obtain ⟨mark, markMember, placeEq⟩ := exists_mark_of_mem_windows member
  rw [← placeEq]
  exact line_le_of_mem_marks markMember

theorem line_eq_of_mem_windows {mode : Mode} {place : Position} {text : Text}
    (clear : '\n' ∉ text) {window : Window}
    (member : window ∈ windows (marks mode place text)) :
    window.start.line = place.line := by
  obtain ⟨mark, markMember, placeEq⟩ := exists_mark_of_mem_windows member
  rw [← placeEq]
  exact (place_of_mem_marks clear markMember).1

/-- On the first line of a document the matches from a column on are followed by
those on the later lines. -/
theorem matchesFrom_joinLines_cons {text : Text} (clear : '\n' ∉ text)
    (state : CommentState) (number column : Nat) (others : List Text) (pattern : Pattern) :
    matchesFrom (windows (marks (.ofState state) ⟨number, 0⟩
        (Text.joinLines (text :: others)))) pattern ⟨number, column⟩ =
      matchesFrom (windows (marks (.ofState state) ⟨number, 0⟩ text)) pattern
          ⟨number, column⟩ ++
        matchesFrom (windows (marks (.ofState (scan ⟨number, text⟩ state).2) ⟨number + 1, 0⟩
          (Text.joinLines others))) pattern ⟨number + 1, 0⟩ := by
  rw [windows_joinLines_cons clear, matchesFrom_append]
  congr 1
  apply matchesFrom_of_atMost
  · intro window member
    have lineLe : number + 1 ≤ window.start.line := line_le_of_mem_windows member
    simp only [Position.atMost, Bool.or_eq_true, decide_eq_true_eq]
    omega
  · intro window member
    have lineLe : number + 1 ≤ window.start.line := line_le_of_mem_windows member
    simp only [Position.atMost_iff]
    omega

theorem matchesFrom_joinLines_cons_of_lt {text : Text} (clear : '\n' ∉ text)
    (state : CommentState) {number : Nat} {position : Position}
    (behind : number < position.line) (others : List Text) (pattern : Pattern) :
    matchesFrom (windows (marks (.ofState state) ⟨number, 0⟩
        (Text.joinLines (text :: others)))) pattern position =
      matchesFrom (windows (marks (.ofState (scan ⟨number, text⟩ state).2) ⟨number + 1, 0⟩
        (Text.joinLines others))) pattern position := by
  rw [windows_joinLines_cons clear, matchesFrom_append,
    matchesFrom_of_line_lt fun window member => ?_, List.nil_append]
  rw [line_eq_of_mem_windows clear member]
  exact behind

/-- The windows of a line stand in the gaps between the comments that the scanner
reports for it. -/
theorem cutsOut_outside {line : Line} (clear : '\n' ∉ line.text) {state : CommentState}
    (carried : Carried line 0 state) :
    List.Forall₂ line.CutsOut (Span.outside 0 line.width (spansOn line (scan line state).1))
      (windows (marks (.ofState state) (line.position 0) line.text)) := by
  have leaves := leavesWindows clear state 0 line.text
  cases state with
  | closed => exact leaves [] [] rfl rfl
  | opened position =>
      have startEq := Nat.le_zero.mp carried.2
      have cuts := leaves [] rfl rfl carried
      rwa [startEq] at cuts

/-- A line without comments is searched as a whole, also when it is empty. -/
theorem findInSpans_span (line : Line) (pattern : Pattern) (first limit : Nat) :
    line.findInSpans [line.span] pattern first limit =
      line.findInSpans (Span.outside 0 line.width []) pattern first limit := by
  rw [Span.outside, Span.between]
  split
  · rename_i empty
    rw [Line.findInSpans_eq_limited, Line.findInSpans_eq_limited, List.flatMap_singleton,
      Line.matchesIn, if_pos (by simp [Line.span, ← empty])]
    rfl
  · rfl

/-- Searching what the comments of a line leave of it finds the matches in the
windows of the lexer. -/
theorem exists_gaps {line : Line} (clear : '\n' ∉ line.text) {state : CommentState}
    (carried : Carried line 0 state) :
    ∃ spans, line.gaps (spansOn line (scan line state).1) = .ok spans ∧
      ∀ pattern first limit, line.findInSpans spans pattern first limit =
        Line.limited limit (matchesFrom
          (windows (marks (.ofState state) (line.position 0) line.text)) pattern
          (line.position first)) := by
  have cuts := cutsOut_outside clear carried
  rw [line.gaps_of_ordered (ordered_scan carried)]
  refine ⟨_, rfl, fun pattern first limit => ?_⟩
  split
  · rename_i none
    rw [List.isEmpty_iff.mp none] at cuts
    -- Without comments the line is not cut into gaps, but given as one span.
    rw [findInSpans_span, findInSpans_eq_matchesFrom cuts]
  · exact findInSpans_eq_matchesFrom cuts pattern first limit

/-- The comments of a line leave spans that show the code of the document there. -/
theorem exists_exposes {line : Line} (clear : '\n' ∉ line.text) {state : CommentState}
    (carried : Carried line 0 state) (others : List Text) :
    ∃ spans, line.gaps (spansOn line (scan line state).1) = .ok spans ∧
      line.Exposes spans (windows (marks (.ofState state) ⟨line.number, 0⟩
        (Text.joinLines (line.text :: others)))) := by
  obtain ⟨spans, gapsEq, finds⟩ := exists_gaps clear carried
  refine ⟨spans, gapsEq, fun pattern column => ?_, fun pattern column found member => ?_,
    fun pattern column => ?_⟩
  · rw [Line.position, matchesFrom_joinLines_cons clear,
      matchesFrom_joinLines_cons_of_lt clear state (Nat.lt_succ_self _), finds]
    rfl
  · rw [finds] at member
    obtain ⟨window, windowMember, contained, before⟩ := contains_of_mem_matchesFrom member
    have windowLine : window.start.line = line.number :=
      line_eq_of_mem_windows clear windowMember
    have bounds := contained.bounds
    simp only [Line.position, Position.atMost_iff] at before
    omega
  · rw [finds]
    have ordered := (pairwise_before_of_cutsOut
      (Span.ordered_outside (ordered_scan carried)) (cutsOut_outside clear carried)).2
    refine (matchesFrom_ordered ordered pattern _).imp_of_mem fun _ rightMember before => ?_
    obtain ⟨window, -, contained, -⟩ := contains_of_mem_matchesFrom rightMember
    have bounds := contained.bounds
    omega

end Code

end Pinpoint
