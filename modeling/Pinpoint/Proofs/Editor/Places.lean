import Pinpoint.Editor
import Pinpoint.Proofs.Finding.Fixes
import Pinpoint.Proofs.Text.Units

/-!
# Places of editors and printed columns

Editors count UTF-16 code units, and a printed diagnostic counts characters.
Both lead back to the byte columns of a range, as long as it cuts no character
and the numbers fit.  An editor that replaces an area gets the text that the
edit of the range gives.
-/

namespace Pinpoint

namespace Editor

/-- The position of a place: behind the characters that take up its code units. -/
def Place.position? (document : IndexedText) (place : Place) : Option Position :=
  (document.line? place.line).bind fun line =>
    (Text.takeUnits16? place.character line.text).map fun left =>
      ⟨place.line, Text.width left⟩

/-- The range of an area. -/
def Area.range? (document : IndexedText) (area : Area) : Option Range :=
  (area.start.position? document).bind fun start =>
    (area.stop.position? document).map (⟨start, ·⟩)

/-- What an editor has in front of a place. -/
def Place.before? (text : Text) (place : Place) : Option Text :=
  (Text.splitLines text)[place.line]?.bind fun row =>
    (Text.takeUnits16? place.character row).map (Text.upToLine place.line text ++ ·)

/-- A text after an editor has replaced an area of it. -/
def Area.replaced? (text newText : Text) (area : Area) : Option Text :=
  (area.start.before? text).bind fun before =>
    (area.stop.before? text).map fun passed =>
      before ++ (newText ++ text.drop passed.length)

/-- A position whose numbers fit into 32 bits, wherever it is on its line. -/
structure Counts (document : IndexedText) (position : Position) : Prop where
  hasPosition : document.HasPosition position
  line_lt : position.line < 2 ^ 32
  units_lt : ∀ line, document.line? position.line = some line →
    Text.units16 line.text < 2 ^ 32

variable {document : IndexedText} {position : Position} {text : Text}

theorem Counts.exists_place (counts : Counts document position) :
    ∃ line left right, document.line? position.line = some line ∧
      line.text = left ++ right ∧ position.column = Text.width left ∧
      Place.ofPosition document position = ⟨position.line, Text.units16 left⟩ := by
  obtain ⟨line, lineAt, has⟩ := counts.hasPosition
  obtain ⟨left, right, textEq, widthEq⟩ := has.exists_append
  refine ⟨line, left, right, lineAt, textEq, widthEq.symm, ?_⟩
  have lineLe : position.line ≤ largest := Nat.le_pred_of_lt counts.line_lt
  have unitsLe : Text.units16 left ≤ largest := by
    have unitsLt := counts.units_lt line lineAt
    rw [textEq, Text.units16_append] at unitsLt
    exact Nat.le_pred_of_lt (Nat.lt_of_le_of_lt (Nat.le_add_right _ _) unitsLt)
  rw [Place.ofPosition]
  simp only [lineAt]
  rw [← widthEq, Line.utf16Column_of_append textEq, Nat.min_eq_left lineLe,
    Nat.min_eq_left unitsLe]

/-- The place of a position leads back to it. -/
theorem Counts.position?_ofPosition (counts : Counts document position) :
    (Place.ofPosition document position).position? document = some position := by
  obtain ⟨line, left, right, lineAt, textEq, columnEq, placeEq⟩ := counts.exists_place
  rw [placeEq, Place.position?]
  simp only [lineAt, Option.bind_some]
  rw [textEq, Text.takeUnits16?_units16_append, Option.map_some, ← columnEq]

/-- In front of the place of a position an editor has as much of the text as there is in
front of its offset. -/
theorem Counts.exists_before (counts : Counts (.ofText text) position) :
    ∃ before behind, text = before ++ behind ∧
      (Place.ofPosition (.ofText text) position).before? text = some before ∧
      (IndexedText.ofText text).offsetAt position = Text.width before := by
  obtain ⟨line, left, right, lineAt, lineEq, columnEq, placeEq⟩ := counts.exists_place
  obtain ⟨before, behind, textEq, startAt, offsetEq⟩ := IndexedText.exists_offset lineAt
  have raws := lineAt
  rw [IndexedText.line?_ofText] at raws
  obtain ⟨row, rowAt, rfl⟩ := Option.map_eq_some_iff.mp raws
  obtain ⟨ending, -, rowEq⟩ := LineSource.exists_rowOf_append row
  have within := (List.getElem?_eq_some_iff.mp rowAt).1
  -- Both are what stands in front of the line.
  have beforeEq : before = Text.upToLine position.line text := by
    have starts := IndexedText.getElem?_startsAfter within 0
    have widthEq : Text.width before = Text.width (Text.upToLine position.line text) := by
      rw [Nat.zero_add] at starts
      exact Option.some.inj (startAt.symm.trans starts)
    have whole : before ++ ((Line.ofRaw position.line row).text ++ behind) =
        Text.upToLine position.line text ++ Text.fromLine position.line text := by
      rw [Text.upToLine_append_fromLine]
      exact textEq.symm
    exact (Text.append_inj_of_width whole widthEq).1
  refine ⟨before ++ left, right ++ behind, ?_, ?_, ?_⟩
  · have whole : text = before ++ ((Line.ofRaw position.line row).text ++ behind) := textEq
    rw [lineEq] at whole
    simpa using whole
  · have rowText : row = left ++ (right ++ ending) := by
      rw [← List.append_assoc, ← lineEq]
      exact rowEq
    rw [placeEq, Place.before?]
    simp only [rowAt, Option.bind_some]
    rw [rowText, Text.takeUnits16?_units16_append, Option.map_some, beforeEq]
  · have within : position.column ≤ (Line.ofRaw position.line row).width := by
      rw [Line.width, lineEq, Text.width_append, columnEq]
      exact Nat.le_add_right _ _
    rw [Text.width_append, ← columnEq]
    exact offsetEq position.column within

/-- An editor that replaces the area of a range gets what the edit gives. -/
theorem exists_replaced {range : Range} (start : Counts (.ofText text) range.start)
    (stop : Counts (.ofText text) range.stop) (newText : Text) :
    ∃ result, (Area.ofRange (.ofText text) range).replaced? text newText = some result ∧
      Edit.result? (.ofText text) ⟨range, newText⟩ = some result := by
  obtain ⟨before, rest, startEq, beforeEq, startOffset⟩ := start.exists_before
  obtain ⟨passed, behind, stopEq, passedEq, stopOffset⟩ := stop.exists_before
  refine ⟨before ++ (newText ++ behind), ?_, ?_⟩
  · have dropped : text.drop passed.length = behind := by
      rw [stopEq]
      exact List.drop_left
    rw [Area.replaced?, Area.ofRange]
    simp only [beforeEq, passedEq, Option.bind_some, Option.map_some]
    rw [dropped]
  · have taken : Text.takeBytes? (Text.width before) text = some before :=
      Text.takeBytes?_eq_some_iff.mpr ⟨rest, startEq, rfl⟩
    have dropped : Text.dropBytes? (Text.width passed) text = some behind :=
      Text.dropBytes?_eq_some_iff.mpr ⟨passed, stopEq, rfl⟩
    rw [Edit.result?]
    simp only [startOffset, stopOffset]
    rw [IndexedText.ofText, taken, dropped]
    rfl

/-- The edits of an action, one by one, give what the edits of its fix do. -/
theorem forall₂_edits {fix : Fix}
    (counts : ∀ edit ∈ fix.edits, Counts (.ofText text) edit.range.start ∧
      Counts (.ofText text) edit.range.stop) (uri : Uri) (published : Published) :
    List.Forall₂ (fun edit (sent : Area × Text) => ∃ result,
        sent.1.replaced? text sent.2 = some result ∧ edit.result? (.ofText text) = some result)
      fix.edits (Action.ofFix (.ofText text) uri published fix).edits := by
  rw [Action.ofFix]
  apply List.forall₂_map_right_iff.mpr
  apply List.forall₂_same.mpr
  intro edit member
  obtain ⟨start, stop⟩ := counts edit member
  exact exists_replaced start stop edit.newText

end Editor

namespace Diagnostic

variable {document : IndexedText}

/-- The column that is printed for a position leads back to it. -/
theorem exists_printedColumn {position : Position} (has : document.HasPosition position) :
    ∃ line, document.line? position.line = some line ∧
      line.byteColumn (printedColumn document position - 1) = position.column := by
  obtain ⟨line, lineAt, column⟩ := has
  refine ⟨line, lineAt, ?_⟩
  rw [printedColumn]
  simp only [lineAt]
  rw [Nat.add_sub_cancel, column.byteColumn_charColumn]

/-- A printed text shows the columns of a range: read as numbers, and counted from one in
characters, they lead back to the range. -/
def ShowsColumns (document : IndexedText) (range : Range) (file printed : Text) : Prop :=
  ∃ first last rest startLine stopLine,
    printed = file ++ [':'] ++ number (range.start.line + 1) ++ [':'] ++ first ++ ['-'] ++
      last ++ [':'] ++ rest ∧
    (∀ c ∈ first ++ last, c.isDigit = true) ∧
    document.line? range.start.line = some startLine ∧
    document.line? range.stop.line = some stopLine ∧
    startLine.byteColumn (Nat.ofDigitChars 10 first 0 - 1) = range.start.column ∧
    stopLine.byteColumn (Nat.ofDigitChars 10 last 0 - 1) = range.stop.column

theorem exists_format (file : Text) (document : IndexedText) (diagnostic : Diagnostic) :
    ∃ rest, format file document diagnostic =
      file ++ [':'] ++ number (diagnostic.range.start.line + 1) ++ [':'] ++
        number (printedColumn document diagnostic.range.start) ++ ['-'] ++
        number (printedColumn document diagnostic.range.stop) ++ [':'] ++ rest := by
  simp only [format, List.append_assoc]
  exact ⟨_, rfl⟩

theorem showsColumns_format {diagnostic : Diagnostic}
    (start : document.HasPosition diagnostic.range.start)
    (stop : document.HasPosition diagnostic.range.stop) (file : Text) :
    ShowsColumns document diagnostic.range file (format file document diagnostic) := by
  obtain ⟨startLine, startAt, startEq⟩ := exists_printedColumn start
  obtain ⟨stopLine, stopAt, stopEq⟩ := exists_printedColumn stop
  obtain ⟨rest, formatEq⟩ := exists_format file document diagnostic
  refine ⟨_, _, rest, startLine, stopLine, formatEq, ?_, startAt, stopAt, ?_, ?_⟩
  · intro c member
    rcases List.mem_append.mp member with inFirst | inLast
    · exact Nat.isDigit_of_mem_toDigits (by decide) (by decide) inFirst
    · exact Nat.isDigit_of_mem_toDigits (by decide) (by decide) inLast
  · rw [number, Nat.ofDigitChars_toDigits (by decide) (by decide)]
    exact startEq
  · rw [number, Nat.ofDigitChars_toDigits (by decide) (by decide)]
    exact stopEq

/-- The ranges of a diagnostic and of its edits cut no character. -/
theorem hasPosition_ofFinding (text : Text) (finding : Finding) :
    let document := IndexedText.ofText text
    let diagnostic := ofFinding document finding
    (document.HasPosition diagnostic.range.start ∧ document.HasPosition diagnostic.range.stop) ∧
      ∀ fix ∈ diagnostic.fixes, ∀ edit ∈ fix.edits,
        document.HasPosition edit.range.start ∧ document.HasPosition edit.range.stop := by
  intro document diagnostic
  constructor
  · obtain ⟨home, lineAt⟩ := ResolvedRange.exists_line text finding
    have covers := ResolvedRange.covers_of_resolves lineAt
      (ResolvedRange.resolves_ofFinding lineAt (Rule.find? finding.rule))
    exact ⟨covers.hasPosition_start, covers.hasPosition_stop⟩
  · intro fix fixMember edit member
    obtain ⟨rule, only, -, editsEq, mends⟩ := exists_edit fixMember
    rw [editsEq] at member
    obtain rfl := List.mem_singleton.mp member
    obtain ⟨before, replaced, behind, covers, -⟩ := mends.changes
    exact ⟨covers.hasPosition_start, covers.hasPosition_stop⟩

end Diagnostic

/-- What an editor is told about a range, and what is printed, lead back to it, and an
editor that replaces the area of an edit gets what the edit gives.  The ranges of
diagnostics and of their edits are of this kind. -/
theorem range_of_area (text : Text) :
    let document := IndexedText.ofText text
    (∀ range, Editor.Counts document range.start → Editor.Counts document range.stop →
      (Editor.Area.ofRange document range).range? document = some range ∧
      ∀ newText, ∃ result,
        (Editor.Area.ofRange document range).replaced? text newText = some result ∧
        Edit.result? document ⟨range, newText⟩ = some result) ∧
    (∀ file diagnostic, document.HasPosition diagnostic.range.start →
      document.HasPosition diagnostic.range.stop →
      Diagnostic.ShowsColumns document diagnostic.range file
        (Diagnostic.format file document diagnostic)) ∧
    (∀ fix, (∀ edit ∈ fix.edits, Editor.Counts document edit.range.start ∧
        Editor.Counts document edit.range.stop) →
      ∀ uri published, List.Forall₂
        (fun edit (sent : Editor.Area × Text) => ∃ result,
          sent.1.replaced? text sent.2 = some result ∧ edit.result? document = some result)
        fix.edits (Editor.Action.ofFix document uri published fix).edits) ∧
    ∀ findings, ∀ diagnostic ∈ Diagnostic.ofFindings document findings,
      (document.HasPosition diagnostic.range.start ∧
        document.HasPosition diagnostic.range.stop) ∧
      ∀ fix ∈ diagnostic.fixes, ∀ edit ∈ fix.edits,
        document.HasPosition edit.range.start ∧ document.HasPosition edit.range.stop := by
  intro document
  refine ⟨?ranges, ?printed, ?actions, ?diagnostics⟩
  case ranges =>
    intro range start stop
    refine ⟨?_, fun newText => Editor.exists_replaced start stop newText⟩
    rw [Editor.Area.range?, Editor.Area.ofRange]
    simp only [start.position?_ofPosition, stop.position?_ofPosition, Option.bind_some,
      Option.map_some]
  case printed =>
    intro file diagnostic start stop
    exact Diagnostic.showsColumns_format start stop file
  case actions =>
    intro fix counts uri published
    exact Editor.forall₂_edits counts uri published
  case diagnostics =>
    intro findings diagnostic member
    obtain ⟨finding, -, rfl⟩ := List.mem_map.mp member
    exact Diagnostic.hasPosition_ofFinding text finding

/-- The character outside the first plane takes four bytes and two code units. -/
theorem range_of_area_surrogates :
    Editor.Area.ofRange (.ofText "é😀x".toList) (.onLine 0 2 6) = ⟨⟨0, 1⟩, ⟨0, 3⟩⟩ ∧
      (Editor.Area.ofRange (.ofText "é😀x".toList) (.onLine 0 2 6)).range?
        (.ofText "é😀x".toList) = some (.onLine 0 2 6) := by
  have lineAt : (IndexedText.ofText "é😀x".toList).line? 0 = some ⟨0, "é😀x".toList⟩ := by decide
  have counts : ∀ left right, "é😀x".toList = left ++ right →
      Editor.Counts (.ofText "é😀x".toList) ⟨0, Text.width left⟩ := by
    intro left right textEq
    refine ⟨⟨_, lineAt, Line.hasColumn_of_append textEq⟩, Nat.two_pow_pos 32, ?_⟩
    intro line otherAt
    obtain rfl := Option.some.inj (lineAt.symm.trans otherAt)
    decide
  have start := counts "é".toList "😀x".toList rfl
  have stop := counts "é😀".toList "x".toList rfl
  exact ⟨by decide, ((range_of_area "é😀x".toList).1 (.onLine 0 2 6) start stop).1⟩

end Pinpoint
