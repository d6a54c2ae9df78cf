import Pinpoint.Fix
import Pinpoint.Proofs.Code.Source
import Pinpoint.Proofs.Document.Places

/-!
# Applying edits

An edit replaces the bytes between the offsets of its ends.  Where these are on a
line of the document, the text of the range goes, and all that stands before and
behind it stays.
-/

namespace Pinpoint

/-- The text of a document after an edit, unless the edit cuts a character. -/
def Edit.result? (document : IndexedText) (edit : Edit) : Option Text :=
  (Text.takeBytes? (document.offsetAt edit.range.start) document.text).bind fun before =>
    (Text.dropBytes? (document.offsetAt edit.range.stop) document.text).map fun behind =>
      before ++ (edit.newText ++ behind)

/-- A line is a piece of the text, and its columns count from the start of the piece. -/
theorem IndexedText.exists_offset {document : IndexedText} {number : Nat} {line : Line}
    (lineAt : document.line? number = some line) :
    ∃ before behind, document.text = before ++ (line.text ++ behind) ∧
      document.lineStarts[number]? = some (Text.width before) ∧
      ∀ column ≤ line.width,
        document.offsetAt ⟨number, column⟩ = Text.width before + column := by
  have lineEq := lineAt
  rw [line?] at lineEq
  obtain ⟨raw, rawAt, rfl⟩ := Option.map_eq_some_iff.mp lineEq
  rw [rawLine?] at rawAt
  cases startAt : document.lineStarts[number]? with
  | none => simp [startAt] at rawAt
  | some start =>
      simp only [startAt] at rawAt
      obtain ⟨before, behind, textEq, beforeWidth, -⟩ := Text.between?_eq_some_iff.mp rawAt
      obtain ⟨ending, -, rawEq⟩ := LineSource.exists_rowOf_append raw
      refine ⟨before, ending ++ behind, ?_, congrArg some beforeWidth.symm, ?_⟩
      · have lineEq : raw = (Line.ofRaw number raw).text ++ ending := rawEq
        rw [textEq, ← List.append_assoc (Line.ofRaw number raw).text, ← lineEq]
      · intro column within
        rw [offsetAt]
        simp only [lineAt, startAt]
        rw [Nat.min_eq_left within, beforeWidth]

namespace Range.Covers

variable {document : IndexedText} {range : Range} {text : Text}

/-- The text of a range stands between the offsets of its ends. -/
theorem exists_append (covers : range.Covers document text) :
    ∃ before behind, document.text = before ++ (text ++ behind) ∧
      document.offsetAt range.start = Text.width before ∧
      document.offsetAt range.stop = Text.width before + Text.width text := by
  obtain ⟨line, lineAt, startColumn, stopColumn, cut⟩ := covers.onLine
  obtain ⟨before, behind, textEq, -, offsetEq⟩ := document.exists_offset lineAt
  obtain ⟨left, right, lineEq, leftWidth, stopEq⟩ := Text.between?_eq_some_iff.mp cut
  have startOffset := offsetEq range.start.column startColumn.le_width
  have stopOffset := offsetEq range.stop.column stopColumn.le_width
  rw [← covers.sameLine] at stopOffset
  refine ⟨before ++ left, right ++ behind, ?_, ?_, ?_⟩
  · simp only [textEq, lineEq, List.append_assoc]
  · rw [Text.width_append, leftWidth]
    exact startOffset
  · rw [Text.width_append, leftWidth, Nat.add_assoc, stopEq]
    exact stopOffset

end Range.Covers

/-- An edit replaces the text of its range, and keeps all that stands around it. -/
theorem Edit.result?_eq {document : IndexedText} {edit : Edit} {text : Text}
    (covers : edit.range.Covers document text) :
    ∃ before behind, document.text = before ++ (text ++ behind) ∧
      document.offsetAt edit.range.start = Text.width before ∧
      document.offsetAt edit.range.stop = Text.width before + Text.width text ∧
      edit.result? document = some (before ++ (edit.newText ++ behind)) := by
  obtain ⟨before, behind, textEq, startEq, stopEq⟩ := covers.exists_append
  refine ⟨before, behind, textEq, startEq, stopEq, ?_⟩
  have taken : Text.takeBytes? (Text.width before) document.text = some before :=
    Text.takeBytes?_eq_some_iff.mpr ⟨text ++ behind, textEq, rfl⟩
  have dropped : Text.dropBytes? (Text.width before + Text.width text) document.text =
      some behind := by
    rw [textEq, ← List.append_assoc, ← Text.width_append]
    exact Text.dropBytes?_width_append _ _
  rw [result?, startEq, stopEq, taken, dropped]
  rfl

end Pinpoint
