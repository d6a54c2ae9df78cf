import Pinpoint.Document
import Pinpoint.Proofs.Text.Columns

/-!
# Places in a document

Columns of a line that cut no character, and ranges of a document that hold a
known text between two such columns.
-/

namespace Pinpoint

namespace Text

theorem isBoundary_iff {column : Nat} {text : Text} :
    IsBoundary column text ↔ ∃ left right, text = left ++ right ∧ width left = column := by
  rw [IsBoundary, Option.isSome_iff_exists]
  constructor
  · rintro ⟨right, dropped⟩
    obtain ⟨left, textEq, widthEq⟩ := dropBytes?_eq_some_iff.mp dropped
    exact ⟨left, right, textEq, widthEq⟩
  · rintro ⟨left, right, textEq, widthEq⟩
    exact ⟨right, dropBytes?_eq_some_iff.mpr ⟨left, textEq, widthEq⟩⟩

/-- What stands between two columns that cut no character can be cut out. -/
theorem exists_between? {start stop : Nat} {text : Text} (startCuts : IsBoundary start text)
    (stopCuts : IsBoundary stop text) (ordered : start ≤ stop) :
    ∃ piece, between? start stop text = some piece := by
  obtain ⟨left, right, textEq, rfl⟩ := isBoundary_iff.mp startCuts
  obtain ⟨left', right', textEq', rfl⟩ := isBoundary_iff.mp stopCuts
  rcases List.append_eq_append_iff.mp (textEq.symm.trans textEq') with
    ⟨piece, rfl, rightEq⟩ | ⟨passed, rfl, -⟩
  · refine ⟨piece, between?_eq_some_iff.mpr ⟨left, right', ?_, rfl, ?_⟩⟩
    · rw [textEq, rightEq]
    · exact (width_append left piece).symm
  · -- The columns are not reversed, so nothing stands between them.
    have empty : width passed = 0 := by
      rw [width_append] at ordered
      omega
    obtain rfl := width_eq_zero_iff.mp empty
    refine ⟨[], between?_eq_some_iff.mpr ⟨left', right', textEq', ?_, ?_⟩⟩
    · rw [List.append_nil]
    · rw [List.append_nil, width_nil, Nat.add_zero]

end Text

namespace Line

/-- A column between two characters of a line, or at one of its ends. -/
structure HasColumn (line : Line) (column : Nat) : Prop where
  le_width : column ≤ line.width
  isBoundary : Text.IsBoundary column line.text

theorem hasColumn_of_append {line : Line} {left right : Text}
    (textEq : line.text = left ++ right) : line.HasColumn (Text.width left) where
  le_width := by
    rw [width, textEq, Text.width_append]
    exact Nat.le_add_right _ _
  isBoundary := Text.isBoundary_iff.mpr ⟨left, right, textEq, rfl⟩

theorem hasColumn_zero (line : Line) : line.HasColumn 0 :=
  hasColumn_of_append (List.nil_append line.text).symm

theorem hasColumn_width (line : Line) : line.HasColumn line.width :=
  hasColumn_of_append (List.append_nil line.text).symm

theorem hasColumn_firstNonBlank (line : Line) : line.HasColumn line.firstNonBlank :=
  hasColumn_of_append List.takeWhile_append_dropWhile.symm

theorem hasColumn_byteColumn (line : Line) (number : Nat) :
    line.HasColumn (line.byteColumn number) :=
  hasColumn_of_append (List.take_append_drop number line.text).symm

theorem HasColumn.exists_append {line : Line} {column : Nat} (has : line.HasColumn column) :
    ∃ left right, line.text = left ++ right ∧ Text.width left = column :=
  Text.isBoundary_iff.mp has.isBoundary

/-- A piece of a line starts and ends between characters. -/
theorem hasColumns_of_between? {line : Line} {start stop : Nat} {piece : Text}
    (cut : Text.between? start stop line.text = some piece) :
    line.HasColumn start ∧ line.HasColumn stop := by
  obtain ⟨left, right, textEq, leftWidth, stopEq⟩ := Text.between?_eq_some_iff.mp cut
  have startColumn := hasColumn_of_append textEq
  have stopColumn : line.HasColumn (Text.width (left ++ piece)) :=
    hasColumn_of_append (textEq.trans (List.append_assoc left piece right).symm)
  rw [leftWidth] at startColumn
  rw [Text.width_append, leftWidth, stopEq] at stopColumn
  exact ⟨startColumn, stopColumn⟩

end Line

/-- A position on a line that exists, which cuts no character. -/
def IndexedText.HasPosition (document : IndexedText) (position : Position) : Prop :=
  ∃ line, document.line? position.line = some line ∧ line.HasColumn position.column

/-- A range stands on one line of a document, cuts no character, and holds the given
text. -/
structure Range.Covers (document : IndexedText) (range : Range) (text : Text) : Prop where
  sameLine : range.stop.line = range.start.line
  ordered : range.start.column ≤ range.stop.column
  onLine : ∃ line, document.line? range.start.line = some line ∧
    line.HasColumn range.start.column ∧ line.HasColumn range.stop.column ∧
    Text.between? range.start.column range.stop.column line.text = some text

namespace Range

theorem covers_of_between? {document : IndexedText} {range : Range} {line : Line} {text : Text}
    (sameLine : range.stop.line = range.start.line)
    (lineAt : document.line? range.start.line = some line)
    (cut : Text.between? range.start.column range.stop.column line.text = some text) :
    range.Covers document text := by
  have widthEq := (Text.le_width_of_between? cut).1
  obtain ⟨startColumn, stopColumn⟩ := Line.hasColumns_of_between? cut
  exact ⟨sameLine, by omega, line, lineAt, startColumn, stopColumn, cut⟩

namespace Covers

variable {document : IndexedText} {range : Range} {text : Text}

theorem hasPosition_start (covers : range.Covers document text) :
    document.HasPosition range.start := by
  obtain ⟨line, lineAt, startColumn, -⟩ := covers.onLine
  exact ⟨line, lineAt, startColumn⟩

theorem hasPosition_stop (covers : range.Covers document text) :
    document.HasPosition range.stop := by
  obtain ⟨line, lineAt, -, stopColumn, -⟩ := covers.onLine
  exact ⟨line, covers.sameLine ▸ lineAt, stopColumn⟩

end Covers

end Range

end Pinpoint
