import Mathlib.Order.Monotone.Basic
import Pinpoint.Proofs.Editor.Actions
import Pinpoint.Proofs.Line.Columns

/-!
# Ranges and areas that meet

An editor asks for the fixes of an area, and a diagnostic has a range.  The two count
columns in different units, but on a line the conversion keeps the order of the columns that
cut no character.  So it does not matter on which side of the conversion two ranges are
compared, also where they only touch.
-/

namespace Pinpoint

namespace Editor

variable {document : IndexedText} {position other : Position}

theorem Counts.exists_column (counts : Counts document position) :
    ∃ line, document.line? position.line = some line ∧ line.HasColumn position.column ∧
      Place.ofPosition document position =
        ⟨position.line, line.utf16Column position.column⟩ := by
  obtain ⟨line, left, right, lineAt, textEq, columnEq, placeEq⟩ := counts.exists_place
  refine ⟨line, lineAt, ?_, ?_⟩
  · rw [columnEq]
    exact Line.hasColumn_of_append textEq
  · rw [placeEq, columnEq, Line.utf16Column_of_append textEq]

/-- Places stand in the order of their positions. -/
theorem Counts.atMost_ofPosition (counts : Counts document position)
    (otherCounts : Counts document other) :
    (Place.ofPosition document position).atMost (.ofPosition document other) =
      position.atMost other := by
  obtain ⟨line, lineAt, has, placeEq⟩ := counts.exists_column
  obtain ⟨otherLine, otherAt, otherHas, otherEq⟩ := otherCounts.exists_column
  -- Columns of different lines are never compared.
  have columns : position.line = other.line →
      (line.utf16Column position.column ≤ otherLine.utf16Column other.column ↔
        position.column ≤ other.column) := by
    intro sameLine
    rw [sameLine] at lineAt
    obtain rfl := Option.some.inj (lineAt.symm.trans otherAt)
    exact line.utf16Column_strictMonoOn.le_iff_le has otherHas
  rw [placeEq, otherEq, Bool.eq_iff_iff, Place.atMost_iff, Position.atMost_iff]
  apply or_congr_right
  exact and_congr_right columns

/-- Two ranges intersect exactly if their areas do. -/
theorem intersects_ofRange {left right : Range} (leftStart : Counts document left.start)
    (leftStop : Counts document left.stop) (rightStart : Counts document right.start)
    (rightStop : Counts document right.stop) :
    left.intersects right =
      (Area.ofRange document left).intersects (Area.ofRange document right) := by
  rw [Range.intersects, Area.intersects]
  simp only [Area.ofRange]
  rw [leftStart.atMost_ofPosition rightStop, rightStart.atMost_ofPosition leftStop]

theorem counts_of_line? {line : Line} {left right : Text}
    (lineAt : document.line? position.line = some line) (textEq : line.text = left ++ right)
    (columnEq : position.column = Text.width left) (lineLt : position.line < 2 ^ 32)
    (unitsLt : Text.units16 line.text < 2 ^ 32) : Counts document position := by
  refine ⟨⟨line, lineAt, ?_⟩, lineLt, ?_⟩
  · rw [columnEq]
    exact Line.hasColumn_of_append textEq
  · intro same sameAt
    obtain rfl := Option.some.inj (lineAt.symm.trans sameAt)
    exact unitsLt

/-- The second range starts where the first one ends, four bytes and two code units behind
its start, and goes on to the next line. -/
theorem intersects_ofRange_touching :
    let document := IndexedText.ofText "é😀x\nü".toList
    let left : Range := .onLine 0 2 6
    let right : Range := ⟨⟨0, 6⟩, ⟨1, 2⟩⟩
    left.intersects right = true ∧
      (Area.ofRange document left).intersects (Area.ofRange document right) = true := by
  intro document left right
  have first : document.line? 0 = some ⟨0, "é😀x".toList⟩ := by decide
  have second : document.line? 1 = some ⟨1, "ü".toList⟩ := by decide
  have leftStart : Counts document left.start :=
    counts_of_line? first (show _ = "é".toList ++ "😀x".toList by decide)
      (by decide) (by decide) (by decide)
  have border : Counts document right.start :=
    counts_of_line? first (show _ = "é😀".toList ++ "x".toList by decide)
      (by decide) (by decide) (by decide)
  have rightStop : Counts document right.stop :=
    counts_of_line? second (List.append_nil _).symm (by decide) (by decide) (by decide)
  have agree : left.intersects right =
      (Area.ofRange document left).intersects (Area.ofRange document right) :=
    intersects_ofRange leftStart border border rightStop
  have touching : left.intersects right = true := by decide
  exact ⟨touching, agree ▸ touching⟩

end Editor

end Pinpoint
