import Pinpoint.Proofs.Document.Places

/-!
# Columns in other units

At a column that cuts no character, the characters and the UTF-16 code units
before it can be counted, and lead back to it.
-/

namespace Pinpoint

namespace Text

theorem units16OfChar_pos (c : Char) : 0 < units16OfChar c := by
  rw [units16OfChar]
  split <;> omega

theorem units16_append (left right : Text) :
    units16 (left ++ right) = units16 left + units16 right := by
  induction left with
  | nil => exact (Nat.zero_add _).symm
  | cons c rest ih =>
      rw [List.cons_append, units16, units16, ih, Nat.add_assoc]

/-- The characters before a column that cuts none. -/
theorem startingBefore_width_append (left right : Text) :
    startingBefore (width left) (left ++ right) = left := by
  induction left with
  | nil => cases right <;> rfl
  | cons c rest ih =>
      have positive := c.utf8Size_pos
      have passed : width (c :: rest) - c.utf8Size = width rest :=
        Nat.add_sub_cancel_left _ _
      have some_left : width (c :: rest) ≠ 0 := by
        rw [width_cons]
        omega
      rw [List.cons_append, startingBefore, if_neg some_left, passed, ih]

/-- The first UTF-16 code units of a text, unless the cut falls between two units of a
character or past the end. -/
def takeUnits16? : Nat → Text → Option Text
  | 0, _ => some []
  | _ + 1, [] => none
  | units + 1, c :: rest =>
      if units16OfChar c ≤ units + 1 then
        (takeUnits16? (units + 1 - units16OfChar c) rest).map (c :: ·)
      else none

/-- The units of a beginning of a text lead back to it. -/
theorem takeUnits16?_units16_append (left right : Text) :
    takeUnits16? (units16 left) (left ++ right) = some left := by
  induction left with
  | nil => cases right <;> rfl
  | cons c rest ih =>
      have positive := units16OfChar_pos c
      obtain ⟨units, unitsEq⟩ : ∃ units, units16 (c :: rest) = units + 1 :=
        Nat.exists_eq_add_one.mpr (Nat.add_pos_left positive _)
      have passed : units + 1 - units16OfChar c = units16 rest := by
        rw [← unitsEq, units16, Nat.add_sub_cancel_left]
      have within : units16OfChar c ≤ units + 1 := by
        rw [← unitsEq, units16]
        exact Nat.le_add_right _ _
      rw [unitsEq, List.cons_append, takeUnits16?, if_pos within, passed, ih]
      rfl

end Text

namespace Line

variable {line : Line} {left right : Text}

theorem charColumn_of_append (textEq : line.text = left ++ right) :
    line.charColumn (Text.width left) = left.length := by
  rw [charColumn, textEq, Text.startingBefore_width_append]

theorem utf16Column_of_append (textEq : line.text = left ++ right) :
    line.utf16Column (Text.width left) = Text.units16 left := by
  rw [utf16Column, textEq, Text.startingBefore_width_append]

/-- Counting the characters before a column leads back to it. -/
theorem HasColumn.byteColumn_charColumn {column : Nat} (has : line.HasColumn column) :
    line.byteColumn (line.charColumn column) = column := by
  obtain ⟨left, right, textEq, rfl⟩ := has.exists_append
  rw [charColumn_of_append textEq, byteColumn, textEq, List.take_left]

end Line

end Pinpoint
