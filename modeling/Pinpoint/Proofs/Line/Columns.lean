import Mathlib.Data.Nat.Basic
import Mathlib.Order.Bounds.Defs
import Mathlib.Order.Monotone.Defs
import Pinpoint.Proofs.Text.Units

/-!
# Columns in three units

A byte column stands for the characters that start before it, so a column inside a
character counts as the end of that character and one past the line as its end.  The
columns in the other units count these characters, and their UTF-16 code units.
-/

namespace Pinpoint

namespace Text

/-- The UTF-16 code units of a character: its code, or a pair of surrogates. -/
def encodeChar16 (c : Char) : List Nat :=
  if c.toNat < 0x10000 then [c.toNat]
  else [0xD800 + (c.toNat - 0x10000) / 0x400, 0xDC00 + (c.toNat - 0x10000) % 0x400]

/-- The UTF-16 code units of a text. -/
def encode16 (text : Text) : List Nat :=
  text.flatMap encodeChar16

theorem length_encode16 (text : Text) : (encode16 text).length = units16 text := by
  induction text with
  | nil => rfl
  | cons c rest ih =>
      have single : (encodeChar16 c).length = units16OfChar c := by
        unfold encodeChar16 units16OfChar
        split <;> rfl
      rw [encode16, List.flatMap_cons, List.length_append, units16, single, ← ih]
      rfl

example : encode16 "é😀".toList = [0xE9, 0xD83D, 0xDE00] := by decide

/-! ### Beginnings of a text -/

section Beginnings

variable {left right : Text}

theorem width_le_of_isPrefix (begins : left <+: right) : width left ≤ width right := by
  obtain ⟨more, rfl⟩ := begins
  rw [width_append]
  exact Nat.le_add_right _ _

theorem units16_le_of_isPrefix (begins : left <+: right) : units16 left ≤ units16 right := by
  obtain ⟨more, rfl⟩ := begins
  rw [units16_append]
  exact Nat.le_add_right _ _

theorem units16_pos (nonempty : left ≠ []) : 0 < units16 left := by
  cases left with
  | nil => contradiction
  | cons c rest => exact Nat.add_pos_left (units16OfChar_pos c) _

end Beginnings

theorem startingBefore_isPrefix (column : Nat) (text : Text) :
    startingBefore column text <+: text := by
  induction text generalizing column with
  | nil => exact List.prefix_rfl
  | cons c rest ih =>
      unfold startingBefore
      split
      · exact List.nil_prefix
      · exact List.cons_prefix_cons.mpr ⟨rfl, ih _⟩

theorem startingBefore_of_le {column later : Nat} (le : column ≤ later) (text : Text) :
    startingBefore column text <+: startingBefore later text := by
  induction text generalizing column later with
  | nil => exact List.prefix_rfl
  | cons c rest ih =>
      unfold startingBefore
      by_cases atStart : column = 0
      · rw [if_pos atStart]
        exact List.nil_prefix
      · rw [if_neg atStart, if_neg (by omega)]
        exact List.cons_prefix_cons.mpr ⟨rfl, ih (Nat.sub_le_sub_right le _)⟩

/-- The characters before a column reach up to it, or to the end of the text. -/
theorem min_le_width_startingBefore (column : Nat) (text : Text) :
    min column (width text) ≤ width (startingBefore column text) := by
  induction text generalizing column with
  | nil => exact Nat.min_le_right _ _
  | cons c rest ih =>
      have reached := ih (column - c.utf8Size)
      unfold startingBefore
      split
      · omega
      · rw [width_cons, width_cons]
        omega

/-- The characters before a column end where one of them does, at the column or as soon
behind it as possible. -/
theorem width_startingBefore_le {column : Nat} {left right : Text}
    (reaches : min column (width (left ++ right)) ≤ width left) :
    width (startingBefore column (left ++ right)) ≤ width left := by
  rcases Nat.lt_or_ge (width left) column with beyond | within
  · have begins := width_le_of_isPrefix (startingBefore_isPrefix column (left ++ right))
    rw [width_append] at begins reaches
    omega
  · have begins := startingBefore_of_le within (left ++ right)
    rw [startingBefore_width_append] at begins
    exact width_le_of_isPrefix begins

end Text

namespace Line

variable {line : Line}

theorem charColumn_byteColumn (line : Line) (number : Nat) :
    line.charColumn (line.byteColumn number) = min number line.text.length := by
  unfold byteColumn
  rw [charColumn_of_append (List.take_append_drop number line.text).symm, List.length_take]

theorem byteColumn_charColumn (line : Line) (column : Nat) :
    line.byteColumn (line.charColumn column) =
      Text.width (Text.startingBefore column line.text) := by
  have begins := Text.startingBefore_isPrefix column line.text
  rw [byteColumn, charColumn, ← List.prefix_iff_eq_take.mp begins]

/-- Of two columns that cut no character the later one has more characters before it. -/
theorem HasColumn.exists_more {column later : Nat} (has : line.HasColumn column)
    (hasLater : line.HasColumn later) (before : column < later) :
    ∃ more, more ≠ [] ∧
      Text.startingBefore later line.text = Text.startingBefore column line.text ++ more := by
  obtain ⟨more, moreEq⟩ := Text.startingBefore_of_le (Nat.le_of_lt before) line.text
  refine ⟨more, ?_, moreEq.symm⟩
  rintro rfl
  rw [List.append_nil] at moreEq
  have same : column = later := by
    calc
      column = line.byteColumn (line.charColumn column) := has.byteColumn_charColumn.symm
      _ = line.byteColumn (line.charColumn later) := by
        rw [Line.byteColumn_charColumn, Line.byteColumn_charColumn, moreEq]
      _ = later := hasLater.byteColumn_charColumn
  exact Nat.ne_of_lt before same

theorem byteColumn_mono (line : Line) : Monotone line.byteColumn := by
  intro number later le
  apply Text.width_le_of_isPrefix
  exact List.take_prefix_take_left le

theorem charColumn_mono (line : Line) : Monotone line.charColumn := by
  intro column later le
  exact (Text.startingBefore_of_le le line.text).length_le

theorem utf16Column_mono (line : Line) : Monotone line.utf16Column := by
  intro column later le
  exact Text.units16_le_of_isPrefix (Text.startingBefore_of_le le line.text)

theorem charColumn_strictMonoOn (line : Line) :
    StrictMonoOn line.charColumn {place | line.HasColumn place} := by
  intro column has later hasLater before
  obtain ⟨more, nonempty, moreEq⟩ := has.exists_more hasLater before
  unfold charColumn
  rw [moreEq, List.length_append]
  exact Nat.lt_add_of_pos_right (List.length_pos_iff.mpr nonempty)

theorem utf16Column_strictMonoOn (line : Line) :
    StrictMonoOn line.utf16Column {place | line.HasColumn place} := by
  intro column has later hasLater before
  obtain ⟨more, nonempty, moreEq⟩ := has.exists_more hasLater before
  unfold utf16Column
  rw [moreEq, Text.units16_append]
  exact Nat.lt_add_of_pos_right (Text.units16_pos nonempty)

/-- A column counts as the first one at or behind it that cuts no character. -/
theorem isLeast_byteColumn (line : Line) (column : Nat) :
    IsLeast {place | line.HasColumn place ∧ min column line.width ≤ place}
      (line.byteColumn (line.charColumn column)) := by
  constructor
  · refine ⟨line.hasColumn_byteColumn _, ?_⟩
    rw [byteColumn_charColumn]
    exact Text.min_le_width_startingBefore column line.text
  · rintro place ⟨has, reaches⟩
    obtain ⟨left, right, textEq, rfl⟩ := has.exists_append
    rw [byteColumn_charColumn, textEq]
    apply Text.width_startingBefore_le
    rwa [width, textEq] at reaches

/-- Columns in bytes, characters and UTF-16 code units agree on where they stand on a line:
the conversions lead back to the same place between two characters, and keep the order. -/
theorem columns_agree (line : Line) :
    (∀ number, line.charColumn (line.byteColumn number) = min number line.text.length) ∧
    (∀ column,
      IsLeast {place | line.HasColumn place ∧ min column line.width ≤ place}
        (line.byteColumn (line.charColumn column)) ∧
      ∃ before,
        Text.takeBytes? (line.byteColumn (line.charColumn column)) line.text = some before ∧
        line.utf16Column column = (Text.encode16 before).length) ∧
    Monotone line.byteColumn ∧ Monotone line.charColumn ∧ Monotone line.utf16Column ∧
    StrictMonoOn line.charColumn {place | line.HasColumn place} ∧
    StrictMonoOn line.utf16Column {place | line.HasColumn place} := by
  refine ⟨line.charColumn_byteColumn, fun column => ⟨line.isLeast_byteColumn column, ?_⟩,
    line.byteColumn_mono, line.charColumn_mono, line.utf16Column_mono,
    line.charColumn_strictMonoOn, line.utf16Column_strictMonoOn⟩
  obtain ⟨rest, textEq⟩ := Text.startingBefore_isPrefix column line.text
  refine ⟨Text.startingBefore column line.text, ?_, ?_⟩
  · rw [byteColumn_charColumn]
    exact Text.takeBytes?_eq_some_iff.mpr ⟨rest, textEq.symm, rfl⟩
  · rw [Text.length_encode16, utf16Column]

end Line

end Pinpoint
