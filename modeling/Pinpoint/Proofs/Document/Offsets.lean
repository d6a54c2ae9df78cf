import Mathlib.Data.List.Basic
import Pinpoint.Proofs.Comment.Lexer
import Pinpoint.Proofs.Document.Rows

/-!
# Offsets and positions

The table of line starts holds zero and the offsets just behind the line feeds, in
ascending order.  So every offset lies on one line, and the two conversions undo each
other, except behind a carriage return that belongs to the line ending.
-/

namespace Pinpoint

/-! ### Ascending lists -/

section Ascending

variable {values : List Nat} {index later value next : Nat}

theorem lt_of_ascending (ascending : values.Pairwise (· < ·)) (before : index < later)
    (valueAt : values[index]? = some value) (nextAt : values[later]? = some next) :
    value < next := by
  obtain ⟨within, rfl⟩ := List.getElem?_eq_some_iff.mp valueAt
  obtain ⟨laterWithin, rfl⟩ := List.getElem?_eq_some_iff.mp nextAt
  exact List.pairwise_iff_getElem.mp ascending index later within laterWithin before

theorem exists_next_of_ascending (ascending : values.Pairwise (· < ·)) (before : index < later)
    (valueAt : values[later]? = some value) :
    ∃ next, values[index + 1]? = some next ∧ next ≤ value := by
  obtain ⟨within, -⟩ := List.getElem?_eq_some_iff.mp valueAt
  obtain ⟨next, nextAt⟩ : ∃ next, values[index + 1]? = some next :=
    ⟨_, List.getElem?_eq_getElem (Nat.lt_of_le_of_lt before within)⟩
  refine ⟨next, nextAt, ?_⟩
  rcases Nat.lt_or_eq_of_le before with behind | here
  · exact Nat.le_of_lt (lt_of_ascending ascending behind nextAt valueAt)
  · obtain rfl := here
    exact Nat.le_of_eq (Option.some.inj (nextAt.symm.trans valueAt))

end Ascending

namespace Slot

theorem getElem?_of_found {value index : Nat} {values : List Nat}
    (found : Slot.of value values = .found index) : values[index]? = some value := by
  unfold Slot.of at found
  dsimp only at found
  split at found
  · rename_i here
    rwa [← Slot.found.inj found]
  · contradiction

/-- A number that is not found is above all before its place and below all behind it. -/
theorem bounds_of_missing {value index : Nat} {values : List Nat}
    (missing : Slot.of value values = .missing index) :
    (∀ earlier < index, ∃ lower, values[earlier]? = some lower ∧ lower < value) ∧
    ∀ upper, values[index]? = some upper → value < upper := by
  unfold Slot.of at missing
  dsimp only at missing
  split at missing
  · contradiction
  · rename_i elsewhere
    obtain rfl := Slot.missing.inj missing
    constructor
    · intro earlier before
      have within := Nat.lt_of_lt_of_le before List.findIdx_le_length
      refine ⟨values[earlier], List.getElem?_eq_getElem within, ?_⟩
      have passed := List.not_of_lt_findIdx before
      simpa using passed
    · intro upper upperAt
      obtain ⟨within, upperEq⟩ := List.getElem?_eq_some_iff.mp upperAt
      have reached := List.findIdx_getElem (w := within)
      rw [upperEq, decide_eq_true_eq] at reached
      have other : upper ≠ value := fun same => elsewhere (same ▸ upperAt)
      omega

end Slot

/-- An offset of a text lies on a row, at a column of it. -/
structure Text.LiesAt (text : Text) (offset : Nat) (position : Position) (raw : Text) : Prop where
  rowAt : (splitLines text)[position.line]? = some raw
  offset_eq : width (upToLine position.line text) + position.column = offset
  column_le : position.column ≤ width raw

namespace IndexedText

/-! ### The table of line starts -/

/-- The first line starts with the text, and every other one just behind a line feed. -/
structure HasLineTable (document : IndexedText) : Prop where
  head : document.lineStarts.head? = some 0
  ascending : document.lineStarts.Pairwise (· < ·)
  le_width : ∀ start ∈ document.lineStarts, start ≤ document.width
  length_eq : document.lineStarts.length = document.text.count '\n' + 1
  mem_tail_iff : ∀ start, start ∈ document.lineStarts.tail ↔
    ∃ before behind, document.text = before ++ '\n' :: behind ∧ start = Text.width before + 1

theorem mem_startsAfter_iff {offset start : Nat} {text : Text} :
    start ∈ startsAfter offset text ↔
      ∃ before behind, text = before ++ '\n' :: behind ∧
        start = offset + Text.width before + 1 := by
  induction text generalizing offset with
  | nil => simp [startsAfter]
  | cons c rest ih =>
      have later : start ∈ startsAfter (offset + c.utf8Size) rest ↔
          ∃ before behind, rest = before ++ '\n' :: behind ∧
            start = offset + Text.width (c :: before) + 1 := by
        rw [ih]
        simp only [Text.width_cons, Nat.add_assoc]
      by_cases newline : c = '\n'
      · subst newline
        rw [startsAfter, if_pos rfl, List.mem_cons, later]
        constructor
        · rintro (rfl | ⟨before, behind, rfl, startEq⟩)
          · exact ⟨[], rest, rfl, rfl⟩
          · exact ⟨'\n' :: before, behind, rfl, startEq⟩
        · rintro ⟨before, behind, textEq, startEq⟩
          cases before with
          | nil => exact Or.inl startEq
          | cons d before =>
              obtain ⟨rfl, rfl⟩ := List.cons.inj textEq
              exact Or.inr ⟨before, behind, rfl, startEq⟩
      · rw [startsAfter, if_neg newline, later]
        constructor
        · rintro ⟨before, behind, rfl, startEq⟩
          exact ⟨c :: before, behind, rfl, startEq⟩
        · rintro ⟨before, behind, textEq, startEq⟩
          cases before with
          | nil => exact absurd (List.cons.inj textEq).1 newline
          | cons d before =>
              obtain ⟨rfl, rfl⟩ := List.cons.inj textEq
              exact ⟨before, behind, rfl, startEq⟩

theorem lt_of_mem_startsAfter {offset start : Nat} {text : Text}
    (member : start ∈ startsAfter offset text) : offset < start := by
  obtain ⟨before, behind, -, startEq⟩ := mem_startsAfter_iff.mp member
  omega

theorem ascending_startsAfter (offset : Nat) (text : Text) :
    (offset :: startsAfter offset text).Pairwise (· < ·) := by
  apply List.Pairwise.cons
  · intro start member
    exact lt_of_mem_startsAfter member
  · induction text generalizing offset with
    | nil => exact List.Pairwise.nil
    | cons c rest ih =>
        unfold startsAfter
        split
        · apply List.Pairwise.cons
          · intro start member
            exact lt_of_mem_startsAfter member
          · exact ih _
        · exact ih _

theorem hasLineTable_ofText (text : Text) : (ofText text).HasLineTable where
  head := rfl
  ascending := ascending_startsAfter 0 text
  le_width := by
    intro start member
    rcases List.mem_cons.mp member with rfl | later
    · exact Nat.zero_le _
    · obtain ⟨before, behind, textEq, startEq⟩ := mem_startsAfter_iff.mp later
      have feed : '\n'.utf8Size = 1 := rfl
      have widthEq : (ofText text).width = Text.width (before ++ '\n' :: behind) :=
        congrArg Text.width textEq
      rw [widthEq, Text.width_append, Text.width_cons, feed]
      omega
  length_eq := (length_startsAfter 0 text).trans (Text.length_splitLines text)
  mem_tail_iff := by
    intro start
    have member : start ∈ startsAfter 0 text ↔ _ := mem_startsAfter_iff
    simp only [Nat.zero_add] at member
    exact member

variable {document : IndexedText}

theorem positionAt?_eq {offset start : Nat}
    (startAt : document.lineStarts[document.lineOf (min offset document.width)]? = some start) :
    document.positionAt? offset =
      some ⟨document.lineOf (min offset document.width), min offset document.width - start⟩ := by
  rw [positionAt?, startAt]
  rfl

namespace HasLineTable

theorem getElem?_zero (table : document.HasLineTable) : document.lineStarts[0]? = some 0 := by
  rw [← List.head?_eq_getElem?]
  exact table.head

/-- An offset lies on the line found for it, and in front of the next line. -/
theorem exists_start (table : document.HasLineTable) (offset : Nat) :
    ∃ start, document.lineStarts[document.lineOf offset]? = some start ∧ start ≤ offset ∧
      ∀ next, document.lineStarts[document.lineOf offset + 1]? = some next → offset < next := by
  unfold lineOf
  cases slot : Slot.of offset document.lineStarts with
  | found index =>
      have startAt := Slot.getElem?_of_found slot
      refine ⟨offset, startAt, Nat.le_refl _, ?_⟩
      intro next nextAt
      exact lt_of_ascending table.ascending (Nat.lt_succ_self _) startAt nextAt
  | missing index =>
      obtain ⟨above, below⟩ := Slot.bounds_of_missing slot
      -- The first line starts at zero, so the place is behind it.
      have positive : index ≠ 0 := by
        rintro rfl
        exact Nat.not_lt_zero _ (below 0 table.getElem?_zero)
      obtain ⟨start, startAt, startLt⟩ := above (index - 1) (by omega)
      refine ⟨start, startAt, Nat.le_of_lt startLt, ?_⟩
      intro next nextAt
      apply below
      rwa [Nat.sub_add_cancel (Nat.pos_of_ne_zero positive)] at nextAt

theorem lineOf_lt (table : document.HasLineTable) (offset : Nat) :
    document.lineOf offset < document.lineStarts.length := by
  obtain ⟨start, startAt, -⟩ := table.exists_start offset
  exact (List.getElem?_eq_some_iff.mp startAt).1

/-- No other line than the one found lies around an offset. -/
theorem lineOf_eq (table : document.HasLineTable) {number offset start : Nat}
    (startAt : document.lineStarts[number]? = some start) (startLe : start ≤ offset)
    (ends : ∀ next, document.lineStarts[number + 1]? = some next → offset < next) :
    document.lineOf offset = number := by
  obtain ⟨found, foundAt, foundLe, foundEnds⟩ := table.exists_start offset
  rcases Nat.lt_trichotomy (document.lineOf offset) number with before | same | behind
  · obtain ⟨next, nextAt, nextLe⟩ := exists_next_of_ascending table.ascending before startAt
    have := foundEnds next nextAt
    omega
  · exact same
  · obtain ⟨next, nextAt, nextLe⟩ := exists_next_of_ascending table.ascending behind foundAt
    have := ends next nextAt
    omega

theorem positionAt?_mono (table : document.HasLineTable) {offset later : Nat}
    (le : offset ≤ later) :
    ∃ position next, document.positionAt? offset = some position ∧
      document.positionAt? later = some next ∧ position.atMost next = true := by
  have clamped : min offset document.width ≤ min later document.width := by omega
  obtain ⟨first, firstAt, firstLe, -⟩ := table.exists_start (min offset document.width)
  obtain ⟨second, secondAt, -, secondEnds⟩ := table.exists_start (min later document.width)
  refine ⟨_, _, positionAt?_eq firstAt, positionAt?_eq secondAt, ?_⟩
  rw [Position.atMost_iff]
  rcases Nat.lt_trichotomy (document.lineOf (min offset document.width))
      (document.lineOf (min later document.width)) with before | same | behind
  · exact Or.inl before
  · right
    rw [same, secondAt] at firstAt
    obtain rfl := Option.some.inj firstAt
    exact ⟨same, Nat.sub_le_sub_right clamped _⟩
  · -- The line of the later offset would end in front of the earlier one.
    obtain ⟨stop, stopAt, stopLe⟩ := exists_next_of_ascending table.ascending behind firstAt
    have := secondEnds stop stopAt
    omega

end HasLineTable

/-! ### Rows and offsets -/

variable {text raw : Text} {number offset start : Nat}

theorem isSome_line?_iff (text : Text) (number : Nat) :
    ((ofText text).line? number).isSome = true ↔ number < (ofText text).source.lineCount := by
  rw [line?_ofText, lineCount_ofText, Option.isSome_map, isSome_getElem?]

theorem line?_eq_none (text : Text) {number : Nat}
    (beyond : (ofText text).source.lineCount ≤ number) : (ofText text).line? number = none := by
  rw [← Option.not_isSome_iff_eq_none, isSome_line?_iff]
  exact Nat.not_lt.mpr beyond

theorem exists_row (within : number < (ofText text).source.lineCount) :
    ∃ raw, (Text.splitLines text)[number]? = some raw := by
  rw [lineCount_ofText] at within
  exact ⟨_, List.getElem?_eq_getElem within⟩

theorem lineStarts_of_row (rowAt : (Text.splitLines text)[number]? = some raw) :
    (ofText text).lineStarts[number]? = some (Text.width (Text.upToLine number text)) := by
  have within := (List.getElem?_eq_some_iff.mp rowAt).1
  have startAt := getElem?_startsAfter within 0
  rwa [Nat.zero_add] at startAt

/-- A row ends in front of the line feed before the next one, or with the text. -/
theorem row_bounds (rowAt : (Text.splitLines text)[number]? = some raw)
    (startAt : (ofText text).lineStarts[number]? = some start) :
    start + Text.width raw ≤ (ofText text).width ∧
      (∀ next, (ofText text).lineStarts[number + 1]? = some next →
        next = start + Text.width raw + 1) ∧
      ((ofText text).lineStarts[number + 1]? = none →
        start + Text.width raw = (ofText text).width) := by
  have cut := rawLine?_ofText text number
  rw [rowAt, rawLine?, startAt] at cut
  cases nextAt : (ofText text).lineStarts[number + 1]? with
  | none =>
      simp only [nextAt] at cut
      obtain ⟨stopEq, stopLe⟩ := Text.le_width_of_between? cut
      refine ⟨Nat.le_of_eq stopEq, ?_, fun _ => stopEq⟩
      intro next isNext
      contradiction
  | some next =>
      simp only [nextAt] at cut
      obtain ⟨stopEq, stopLe⟩ := Text.le_width_of_between? cut
      have ascending := (hasLineTable_ofText text).ascending
      have behind := lt_of_ascending ascending (Nat.lt_succ_self number) startAt nextAt
      refine ⟨stopEq ▸ stopLe, ?_, ?_⟩
      · intro other isNext
        obtain rfl := Option.some.inj isNext
        rw [stopEq, Nat.sub_add_cancel (Nat.lt_of_le_of_lt (Nat.zero_le start) behind)]
      · intro isLast
        contradiction

theorem exists_liesAt (within : offset ≤ (ofText text).width) :
    ∃ position raw, Text.LiesAt text offset position raw ∧
      (ofText text).positionAt? offset = some position := by
  have table := hasLineTable_ofText text
  obtain ⟨start, startAt, startLe, ends⟩ := table.exists_start offset
  have positionEq : (ofText text).positionAt? offset = _ :=
    positionAt?_eq (by rwa [Nat.min_eq_left within])
  rw [Nat.min_eq_left within] at positionEq
  obtain ⟨raw, rowAt⟩ := exists_row (table.lineOf_lt offset)
  obtain ⟨-, nextEq, lastEq⟩ := row_bounds rowAt startAt
  refine ⟨_, raw, ⟨rowAt, ?_, ?_⟩, positionEq⟩
  · have startEq := Option.some.inj (startAt.symm.trans (lineStarts_of_row rowAt))
    rw [← startEq]
    exact Nat.add_sub_of_le startLe
  · cases nextAt : (ofText text).lineStarts[(ofText text).lineOf offset + 1]? with
    | none =>
        have := lastEq nextAt
        simp only
        omega
    | some next =>
        have := ends next nextAt
        have := nextEq next nextAt
        simp only
        omega

theorem positionAt?_of_liesAt {position : Position}
    (lies : Text.LiesAt text offset position raw) :
    (ofText text).positionAt? offset = some position := by
  have table := hasLineTable_ofText text
  have startAt := lineStarts_of_row lies.rowAt
  obtain ⟨stopLe, nextEq, -⟩ := row_bounds lies.rowAt startAt
  have offsetEq := lies.offset_eq
  have columnLe := lies.column_le
  have within : min offset (ofText text).width = offset := Nat.min_eq_left (by omega)
  have lineEq : (ofText text).lineOf offset = position.line := by
    apply table.lineOf_eq startAt (by omega)
    intro next nextAt
    have := nextEq next nextAt
    omega
  rw [positionAt?_eq (by rwa [within, lineEq]), within, lineEq, ← offsetEq,
    Nat.add_sub_cancel_left]

/-- A carriage return at the end of a row is not part of the line. -/
theorem width_ofRaw (number : Nat) (raw : Text) :
    (Line.ofRaw number raw).width =
      if raw.getLast? = some '\r' then Text.width raw - 1 else Text.width raw := by
  unfold Line.ofRaw Line.width
  split
  · rename_i returns
    have rawEq := List.dropLast_append_getLast? _ returns
    have widthEq := congrArg Text.width rawEq
    rw [Text.width_append] at widthEq
    have single : Text.width ['\r'] = 1 := rfl
    change Text.width raw.dropLast = Text.width raw - 1
    omega
  · rfl

theorem line?_of_row (rowAt : (Text.splitLines text)[number]? = some raw) :
    (ofText text).line? number = some (Line.ofRaw number raw) := by
  rw [line?_ofText, rowAt]
  rfl

theorem offsetAt_of_row (rowAt : (Text.splitLines text)[number]? = some raw) (column : Nat) :
    (ofText text).offsetAt ⟨number, column⟩ =
      Text.width (Text.upToLine number text) + min column (Line.ofRaw number raw).width := by
  rw [offsetAt]
  simp only [line?_of_row rowAt, lineStarts_of_row rowAt]

theorem liesAt_offsetAt (rowAt : (Text.splitLines text)[number]? = some raw) {column : Nat}
    (within : column ≤ (Line.ofRaw number raw).width) :
    Text.LiesAt text ((ofText text).offsetAt ⟨number, column⟩) ⟨number, column⟩ raw where
  rowAt := rowAt
  offset_eq := by
    rw [offsetAt_of_row rowAt, Nat.min_eq_left within]
  column_le := by
    rw [width_ofRaw] at within
    split at within
    · exact Nat.le_trans within (Nat.sub_le _ _)
    · exact within

/-- The offset of a position is the one that led to it, unless it stands behind the carriage
return of a line ending. -/
theorem offsetAt_of_liesAt {position : Position} (lies : Text.LiesAt text offset position raw) :
    (ofText text).offsetAt position =
      if position.column = Text.width raw ∧ raw.getLast? = some '\r' then offset - 1
      else offset := by
  have columnLe := lies.column_le
  rw [offsetAt_of_row lies.rowAt, width_ofRaw, ← lies.offset_eq]
  by_cases returns : raw.getLast? = some '\r'
  · have some_raw : raw ≠ [] := by
      rintro rfl
      contradiction
    have positive := Text.width_pos some_raw
    simp only [returns, if_true, and_true]
    split <;> omega
  · simp only [returns, if_false, and_false]
    omega

/-- An indexed text holds the start of every line, and no other place of the table is ever
asked for. -/
theorem lineTable_serves (text : Text) :
    let document := ofText text
    document.HasLineTable ∧ 1 ≤ document.source.lineCount ∧
    (ofText []).source.lineCount = 1 ∧ (ofText []).source.line? 0 = some ⟨0, []⟩ ∧
    (∀ number, (document.source.line? number).isSome = true ↔
      number < document.source.lineCount) ∧
    (∀ offset, document.lineOf (min offset document.width) < document.lineStarts.length ∧
      (document.positionAt? offset).isSome = true) ∧
    ∀ position : Position, document.line? position.line = none ∨
      position.line < document.lineStarts.length := by
  intro document
  have table := hasLineTable_ofText text
  refine ⟨table, Nat.le_add_left _ _, rfl, rfl, isSome_line?_iff text, ?_, ?_⟩
  · intro offset
    refine ⟨table.lineOf_lt _, ?_⟩
    obtain ⟨start, startAt, -⟩ := table.exists_start (min offset document.width)
    rw [positionAt?_eq startAt]
    rfl
  · intro position
    rcases Nat.lt_or_ge position.line document.lineStarts.length with within | beyond
    · exact Or.inr within
    · exact Or.inl (line?_eq_none text beyond)

/-- The document without an index has no line, and no position for its only offset. -/
theorem blank_without_lineTable :
    ¬ blank.HasLineTable ∧ blank.source.lineCount = 0 ∧ blank.source.line? 0 = none ∧
      blank.positionAt? 0 = none := by
  refine ⟨?_, rfl, rfl, rfl⟩
  intro table
  exact absurd table.head (by decide)

/-- Offsets and positions lead back to each other, up to a carriage return at the end of a
row, and in the same order; columns past a line count as its end, and lines past the
document as the end of the text. -/
theorem offsets_and_positions (text : Text) :
    let document := ofText text
    (∀ number < document.source.lineCount, ∃ line, document.line? number = some line ∧
      ∀ column,
        document.offsetAt ⟨number, column⟩ =
          Text.width (Text.upToLine number text) + min column line.width ∧
        (column ≤ line.width →
          document.positionAt? (document.offsetAt ⟨number, column⟩) = some ⟨number, column⟩)) ∧
    (∀ number column, document.source.lineCount ≤ number →
      document.offsetAt ⟨number, column⟩ = document.width) ∧
    (∀ offset, ∃ position raw, document.positionAt? offset = some position ∧
      Text.LiesAt text (min offset document.width) position raw ∧
      document.offsetAt position =
        if position.column = Text.width raw ∧ raw.getLast? = some '\r' then
          min offset document.width - 1
        else min offset document.width) ∧
    ∀ offset later, offset ≤ later → ∃ position next,
      document.positionAt? offset = some position ∧
      document.positionAt? later = some next ∧ position.atMost next = true := by
  intro document
  refine ⟨?_, ?_, ?_, ?_⟩
  · intro number within
    obtain ⟨raw, rowAt⟩ := exists_row within
    refine ⟨_, line?_of_row rowAt, fun column => ⟨offsetAt_of_row rowAt column, ?_⟩⟩
    intro columnLe
    exact positionAt?_of_liesAt (liesAt_offsetAt rowAt columnLe)
  · intro number column beyond
    have noLine : document.line? number = none := line?_eq_none text beyond
    rw [offsetAt]
    simp only [noLine]
  · intro offset
    obtain ⟨position, raw, lies, positionEq⟩ :=
      exists_liesAt (Nat.min_le_right offset document.width)
    have clamped : document.positionAt? offset =
        document.positionAt? (min offset document.width) := by
      rw [positionAt?, positionAt?, Nat.min_assoc, Nat.min_self]
    exact ⟨position, raw, clamped.trans positionEq, lies, offsetAt_of_liesAt lies⟩
  · intro offset later le
    exact (hasLineTable_ofText text).positionAt?_mono le

/-- Between a carriage return and its line feed the position lies behind the line. -/
theorem offsets_and_positions_return :
    let document := ofText "é\r\nb".toList
    document.positionAt? (document.offsetAt ⟨0, 2⟩) = some ⟨0, 2⟩ ∧
      document.positionAt? 3 = some ⟨0, 3⟩ ∧ document.offsetAt ⟨0, 3⟩ = 2 ∧
      document.offsetAt ⟨7, 0⟩ = 5 := by
  intro document
  obtain ⟨onLines, beyond, -⟩ := offsets_and_positions "é\r\nb".toList
  obtain ⟨line, lineAt, offsetEq⟩ := onLines 0 (by decide)
  obtain rfl : ⟨0, ['é']⟩ = line := Option.some.inj (Eq.trans (by decide) lineAt)
  exact ⟨(offsetEq 2).2 (by decide), by decide, (offsetEq 3).1, beyond 7 0 (by decide)⟩

end IndexedText

end Pinpoint
