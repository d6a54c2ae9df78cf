import Pinpoint.Text

/-!
# Cutting texts at byte columns

A cut at a byte column succeeds exactly when the column stands between two
characters, so every cut is the width of some beginning of the text.  This file
turns the byte arithmetic of the cutting operations into equations between
concatenations.
-/

namespace Pinpoint

namespace Text

theorem width_eq_zero_iff {text : Text} : width text = 0 ↔ text = [] := by
  cases text with
  | nil => simp
  | cons c rest =>
      have positive := c.utf8Size_pos
      simp
      omega

theorem width_pos {text : Text} (nonempty : text ≠ []) : 0 < width text := by
  rw [Nat.pos_iff_ne_zero, Ne, width_eq_zero_iff]
  exact nonempty

/-- Two beginnings of the same text that take equally many bytes are equal. -/
theorem append_inj_of_width {left left' right right' : Text}
    (equal : left ++ right = left' ++ right') (widthEq : width left = width left') :
    left = left' ∧ right = right' := by
  induction left generalizing left' with
  | nil =>
      have empty : width left' = 0 := widthEq.symm
      rw [width_eq_zero_iff] at empty
      subst empty
      exact ⟨rfl, equal⟩
  | cons c rest ih =>
      cases left' with
      | nil =>
          have positive := c.utf8Size_pos
          simp at widthEq
          omega
      | cons d rest' =>
          simp only [List.cons_append, List.cons.injEq] at equal
          obtain ⟨rfl, tailEq⟩ := equal
          obtain ⟨rfl, rightEq⟩ := ih tailEq (by simpa using widthEq)
          exact ⟨rfl, rightEq⟩

@[simp]
theorem dropBytes?_zero (text : Text) : dropBytes? 0 text = some text := by
  cases text <;> rfl

@[simp]
theorem takeBytes?_zero (text : Text) : takeBytes? 0 text = some [] := by
  cases text <;> rfl

theorem dropBytes?_cons {c : Char} {bytes : Nat} (rest : Text)
    (passes : c.utf8Size ≤ bytes) :
    dropBytes? bytes (c :: rest) = dropBytes? (bytes - c.utf8Size) rest := by
  have positive := c.utf8Size_pos
  cases bytes with
  | zero => omega
  | succ bytes => rw [dropBytes?, if_pos passes]

theorem takeBytes?_cons {c : Char} {bytes : Nat} (rest : Text)
    (passes : c.utf8Size ≤ bytes) :
    takeBytes? bytes (c :: rest) =
      (takeBytes? (bytes - c.utf8Size) rest).map (c :: ·) := by
  have positive := c.utf8Size_pos
  cases bytes with
  | zero => omega
  | succ bytes => rw [takeBytes?, if_pos passes]

theorem dropBytes?_cons_of_lt {c : Char} {bytes : Nat} (rest : Text)
    (positive : 0 < bytes) (inside : bytes < c.utf8Size) :
    dropBytes? bytes (c :: rest) = none := by
  cases bytes with
  | zero => omega
  | succ bytes => rw [dropBytes?, if_neg (by omega)]

theorem takeBytes?_cons_of_lt {c : Char} {bytes : Nat} (rest : Text)
    (positive : 0 < bytes) (inside : bytes < c.utf8Size) :
    takeBytes? bytes (c :: rest) = none := by
  cases bytes with
  | zero => omega
  | succ bytes => rw [takeBytes?, if_neg (by omega)]

/-- Dropping bytes succeeds exactly for the width of a beginning. -/
theorem dropBytes?_eq_some_iff {bytes : Nat} {text right : Text} :
    dropBytes? bytes text = some right ↔
      ∃ left, text = left ++ right ∧ width left = bytes := by
  induction text generalizing bytes with
  | nil =>
      cases bytes with
      | zero =>
          rw [dropBytes?_zero, Option.some.injEq]
          constructor
          · rintro rfl
            exact ⟨[], rfl, rfl⟩
          · rintro ⟨left, equal, -⟩
            exact (List.append_eq_nil_iff.mp equal.symm).2.symm
      | succ bytes =>
          simp only [dropBytes?, reduceCtorEq, false_iff]
          rintro ⟨left, equal, widthEq⟩
          obtain ⟨rfl, -⟩ := List.append_eq_nil_iff.mp equal.symm
          simp at widthEq
  | cons c rest ih =>
      rcases Nat.eq_zero_or_pos bytes with rfl | positive
      · simp only [dropBytes?_zero, Option.some.injEq, width_eq_zero_iff]
        constructor
        · rintro rfl
          exact ⟨[], rfl, rfl⟩
        · rintro ⟨left, equal, rfl⟩
          exact equal
      · rcases Nat.lt_or_ge bytes c.utf8Size with inside | passes
        · rw [dropBytes?_cons_of_lt rest positive inside]
          simp only [reduceCtorEq, false_iff]
          rintro ⟨left, equal, rfl⟩
          cases left with
          | nil => simp at positive
          | cons d left =>
              obtain ⟨rfl, -⟩ := List.cons.inj equal
              simp only [width_cons] at inside
              omega
        · rw [dropBytes?_cons rest passes, ih]
          constructor
          · rintro ⟨left, rfl, widthEq⟩
            exact ⟨c :: left, rfl, by simp; omega⟩
          · rintro ⟨left, equal, rfl⟩
            cases left with
            | nil => simp at positive
            | cons d left =>
                obtain ⟨rfl, rfl⟩ := List.cons.inj equal
                exact ⟨left, rfl, by simp⟩

/-- Taking bytes succeeds exactly for the width of a beginning, which it
returns. -/
theorem takeBytes?_eq_some_iff {bytes : Nat} {text left : Text} :
    takeBytes? bytes text = some left ↔
      ∃ right, text = left ++ right ∧ width left = bytes := by
  induction text generalizing bytes left with
  | nil =>
      cases bytes with
      | zero =>
          simp only [takeBytes?_zero, Option.some.injEq]
          constructor
          · rintro rfl
            exact ⟨[], rfl, rfl⟩
          · rintro ⟨right, equal, -⟩
            exact (List.append_eq_nil_iff.mp equal.symm).1.symm
      | succ bytes =>
          simp only [takeBytes?, reduceCtorEq, false_iff]
          rintro ⟨right, equal, widthEq⟩
          obtain ⟨rfl, -⟩ := List.append_eq_nil_iff.mp equal.symm
          simp at widthEq
  | cons c rest ih =>
      rcases Nat.eq_zero_or_pos bytes with rfl | positive
      · simp only [takeBytes?_zero, Option.some.injEq, width_eq_zero_iff]
        constructor
        · rintro rfl
          exact ⟨c :: rest, rfl, rfl⟩
        · rintro ⟨right, -, rfl⟩
          rfl
      · rcases Nat.lt_or_ge bytes c.utf8Size with inside | passes
        · rw [takeBytes?_cons_of_lt rest positive inside]
          simp only [reduceCtorEq, false_iff]
          rintro ⟨right, equal, rfl⟩
          cases left with
          | nil => simp at positive
          | cons d left =>
              obtain ⟨rfl, -⟩ := List.cons.inj equal
              simp only [width_cons] at inside
              omega
        · rw [takeBytes?_cons rest passes]
          simp only [Option.map_eq_some_iff, ih]
          constructor
          · rintro ⟨left, ⟨right, rfl, widthEq⟩, rfl⟩
            exact ⟨right, rfl, by simp; omega⟩
          · rintro ⟨right, equal, rfl⟩
            cases left with
            | nil => simp at positive
            | cons d left =>
                obtain ⟨rfl, rfl⟩ := List.cons.inj equal
                exact ⟨left, ⟨right, rfl, by simp⟩, rfl⟩

@[simp]
theorem dropBytes?_width_append (left right : Text) :
    dropBytes? (width left) (left ++ right) = some right := by
  rw [dropBytes?_eq_some_iff]
  exact ⟨left, rfl, rfl⟩

/-- A piece of a text lies between two columns exactly when the text is the
piece with a beginning and an end of the right widths around it. -/
theorem between?_eq_some_iff {start stop : Nat} {text piece : Text} :
    between? start stop text = some piece ↔
      ∃ left right, text = left ++ (piece ++ right) ∧ width left = start ∧
        start + width piece = stop := by
  unfold between?
  constructor
  · intro cut
    split at cut
    · obtain ⟨rest, dropped, taken⟩ := Option.bind_eq_some_iff.mp cut
      rw [dropBytes?_eq_some_iff] at dropped
      rw [takeBytes?_eq_some_iff] at taken
      obtain ⟨left, rfl, leftWidth⟩ := dropped
      obtain ⟨right, rfl, pieceWidth⟩ := taken
      exact ⟨left, right, rfl, leftWidth, by omega⟩
    · simp at cut
  · rintro ⟨left, right, rfl, rfl, rfl⟩
    rw [if_pos (Nat.le_add_right _ _), dropBytes?_width_append, Option.bind_some,
      takeBytes?_eq_some_iff]
    exact ⟨right, rfl, by omega⟩

theorem between?_append {start stop : Nat} (left piece right : Text)
    (startEq : start = width left) (stopEq : stop = width left + width piece) :
    between? start stop (left ++ (piece ++ right)) = some piece := by
  rw [between?_eq_some_iff]
  exact ⟨left, right, rfl, startEq.symm, by omega⟩

theorem between?_cons {stop : Nat} {c : Char} {before rest piece : Text}
    (cut : between? (width before + c.utf8Size) stop (before ++ c :: rest) = some piece) :
    between? (width before) stop (before ++ c :: rest) = some (c :: piece) := by
  rw [between?_eq_some_iff] at cut ⊢
  obtain ⟨left, right, equal, leftWidth, pieceWidth⟩ := cut
  have regrouped : left ++ (piece ++ right) = (before ++ [c]) ++ rest := by
    simp [← equal]
  obtain ⟨rfl, rfl⟩ := append_inj_of_width regrouped (by simp [leftWidth])
  refine ⟨before, right, by simp, rfl, ?_⟩
  rw [width_cons]
  omega

/-- Cutting later within a piece drops the beginning of the piece. -/
theorem between?_of_between? {start middle stop : Nat} {text window : Text}
    (cut : between? start stop text = some window)
    (startLe : start ≤ middle) :
    between? middle stop text = dropBytes? (middle - start) window := by
  rw [between?_eq_some_iff] at cut
  obtain ⟨left, right, rfl, leftWidth, windowWidth⟩ := cut
  apply Option.ext
  intro piece
  rw [between?_eq_some_iff, dropBytes?_eq_some_iff]
  constructor
  · rintro ⟨left', right', equal, leftWidth', pieceWidth⟩
    -- The earlier cut is a beginning of the later one.
    rcases List.append_eq_append_iff.mp equal with ⟨skipped, rfl, rest⟩ | ⟨skipped, rfl, rest⟩
    · have split : window ++ right = (skipped ++ piece) ++ right' := by
        simpa using rest
      have widths : width window = width (skipped ++ piece) := by
        simp at leftWidth' ⊢
        omega
      obtain ⟨rfl, -⟩ := append_inj_of_width split widths
      exact ⟨skipped, rfl, by simp at leftWidth'; omega⟩
    · have empty : width skipped = 0 := by
        simp at leftWidth
        omega
      rw [width_eq_zero_iff] at empty
      subst empty
      have split : window ++ right = piece ++ right' := by
        simpa using rest.symm
      have widths : width window = width piece := by
        simp at leftWidth
        omega
      obtain ⟨rfl, -⟩ := append_inj_of_width split widths
      exact ⟨[], rfl, by simp at leftWidth ⊢; omega⟩
  · rintro ⟨skipped, rfl, skippedWidth⟩
    refine ⟨left ++ skipped, right, by simp, by simp; omega, ?_⟩
    simp at windowWidth
    omega

/-- A piece of a piece is cut out of the whole text at the sum of the columns. -/
theorem between?_of_append {start stop first last : Nat} {text left piece right : Text}
    (cut : between? start stop text = some (left ++ (piece ++ right)))
    (firstEq : first = start + width left) (lastEq : last = first + width piece) :
    between? first last text = some piece := by
  rw [between?_eq_some_iff] at cut ⊢
  obtain ⟨before, behind, rfl, rfl, -⟩ := cut
  refine ⟨before ++ left, right ++ behind, by simp, ?_, lastEq.symm⟩
  rw [width_append, firstEq]

theorem le_width_of_between? {start stop : Nat} {text piece : Text}
    (cut : between? start stop text = some piece) :
    start + width piece = stop ∧ stop ≤ width text := by
  rw [between?_eq_some_iff] at cut
  obtain ⟨left, right, rfl, rfl, stopEq⟩ := cut
  simp only [width_append]
  omega

end Text

end Pinpoint
