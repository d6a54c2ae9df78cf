import Pinpoint.Text

/-!
# Pieces of a text

The pieces of a text between the places of one character.
-/

namespace Pinpoint

namespace Text

variable {separator c : Char} {piece text : Text}

theorem splitOn_append_cons (separator : Char) (front rest : Text) :
    (front ++ separator :: rest).splitOn separator =
      front.splitOn separator ++ rest.splitOn separator :=
  List.splitOnP_append_cons front rest (by simp)

theorem not_mem_of_mem_splitOn (mem : piece ∈ text.splitOn separator) : separator ∉ piece := by
  induction text generalizing piece with
  | nil =>
      obtain rfl : piece = [] := by simpa using mem
      simp
  | cons c rest ih =>
      rw [List.splitOn_cons_eq_if_modifyHead] at mem
      by_cases same : c = separator
      · rw [if_pos (by simpa using same)] at mem
        obtain rfl | later := List.mem_cons.1 mem
        · simp
        · exact ih later
      · rw [if_neg (by simpa using same)] at mem
        obtain ⟨first, others, split⟩ :=
          List.exists_cons_of_ne_nil (List.splitOn_ne_nil separator rest)
        rw [split, List.modifyHead_cons] at mem
        rw [split] at ih
        obtain rfl | later := List.mem_cons.1 mem
        · simp [Ne.symm same, ih List.mem_cons_self]
        · exact ih (List.mem_cons_of_mem _ later)

/-- A character that does not separate goes to the last piece. -/
theorem exists_splitOn_snoc (other : c ≠ separator) (text : Text) :
    ∃ front last, text.splitOn separator = front ++ [last] ∧
      (text ++ [c]).splitOn separator = front ++ [last ++ [c]] := by
  induction text with
  | nil => exact ⟨[], [], rfl, by simp [List.splitOn_cons_eq_if_modifyHead, other]⟩
  | cons d rest ih =>
      obtain ⟨front, last, restEq, snocEq⟩ := ih
      rw [List.cons_append, List.splitOn_cons_eq_if_modifyHead,
        List.splitOn_cons_eq_if_modifyHead, restEq, snocEq]
      by_cases same : d = separator
      · exact ⟨[] :: front, last, by simp [same], by simp [same]⟩
      · cases front with
        | nil => exact ⟨[], d :: last, by simp [same], by simp [same]⟩
        | cons first others => exact ⟨(d :: first) :: others, last, by simp [same], by simp [same]⟩

end Text

end Pinpoint
