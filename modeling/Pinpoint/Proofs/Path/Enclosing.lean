import Pinpoint.Proofs.Path.Components

/-!
# Enclosing folders

The folders around a path are the shortest beginnings of it that have its first components.
Taking parents goes through all of them, one component at a time.
-/

namespace Pinpoint

namespace Path

/-- A folder is the shortest beginning of a path with its first components, of which it does
not have all.  What starts with a slash lies in nothing that does not. -/
structure Encloses (count : Nat) (folder path : Path) : Prop where
  fewer : count < (components path).length
  components_eq : components folder = (components path).take count
  begins : folder <+: path
  shortest : ∀ other, other <+: path → components other = (components path).take count →
    folder <+: other
  rooted : path.head? = some '/' → folder.head? = some '/'

namespace Encloses

variable {count inner : Nat} {folder other path : Path}

theorem length_components (encloses : Encloses count folder path) :
    (components folder).length = count := by
  rw [encloses.components_eq, List.length_take_of_le encloses.fewer.le]

/-- On each level, only one folder is around a path. -/
theorem unique (encloses : Encloses count folder path) (same : Encloses count other path) :
    folder = other :=
  (encloses.shortest other same.begins same.components_eq).eq_of_length_le
    (same.shortest folder encloses.begins encloses.components_eq).length_le

theorem trans (encloses : Encloses count other folder) (inside : Encloses inner folder path) :
    Encloses count other path := by
  have fewer : count < inner := inside.length_components ▸ encloses.fewer
  have takeEq : (components path).take count = (components folder).take count := by
    rw [inside.components_eq, List.take_take, Nat.min_eq_left fewer.le]
  refine ⟨fewer.trans inside.fewer, ?_, encloses.begins.trans inside.begins, ?_,
    encloses.rooted ∘ inside.rooted⟩
  · rw [takeEq, encloses.components_eq]
  · intro begin begins componentsEq
    rw [takeEq] at componentsEq
    obtain within | around := List.prefix_or_prefix_of_prefix begins inside.begins
    · exact encloses.shortest begin within componentsEq
    · exact encloses.begins.trans around

theorem pos (encloses : Encloses count folder path) (rooted : path.head? = some '/') :
    0 < count := by
  rw [← encloses.length_components, components, opening, if_pos (encloses.rooted rooted)]
  simp

end Encloses

/-- What is left of a path without its last component is around it. -/
theorem exists_encloses_of_components_eq {folder path : Path} (last : Component)
    (componentsEq : components path = components folder ++ [last]) (begins : folder <+: path)
    (ends : folder.length ≤ 1 ∨ EndsInComponent folder)
    (rooted : path.head? = some '/' → folder.head? = some '/') :
    ∃ count, (components path).length = count + 1 ∧ Encloses count folder path := by
  have takeEq : (components path).take (components folder).length = components folder := by
    rw [componentsEq, List.take_left']
    rfl
  refine ⟨(components folder).length, by simp [componentsEq], by simp [componentsEq],
    takeEq.symm, begins, ?_, rooted⟩
  intro other otherBegins otherEq
  rw [takeEq] at otherEq
  obtain within | around := List.prefix_or_prefix_of_prefix otherBegins begins
  · exact (eq_of_components_eq ends within otherEq).symm ▸ List.prefix_rfl
  · exact around

/-! ### Parents -/

section Parents

variable {path folder : Path} {start body : Text} {front kept others : List Text} {last : Text}

theorem parent?_of_trimmed_append (leadEq : lead path = (start, body))
    (trimmedEq : trimmed (pieces body) = front ++ [last]) :
    parent? path = some (start ++ join (trimmed front)) := by
  rw [parent?, leadEq]
  dsimp only
  rw [trimmedEq]
  cases front with
  | nil => rfl
  | cons first others =>
      rw [List.cons_append]
      dsimp only
      rw [← List.cons_append, List.dropLast_concat]

theorem parent?_of_trimmed_nil (leadEq : lead path = (start, body))
    (trimmedEq : trimmed (pieces body) = []) :
    parent? path = if start = ['.'] then some [] else none := by
  rw [parent?, leadEq]
  dsimp only
  rw [trimmedEq]

/-- The first pieces of a text are the pieces of a text that is cut at a slash. -/
theorem join_cut (splitEq : body.splitOn '/' = kept ++ others) (more : others ≠ []) :
    (join kept = [] ∨ ∃ rest, body = join kept ++ '/' :: rest) ∧
      named ((join kept).splitOn '/') = named kept ∧
      (kept ≠ [] → (join kept).splitOn '/' = kept) := by
  by_cases empty : kept = []
  · subst empty
    exact ⟨.inl rfl, rfl, absurd rfl⟩
  · have bodyEq : body = join kept ++ '/' :: join others := by
      rw [← join_append empty more, ← splitEq, join_eq_intercalate, List.intercalate_splitOn]
    have keptEq : (join kept).splitOn '/' = kept := by
      rw [join_eq_intercalate]
      refine List.splitOn_intercalate '/' (fun piece mem => ?_) empty
      exact Text.not_mem_of_mem_splitOn (splitEq ▸ List.mem_append_left _ mem)
    exact ⟨.inr ⟨_, bodyEq⟩, congrArg named keptEq, fun _ => keptEq⟩

theorem Starts.length_le (starts : Starts start body) : start.length ≤ 1 := by
  cases starts <;> simp

theorem Starts.head? {other : Text} (starts : Starts start body)
    (rooted : (start ++ body).head? = some '/') : (start ++ other).head? = some '/' := by
  cases starts with
  | root => rfl
  | here => simp at rooted
  | bare noSlash => exact absurd rooted noSlash

theorem Starts.exists_encloses {component : Component} (starts : Starts start body)
    (trimmedEq : trimmed (pieces body) = front ++ [last])
    (lastEq : componentOf? last = some component) :
    ∃ count, (components (start ++ body)).length = count + 1 ∧
      Encloses count (start ++ join (trimmed front)) (start ++ body) := by
  -- pieces are trimmed twice: behind the last component, and behind the one before it
  obtain ⟨dropped, piecesEq, -⟩ := exists_trimmed_append (pieces body)
  obtain ⟨tail, frontEq, -⟩ := exists_trimmed_append front
  have splitEq : body.splitOn '/' = trimmed front ++ (tail ++ [last] ++ dropped) := by
    rw [← pieces_eq_splitOn, piecesEq, trimmedEq]
    conv_lhs => rw [frontEq]
    simp only [List.append_assoc]
  obtain ⟨cut, namedEq, joinEq⟩ := join_cut splitEq (by simp)
  have inner := starts.cut cut
  refine exists_encloses_of_components_eq component ?_ ?_ ?_ starts.head?
  · rw [starts.components_eq, inner.components_eq, namedEq, named_trimmed,
      ← pieces_eq_splitOn, ← named_trimmed, trimmedEq, named_append, named_singleton, lastEq,
      List.append_assoc]
    rfl
  · rw [List.prefix_append_right_inj]
    obtain empty | ⟨rest, bodyEq⟩ := cut
    · exact empty ▸ List.nil_prefix
    · exact bodyEq ▸ List.prefix_append _ _
  · obtain empty | ⟨init, final, finalComponent, initEq, finalEq⟩ := trimmed_cases front
    · exact .inl (by simpa [empty, join] using starts.length_le)
    · refine .inr (inner.endsInComponent ⟨final, ?_, ?_⟩)
      · rw [joinEq (by simp [initEq]), initEq]
        simp
      · rw [isComponent_eq_isSome, finalEq]
        rfl

/-- A path is around what has it as its parent, and nothing lies between. -/
theorem exists_encloses_of_parent? (parentEq : parent? path = some folder) :
    ∃ count, (components path).length = count + 1 ∧ Encloses count folder path := by
  obtain ⟨start, body, leadEq, starts, rfl⟩ := exists_starts path
  obtain noneKept | ⟨front, last, component, keptEq, lastEq⟩ := trimmed_cases (pieces body)
  · rw [parent?_of_trimmed_nil leadEq noneKept] at parentEq
    by_cases dot : start = ['.']
    · obtain rfl : folder = [] := by simpa [dot] using parentEq.symm
      refine exists_encloses_of_components_eq .here ?_ List.nil_prefix (.inl (by simp)) ?_
      · rw [starts.components_eq, ← pieces_eq_splitOn, ← named_trimmed, noneKept, dot]
        rfl
      · simp [dot]
    · simp [dot] at parentEq
  · rw [parent?_of_trimmed_append leadEq keptEq, Option.some_inj] at parentEq
    exact parentEq ▸ starts.exists_encloses keptEq lastEq

/-- A path without a parent has no components, or is the root. -/
theorem length_components_le_of_parent?_eq_none {count : Nat} (parentEq : parent? path = none)
    (pos : path.head? = some '/' → 0 < count) : (components path).length ≤ count := by
  obtain ⟨start, body, leadEq, starts, rfl⟩ := exists_starts path
  obtain noneKept | ⟨front, last, component, keptEq, lastEq⟩ := trimmed_cases (pieces body)
  · rw [starts.components_eq, ← pieces_eq_splitOn, ← named_trimmed, noneKept]
    rw [parent?_of_trimmed_nil leadEq noneKept] at parentEq
    cases starts with
    | root => exact pos rfl
    | here => simp at parentEq
    | bare => exact Nat.zero_le count
  · simp [parent?_of_trimmed_append leadEq keptEq] at parentEq

end Parents

/-! ### All folders around a path -/

section Around

variable {count : Nat} {folder parent path : Path}

theorem not_encloses_of_parent?_eq_none (parentEq : parent? path = none) :
    ¬ Encloses count folder path := fun encloses =>
  (length_components_le_of_parent?_eq_none parentEq encloses.pos).not_gt encloses.fewer

theorem Encloses.head?_eq (encloses : Encloses count folder path)
    (rooted : folder.head? = some '/') : path.head? = some '/' := by
  obtain ⟨rest, rfl⟩ := encloses.begins
  rw [List.head?_append, rooted]
  rfl

theorem Encloses.length_lt (encloses : Encloses count folder path) :
    folder.length < path.length := by
  refine lt_of_le_of_ne encloses.begins.length_le fun lengthEq => ?_
  have same := encloses.begins.eq_of_length lengthEq
  have fewer := encloses.fewer
  rw [← same, encloses.length_components] at fewer
  exact fewer.false

/-- There is a folder on each level, except that nothing is around the root. -/
theorem exists_encloses (fewer : count < (components path).length)
    (pos : path.head? = some '/' → 0 < count) : ∃ folder, Encloses count folder path := by
  induction lengthEq : (components path).length generalizing path with
  | zero => omega
  | succ all ih =>
      cases parentEq : parent? path with
      | none =>
          exact absurd fewer (length_components_le_of_parent?_eq_none parentEq pos).not_gt
      | some parent =>
          obtain ⟨above, aboveEq, encloses⟩ := exists_encloses_of_parent? parentEq
          by_cases isAbove : count = above
          · exact ⟨parent, isAbove ▸ encloses⟩
          · have parentLength := encloses.length_components
            have parentFewer : count < (components parent).length := by omega
            obtain ⟨folder, around⟩ := ih parentFewer
              (fun rooted => pos (encloses.head?_eq rooted)) (by omega)
            exact ⟨folder, around.trans encloses⟩

/-- The folders around a path are its parent and the folders around that. -/
theorem encloses_iff_of_parent? (parentEq : parent? path = some parent) :
    Encloses count folder path ↔
      (components path).length = count + 1 ∧ folder = parent ∨ Encloses count folder parent := by
  obtain ⟨above, aboveEq, inside⟩ := exists_encloses_of_parent? parentEq
  constructor
  · intro encloses
    by_cases isAbove : count = above
    · subst isAbove
      exact .inl ⟨aboveEq, encloses.unique inside⟩
    · have fewer := encloses.fewer
      have parentLength := inside.length_components
      have parentFewer : count < (components parent).length := by omega
      obtain ⟨other, around⟩ := exists_encloses parentFewer
        fun rooted => encloses.pos (inside.head?_eq rooted)
      exact .inr ((around.trans inside).unique encloses ▸ around)
  · rintro (⟨countEq, rfl⟩ | around)
    · obtain rfl : count = above := by omega
      exact inside
    · exact around.trans inside

/-! ### Ancestors -/

theorem length_lt_of_parent? (parentEq : parent? path = some parent) :
    parent.length < path.length :=
  let ⟨_, _, encloses⟩ := exists_encloses_of_parent? parentEq
  encloses.length_lt

theorem selfAndParents_eq {first second : Nat} (left : path.length < first)
    (right : path.length < second) : selfAndParents first path = selfAndParents second path := by
  induction first generalizing path second with
  | zero => omega
  | succ first ih =>
      obtain ⟨second, rfl⟩ := Nat.exists_eq_add_one_of_ne_zero (show second ≠ 0 by omega)
      rw [selfAndParents, selfAndParents]
      cases parentEq : parent? path with
      | none => rfl
      | some parent =>
          have shorter := length_lt_of_parent? parentEq
          have left : parent.length < first := by omega
          have right : parent.length < second := by omega
          dsimp only
          rw [ih left right]

/-- The ancestors of a path go on with those of its parent. -/
theorem ancestors_eq (path : Path) :
    ancestors path = path :: (parent? path).elim [] ancestors := by
  rw [ancestors, selfAndParents]
  cases parentEq : parent? path with
  | none => rfl
  | some parent =>
      have shorter := length_lt_of_parent? parentEq
      exact congrArg (path :: ·) (selfAndParents_eq (by omega) (by omega))

example : ancestors "./a//b/.".toList =
    ["./a//b/.".toList, "./a".toList, ".".toList, []] := by decide

end Around

end Path

end Pinpoint
