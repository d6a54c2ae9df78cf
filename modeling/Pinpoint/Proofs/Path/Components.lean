import Mathlib.Data.List.DropRight
import Pinpoint.Path
import Pinpoint.Proofs.Text.Pieces

/-!
# Components of a path

A path is a list of components.  Its first slash and a dot at its start count as such, all
other slashes and dots only stand between components.  A path that ends in a component is the
shortest beginning of itself with all its components.
-/

namespace Pinpoint

namespace Path

open Text (splitOn_append_cons exists_splitOn_snoc)

/-- A component of a path. -/
inductive Component
  | root
  | here
  | up
  | name (text : Text)
  deriving DecidableEq, Repr

/-- The component that a piece between slashes stands for.  Nothing and a dot stand for
none. -/
def componentOf? (piece : Text) : Option Component :=
  if piece = [] ∨ piece = ['.'] then none
  else if piece = ['.', '.'] then some .up
  else some (.name piece)

/-- The components that pieces stand for. -/
def named (pieces : List Text) : List Component :=
  pieces.filterMap componentOf?

/-- The component that only the start of a path has. -/
def opening (path : Path) : List Component :=
  if path.head? = some '/' then [.root]
  else if (path.splitOn '/').head? = some ['.'] then [.here]
  else []

/-- The components of a path. -/
def components (path : Path) : List Component :=
  opening path ++ named (path.splitOn '/')

/-! ### Pieces -/

theorem pieces_eq_splitOn (path : Path) : pieces path = path.splitOn '/' := by
  induction path with
  | nil => rfl
  | cons c rest ih =>
      rw [List.splitOn_cons_eq_if_modifyHead, pieces, ih]
      cases split : rest.splitOn '/' with
      | nil => exact absurd split (List.splitOn_ne_nil _ _)
      | cons first others => simp

theorem join_eq_intercalate (texts : List Text) : join texts = ['/'].intercalate texts := by
  induction texts with
  | nil => rfl
  | cons first others ih =>
      cases others with
      | nil => simp [join]
      | cons next rest => rw [join, ih, List.intercalate_cons_cons]; simp

theorem head?_splitOn_append_slash (front rest : Text) :
    ((front ++ '/' :: rest).splitOn '/').head? = (front.splitOn '/').head? := by
  rw [splitOn_append_cons, List.head?_append_of_ne_nil _ (List.splitOn_ne_nil _ _)]

theorem join_append {front rest : List Text} (before : front ≠ []) (after : rest ≠ []) :
    join (front ++ rest) = join front ++ '/' :: join rest := by
  induction front with
  | nil => exact absurd rfl before
  | cons first others ih =>
      cases others with
      | nil =>
          obtain ⟨next, rest, rfl⟩ := List.exists_cons_of_ne_nil after
          rfl
      | cons next others =>
          rw [List.cons_append, List.cons_append, join, join, ← List.cons_append,
            ih (by simp), List.append_assoc, List.cons_append]

/-! ### Components of pieces -/

theorem isComponent_eq_isSome (piece : Text) :
    isComponent piece = (componentOf? piece).isSome := by
  rw [isComponent, componentOf?]
  by_cases empty : piece = []
  · simp [empty]
  · by_cases dot : piece = ['.']
    · simp [dot]
    · simp [empty, dot, apply_ite Option.isSome]

@[simp]
theorem named_append (front rest : List Text) :
    named (front ++ rest) = named front ++ named rest :=
  List.filterMap_append

theorem named_singleton (piece : Text) : named [piece] = (componentOf? piece).toList := by
  cases found : componentOf? piece <;> simp [named, found]

theorem trimmed_eq_rdropWhile (texts : List Text) :
    trimmed texts = texts.rdropWhile (!isComponent ·) := rfl

theorem exists_trimmed_append (texts : List Text) :
    ∃ dropped, texts = trimmed texts ++ dropped ∧ named dropped = [] := by
  refine ⟨texts.rtakeWhile (!isComponent ·), ?_, ?_⟩
  · rw [trimmed_eq_rdropWhile, List.rdropWhile_append_rtakeWhile]
  · rw [named, List.filterMap_eq_nil_iff]
    intro piece mem
    have noComponent := List.mem_rtakeWhile_imp mem
    simpa [isComponent_eq_isSome] using noComponent

theorem named_trimmed (texts : List Text) : named (trimmed texts) = named texts := by
  obtain ⟨dropped, textsEq, noneDropped⟩ := exists_trimmed_append texts
  conv_rhs => rw [textsEq, named_append, noneDropped, List.append_nil]

theorem trimmed_cases (texts : List Text) :
    trimmed texts = [] ∨ ∃ front last component,
      trimmed texts = front ++ [last] ∧ componentOf? last = some component := by
  by_cases empty : trimmed texts = []
  · exact .inl empty
  · have isLast := List.rdropWhile_last_not (!isComponent ·) texts empty
    rw [isComponent_eq_isSome, Bool.not_eq_true', Bool.not_eq_false,
      Option.isSome_iff_exists] at isLast
    obtain ⟨component, componentEq⟩ := isLast
    exact .inr ⟨_, _, component, (List.dropLast_append_getLast empty).symm, componentEq⟩

/-! ### Starts -/

theorem eq_or_append_slash_of_head?_splitOn {path first : Text}
    (headEq : (path.splitOn '/').head? = some first) :
    path = first ∨ ∃ rest, path = first ++ '/' :: rest := by
  obtain ⟨others, split⟩ := List.head?_eq_some_iff.1 headEq
  have pathEq : ['/'].intercalate (path.splitOn '/') = path := List.intercalate_splitOn '/'
  rw [split] at pathEq
  cases others with
  | nil => exact .inl (by simpa using pathEq.symm)
  | cons next others =>
      rw [List.intercalate_cons_cons, List.append_assoc, List.singleton_append] at pathEq
      exact .inr ⟨_, pathEq.symm⟩

/-- The ways in which a path starts, and what follows. -/
inductive Starts : Text → Text → Prop
  | root (body : Text) : Starts ['/'] body
  | here {body : Text} (apart : body = [] ∨ ∃ rest, body = '/' :: rest) : Starts ['.'] body
  | bare {body : Text} (noSlash : body.head? ≠ some '/')
      (noDot : (body.splitOn '/').head? ≠ some ['.']) : Starts [] body

/-- The component that a start stands for. -/
def startOf (start : Text) : List Component :=
  if start = ['/'] then [.root] else if start = ['.'] then [.here] else []

theorem lead_append (path : Path) : (lead path).1 ++ (lead path).2 = path := by
  fun_cases lead path <;> rfl

theorem starts_lead (path : Path) : Starts (lead path).1 (lead path).2 := by
  fun_cases lead path with
  | case1 rest => exact .root rest
  | case2 => exact .here (.inl rfl)
  | case3 rest => exact .here (.inr ⟨rest, rfl⟩)
  | case4 path noRoot noDot noDotSlash =>
      refine .bare ?_ ?_
      · intro headEq
        obtain ⟨rest, pathEq⟩ := List.head?_eq_some_iff.1 headEq
        exact noRoot rest pathEq
      · intro headEq
        obtain pathEq | ⟨rest, pathEq⟩ := eq_or_append_slash_of_head?_splitOn headEq
        · exact noDot pathEq
        · exact noDotSlash rest pathEq

theorem exists_starts (path : Path) :
    ∃ start body, lead path = (start, body) ∧ Starts start body ∧ start ++ body = path :=
  ⟨_, _, rfl, starts_lead path, lead_append path⟩

theorem Starts.components_eq {start body : Text} (starts : Starts start body) :
    components (start ++ body) = startOf start ++ named (body.splitOn '/') := by
  cases starts with
  | root =>
      rw [components, List.singleton_append, ← List.nil_append ('/' :: body),
        splitOn_append_cons, named_append]
      rfl
  | here apart =>
      obtain rfl | ⟨rest, rfl⟩ := apart
      · rfl
      · have dotFirst : ((['.'] ++ '/' :: rest).splitOn '/').head? = some ['.'] := by
          rw [head?_splitOn_append_slash]; rfl
        have opens : opening (['.'] ++ '/' :: rest) = [.here] := by
          rw [opening, if_neg (by simp), if_pos dotFirst]
        rw [components, opens, splitOn_append_cons, ← List.nil_append ('/' :: rest),
          splitOn_append_cons, named_append, named_append]
        rfl
  | bare noSlash noDot =>
      rw [List.nil_append, components, opening, if_neg noSlash, if_neg noDot]
      rfl

theorem Starts.cut {start front body : Text} (starts : Starts start body)
    (cut : front = [] ∨ ∃ rest, body = front ++ '/' :: rest) : Starts start front := by
  cases starts with
  | root => exact .root front
  | here apart =>
      obtain rfl | ⟨rest, rfl⟩ := cut
      · exact .here (.inl rfl)
      · cases front with
        | nil => exact .here (.inl rfl)
        | cons c front =>
            obtain empty | ⟨others, bodyEq⟩ := apart
            · exact absurd empty (by simp)
            · obtain ⟨rfl, -⟩ := List.cons.inj bodyEq
              exact .here (.inr ⟨front, rfl⟩)
  | bare noSlash noDot =>
      obtain rfl | ⟨rest, rfl⟩ := cut
      · exact .bare (by simp) (by simp)
      · rw [head?_splitOn_append_slash] at noDot
        refine .bare ?_ noDot
        cases front with
        | nil => simp
        | cons c front => exact noSlash

/-! ### Extent -/

-- Components may turn into others while a path grows: `.` into `..`, and both into a name.  What
-- never gets less is how many characters they take up.

/-- How many characters of a path make up a component. -/
def Component.extent : Component → Nat
  | .root => 1
  | .here => 1
  | .up => 2
  | .name text => text.length

/-- How many characters of a path make up components. -/
def extent : List Component → Nat
  | [] => 0
  | component :: rest => component.extent + extent rest

@[simp]
theorem extent_append (front rest : List Component) :
    extent (front ++ rest) = extent front + extent rest := by
  induction front with
  | nil => simp [extent]
  | cons component front ih => simp [extent, ih, Nat.add_assoc]

theorem extent_named_singleton (piece : Text) :
    extent (named [piece]) = if isComponent piece then piece.length else 0 := by
  rw [isComponent_eq_isSome, named_singleton, componentOf?]
  split
  · rfl
  · split
    · next up => subst up; rfl
    · simp [extent, Component.extent]

theorem extent_components_of_noSlash {path : Path} (noSlash : '/' ∉ path) :
    extent (components path) = path.length := by
  have noRoot : path.head? ≠ some '/' := fun headEq => noSlash (List.mem_of_head? headEq)
  rw [components, opening, if_neg noRoot, List.splitOn_eq_singleton noSlash, extent_append,
    extent_named_singleton]
  -- a dot is no component where it stands as a piece, but one at the start of a path
  by_cases dot : path = ['.']
  · subst dot; rfl
  · cases path with
    | nil => rfl
    | cons c rest => simp [dot, isComponent, extent]

theorem getLast?_splitOn_append_slash (front rest : Text) :
    ((front ++ '/' :: rest).splitOn '/').getLast? = (rest.splitOn '/').getLast? := by
  rw [splitOn_append_cons, List.getLast?_append_of_ne_nil _ (List.splitOn_ne_nil _ _)]

/-- A path ends in a component. -/
def EndsInComponent (path : Path) : Prop :=
  ∃ last ∈ (path.splitOn '/').getLast?, isComponent last

theorem endsInComponent_append_slash (front rest : Text) :
    EndsInComponent (front ++ '/' :: rest) ↔ EndsInComponent rest := by
  rw [EndsInComponent, getLast?_splitOn_append_slash, EndsInComponent]

theorem Starts.endsInComponent {start body : Text} (starts : Starts start body)
    (ends : EndsInComponent body) : EndsInComponent (start ++ body) := by
  cases starts with
  | root => exact (endsInComponent_append_slash [] body).2 ends
  | here apart =>
      obtain rfl | ⟨rest, rfl⟩ := apart
      · simp [EndsInComponent, isComponent] at ends
      · rw [endsInComponent_append_slash]
        exact (endsInComponent_append_slash [] rest).1 ends
  | bare => exact ends

theorem opening_append_slash (front rest other : Text) :
    opening (front ++ '/' :: rest) = opening (front ++ '/' :: other) := by
  rw [opening, opening, head?_splitOn_append_slash, head?_splitOn_append_slash]
  cases front <;> rfl

theorem opening_snoc {path : Path} {c : Char} (begun : path ≠ []) (slash : '/' ∈ path ++ [c]) :
    opening (path ++ [c]) = opening path := by
  by_cases isSlash : c = '/'
  · subst isSlash
    rw [opening, opening, head?_splitOn_append_slash, List.head?_append_of_ne_nil _ begun]
  · obtain ⟨front, rest, rfl⟩ := List.append_of_mem (a := '/') (l := path) (by
      simpa [Ne.symm isSlash] using slash)
    rw [List.append_assoc, List.cons_append, opening_append_slash]

theorem extent_named_snoc (text : Text) (c : Char) :
    extent (named (text.splitOn '/')) ≤ extent (named ((text ++ [c]).splitOn '/')) ∧
      (EndsInComponent (text ++ [c]) →
        extent (named (text.splitOn '/')) < extent (named ((text ++ [c]).splitOn '/'))) := by
  by_cases slash : c = '/'
  · subst slash
    rw [endsInComponent_append_slash, splitOn_append_cons, named_append, extent_append]
    exact ⟨Nat.le_add_right _ _, fun ends => by simp [EndsInComponent, isComponent] at ends⟩
  · obtain ⟨front, last, textEq, snocEq⟩ := exists_splitOn_snoc slash text
    rw [EndsInComponent, textEq, snocEq, named_append, named_append, extent_append,
      extent_append, extent_named_singleton, extent_named_singleton]
    have stays : isComponent last → isComponent (last ++ [c]) := by
      simp +contextual [isComponent, List.append_eq_singleton_iff]
    by_cases isLast : isComponent (last ++ [c])
    · rw [if_pos isLast, List.length_append, List.length_singleton]
      split <;> simp
    · rw [if_neg isLast, if_neg (mt stays isLast)]
      simp [isLast]

/-- A path that goes on has no less in its components, and more if it ends in one. -/
theorem extent_components_snoc (path : Path) (c : Char) :
    extent (components path) ≤ extent (components (path ++ [c])) ∧
      (path = [] ∨ EndsInComponent (path ++ [c]) →
        extent (components path) < extent (components (path ++ [c]))) := by
  by_cases begun : path = []
  · have more : extent (components []) < extent (components [c]) := by
      by_cases slash : c = '/'
      · subst slash
        decide
      · have noSlash : '/' ∉ [c] := by simpa using Ne.symm slash
        rw [extent_components_of_noSlash noSlash]
        exact Nat.zero_lt_one
    subst begun
    exact ⟨more.le, fun _ => more⟩
  · by_cases slash : '/' ∈ path ++ [c]
    · rw [components, components, opening_snoc begun slash, extent_append, extent_append]
      obtain ⟨noLess, more⟩ := extent_named_snoc path c
      exact ⟨Nat.add_le_add_left noLess _, fun ends =>
        Nat.add_lt_add_left (more (ends.resolve_left begun)) _⟩
    · rw [extent_components_of_noSlash slash,
        extent_components_of_noSlash (fun mem => slash (List.mem_append_left _ mem))]
      simp

theorem extent_components_le {front path : Path} (begins : front <+: path) :
    extent (components front) ≤ extent (components path) := by
  obtain ⟨rest, rfl⟩ := begins
  induction rest using List.reverseRecOn with
  | nil => rw [List.append_nil]
  | append_singleton rest c ih =>
      rw [← List.append_assoc]
      exact ih.trans (extent_components_snoc _ c).1

/-- A path that ends in a component has no shorter beginning with the same components. -/
theorem eq_of_components_eq {front path : Path} (ends : path.length ≤ 1 ∨ EndsInComponent path)
    (begins : front <+: path) (componentsEq : components front = components path) :
    front = path := by
  obtain rfl | ⟨init, c, rfl⟩ := path.eq_nil_or_concat'
  · exact List.prefix_nil.1 begins
  · obtain same | shorter := List.prefix_concat_iff.1 begins
    · exact same
    · have noMore := extent_components_le shorter
      have more := (extent_components_snoc init c).2 (ends.imp_left fun short => by
        simpa using short)
      rw [componentsEq] at noMore
      exact absurd more noMore.not_gt

/-! ### Children -/

theorem components_append_slash (front rest : Text) :
    components (front ++ '/' :: rest) =
      components (front ++ ['/']) ++ named (rest.splitOn '/') := by
  rw [components, components, opening_append_slash front rest [], splitOn_append_cons,
    splitOn_append_cons, named_append, named_append, List.append_assoc, List.append_assoc]
  rfl

/-- A name adds a component to a folder. -/
theorem components_child {folder : Path} {name : Text} (noSlash : '/' ∉ name)
    (isName : isComponent name) :
    components (child folder name) = components folder ++ (componentOf? name).toList := by
  have splitEq := List.splitOn_eq_singleton noSlash
  by_cases empty : folder = []
  · have noRoot : name.head? ≠ some '/' := fun headEq => noSlash (List.mem_of_head? headEq)
    have noDot : name ≠ ['.'] := by
      rintro rfl
      exact absurd isName (by decide)
    rw [child, if_pos (.inl empty), empty, List.nil_append, components, opening, splitEq,
      if_neg noRoot, if_neg (by simpa using noDot), named_singleton]
    rfl
  · by_cases closed : folder.getLast? = some '/'
    · obtain ⟨front, rfl⟩ := List.getLast?_eq_some_iff.1 closed
      rw [child, if_pos (.inr closed), List.append_assoc, List.singleton_append,
        components_append_slash, splitEq, named_singleton]
    · have sameComponents : components (folder ++ ['/']) = components folder := by
        rw [components, components, opening_snoc empty (by simp), splitOn_append_cons,
          named_append]
        exact congrArg _ (List.append_nil _)
      rw [child, if_neg (by simp [empty, closed]), components_append_slash, sameComponents,
        splitEq, named_singleton]

end Path

end Pinpoint
