import Pinpoint.Linter.Config
import Pinpoint.Proofs.Path.Enclosing

/-!
# The nearest configuration

Without a chosen folder, the configuration of a file is looked for in the folders around it,
nearest first.  Configurations in farther folders make no difference.
-/

namespace Pinpoint

namespace Config

open Pinpoint.Path

variable {isFile : Path → Bool} {settings : Settings} {count : Nat} {folder parent path : Path}
  {found : Option Path}

/-- A folder has a file with one of the names of configuration files. -/
def Configured (isFile : Path → Bool) (folder : Path) : Prop :=
  ∃ name ∈ fileNames, isFile (child folder name.toList)

/-- A folder around a path has a configuration, and no folder that is nearer has one. -/
structure IsNearest (isFile : Path → Bool) (count : Nat) (folder path : Path) : Prop where
  encloses : Encloses count folder path
  configured : Configured isFile folder
  unconfigured : ∀ nearer other, count < nearer → Encloses nearer other path →
    ¬ Configured isFile other

/-- What can be found around a path: the nearest configured folder, or nothing if no folder
is configured. -/
inductive Finds (isFile : Path → Bool) (path : Path) : Option Path → Prop
  | nearest {count : Nat} {folder : Path} (isNearest : IsNearest isFile count folder path) :
      Finds isFile path (some folder)
  | nothing (unconfigured : ∀ count folder, Encloses count folder path →
      ¬ Configured isFile folder) : Finds isFile path none

/-- A file of a configuration in a folder around a path that is farther than others. -/
def IsFarther (count : Nat) (path file : Path) : Prop :=
  ∃ far folder, far < count ∧ Encloses far folder path ∧
    ∃ name ∈ fileNames, file = child folder name.toList

theorem inFolder_iff : inFolder isFile folder = true ↔ Configured isFile folder :=
  List.any_eq_true

/-! ### Search -/

theorem discover_eq (isFile : Path → Bool) (start : Path) :
    discover isFile start =
      if inFolder isFile start then some start else (parent? start).bind (discover isFile) := by
  rw [discover, ancestors_eq, List.find?_cons]
  cases inFolder isFile start with
  | true => rfl
  | false => cases parent? start <;> rfl

theorem IsNearest.unique {other : Nat} {second : Path}
    (isNearest : IsNearest isFile count folder path)
    (same : IsNearest isFile other second path) : folder = second := by
  obtain less | rfl | more := lt_trichotomy count other
  · exact absurd same.configured (isNearest.unconfigured _ _ less same.encloses)
  · exact isNearest.encloses.unique same.encloses
  · exact absurd isNearest.configured (same.unconfigured _ _ more isNearest.encloses)

theorem Finds.unique {other : Option Path} (finds : Finds isFile path found)
    (same : Finds isFile path other) : found = other := by
  cases finds with
  | nearest isNearest =>
      cases same with
      | nearest second => rw [isNearest.unique second]
      | nothing unconfigured =>
          exact absurd isNearest.configured (unconfigured _ _ isNearest.encloses)
  | nothing unconfigured =>
      cases same with
      | nearest second => exact absurd second.configured (unconfigured _ _ second.encloses)
      | nothing => rfl

theorem finds_none (parentEq : parent? path = none) : Finds isFile path none :=
  .nothing fun _ _ encloses => absurd encloses (not_encloses_of_parent?_eq_none parentEq)

theorem finds_parent (parentEq : parent? path = some parent)
    (configured : Configured isFile parent) : Finds isFile path (some parent) := by
  obtain ⟨count, lengthEq, encloses⟩ := exists_encloses_of_parent? parentEq
  refine .nearest ⟨encloses, configured, fun nearer other less inside => ?_⟩
  have fewer := inside.fewer
  omega

/-- What is found around a parent without a configuration is found around the path. -/
theorem Finds.of_parent (parentEq : parent? path = some parent)
    (bare : ¬ Configured isFile parent) (finds : Finds isFile parent found) :
    Finds isFile path found := by
  cases finds with
  | nearest isNearest =>
      refine .nearest ⟨(encloses_iff_of_parent? parentEq).2 (.inr isNearest.encloses),
        isNearest.configured, fun nearer other less inside => ?_⟩
      obtain ⟨-, rfl⟩ | around := (encloses_iff_of_parent? parentEq).1 inside
      · exact bare
      · exact isNearest.unconfigured _ _ less around
  | nothing unconfigured =>
      refine .nothing fun count folder inside => ?_
      obtain ⟨-, rfl⟩ | around := (encloses_iff_of_parent? parentEq).1 inside
      · exact bare
      · exact unconfigured _ _ around

/-- The search goes from parent to parent until one is configured. -/
theorem finds_bind_discover (isFile : Path → Bool) (path : Path) :
    Finds isFile path ((parent? path).bind (discover isFile)) := by
  induction lengthEq : path.length using Nat.strong_induction_on generalizing path with
  | h length ih =>
      cases parentEq : parent? path with
      | none => exact finds_none parentEq
      | some parent =>
          rw [Option.bind_some, discover_eq]
          by_cases configured : inFolder isFile parent
          · rw [if_pos configured]
            exact finds_parent parentEq (inFolder_iff.1 configured)
          · rw [if_neg configured]
            exact .of_parent parentEq (mt inFolder_iff.2 configured)
              (ih _ (lengthEq ▸ length_lt_of_parent? parentEq) parent rfl)

theorem folderFor_eq_iff_finds (unset : settings.configPath = none) :
    folderFor isFile settings path = found ↔ Finds isFile path found := by
  have finds := finds_bind_discover isFile path
  rw [folderFor, unset]
  exact ⟨fun foundEq => foundEq ▸ finds, finds.unique⟩

/-! ### Farther configurations -/

theorem noSlash_and_isComponent_of_mem_fileNames :
    ∀ name ∈ fileNames, '/' ∉ name.toList ∧ isComponent name.toList := by
  decide

theorem length_components_child {name : String} (mem : name ∈ fileNames) :
    (components (child folder name.toList)).length = (components folder).length + 1 := by
  obtain ⟨noSlash, isName⟩ := noSlash_and_isComponent_of_mem_fileNames name mem
  rw [components_child noSlash isName, List.length_append, Option.length_toList,
    ← isComponent_eq_isSome, isName]
  rfl

/-- The files of a configuration are different on different levels. -/
theorem not_isFarther {near : Nat} {name : String} (noFarther : count ≤ near)
    (encloses : Encloses near folder path) (mem : name ∈ fileNames) :
    ¬ IsFarther count path (child folder name.toList) := by
  rintro ⟨far, other, less, around, second, secondMem, fileEq⟩
  have lengthEq := congrArg (fun file => (components file).length) fileEq
  simp only [length_components_child mem, length_components_child secondMem,
    encloses.length_components, around.length_components] at lengthEq
  omega

theorem configured_iff_of_farther {changed : Path → Bool} {near : Nat} (noFarther : count ≤ near)
    (encloses : Encloses near folder path)
    (farther : ∀ file, changed file ≠ isFile file → IsFarther count path file) :
    Configured changed folder ↔ Configured isFile folder := by
  refine exists_congr fun name => and_congr_right fun mem => ?_
  have same : changed (child folder name.toList) = isFile (child folder name.toList) :=
    not_not.1 (mt (farther _) (not_isFarther noFarther encloses mem))
  rw [same]

/-- Without a chosen folder, the configuration of a file comes from the nearest folder around
it that has one, if there are folders around it and any has one.  What is in farther folders
makes no difference. -/
theorem folderFor_nearest (isFile : Path → Bool) (settings : Settings) (path : Path)
    (unset : settings.configPath = none) :
    (∀ folder, folderFor isFile settings path = some folder ↔
        ∃ count, IsNearest isFile count folder path) ∧
      (folderFor isFile settings path = none ↔ parent? path = none ∨
        ∀ count folder, Encloses count folder path → ¬ Configured isFile folder) ∧
      ∀ count folder changed, IsNearest isFile count folder path →
        (∀ file, changed file ≠ isFile file → IsFarther count path file) →
          folderFor changed settings path = some folder := by
  refine ⟨fun folder => ?_, ?_, fun count folder changed isNearest farther => ?_⟩
  · rw [folderFor_eq_iff_finds unset]
    exact ⟨fun | .nearest isNearest => ⟨_, isNearest⟩, fun ⟨_, isNearest⟩ => .nearest isNearest⟩
  · rw [folderFor_eq_iff_finds unset]
    constructor
    · rintro (_ | unconfigured)
      exact .inr unconfigured
    · rintro (noParent | unconfigured)
      · exact finds_none noParent
      · exact .nothing unconfigured
  · rw [folderFor_eq_iff_finds unset]
    refine .nearest ⟨isNearest.encloses, ?_, fun nearer other less inside => ?_⟩
    · exact (configured_iff_of_farther le_rfl isNearest.encloses farther).2 isNearest.configured
    · exact mt (configured_iff_of_farther less.le inside farther).1
        (isNearest.unconfigured nearer other less inside)

/-- A configuration further up the same path, at its very start, is not used. -/
theorem folderFor_nearest_of_two :
    Settings.initial.configPath = none ∧
      ∃ count, IsNearest (· == "api/protolint.yml".toList) count "api".toList
          "api/v1/a.proto".toList ∧
        folderFor (fun file => file == "api/protolint.yml".toList || file == "protolint.yml".toList)
          Settings.initial "api/v1/a.proto".toList = some "api".toList := by
  obtain ⟨nearestIff, -, unchanged⟩ := folderFor_nearest (· == "api/protolint.yml".toList)
    Settings.initial "api/v1/a.proto".toList rfl
  obtain ⟨count, isNearest⟩ := (nearestIff "api".toList).1 (by decide)
  refine ⟨rfl, count, isNearest, unchanged count _ _ isNearest fun file differs => ?_⟩
  obtain rfl : 1 = count := isNearest.encloses.length_components
  have atStart : Encloses 0 [] "api/v1/a.proto".toList :=
    ⟨by decide, rfl, List.nil_prefix, fun _ _ _ => List.nil_prefix, by decide⟩
  refine ⟨0, [], Nat.zero_lt_one, atStart, "protolint.yml", by decide, ?_⟩
  have childEq : child [] "protolint.yml".toList = "protolint.yml".toList := if_pos (.inl rfl)
  rw [childEq]
  by_contra other
  rw [beq_eq_false_iff_ne.2 other, Bool.or_false] at differs
  exact differs rfl

end Config

end Pinpoint
