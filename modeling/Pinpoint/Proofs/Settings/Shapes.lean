import Mathlib.Data.List.Nodup
import Pinpoint.Settings

/-!
# The shapes of settings

Settings are read back from every shape in which an editor may send them: an object or an
array, with everything in it or without what is not chosen, on its own or under the name of
the program.
-/

namespace Pinpoint

namespace Settings

open Json

/-! ### Shapes -/

/-- A path or nothing as a value. -/
def optionalPath : Option Text → Json
  | some path => .ofText path
  | none => .null

/-- The parts of settings under their names, in the order in which an array has them. -/
def parts (settings : Settings) : List (String × Json) :=
  [("executable", .ofText settings.executable),
    ("extraArgs", .arr (settings.extraArgs.map .ofText)),
    ("lintOnChange", .bool settings.lintOnChange),
    ("configPath", optionalPath settings.configPath)]

/-- The values of the parts, in order. -/
def values (settings : Settings) : List Json :=
  settings.parts.map Prod.snd

/-- The name under which all settings may stand. -/
def programName : String :=
  "protolens"

/-- The values that hold settings.  In an object, each part is given once, or not at all if
it is as in the settings where nothing is chosen, and members of other names do not matter.
From an array, values at the end may be left out in the same way. -/
inductive Holds : Settings → Json → Prop
  | null : Holds initial .null
  | object {settings : Settings} {members : List (Option Text × Json)}
      (given : ∀ part ∈ settings.parts, valuesOf part.1 members = [part.2] ∨
        part ∈ initial.parts ∧ valuesOf part.1 members = [])
      (bare : valuesOf programName members = []) : Holds settings (.obj members)
  | array {settings : Settings} {items dropped : List Json}
      (whole : items ++ dropped = settings.values) (default : dropped <:+ initial.values) :
      Holds settings (.arr items)

/-- The values as which settings may be sent.  Under the name of the program, all other
members are ignored. -/
inductive Presents (settings : Settings) : Json → Prop
  | bare {json : Json} (holds : Holds settings json) : Presents settings json
  | wrapped {json : Json} {members : List (Option Text × Json)} (holds : Holds settings json)
      (only : valuesOf programName members = [json]) : Presents settings (.obj members)

/-! ### Parts -/

/-- A reader that reads back what is written. -/
def ReadsBack {α : Type} (read : Json → Except SettingsError α) (write : α → Json) : Prop :=
  ∀ value, read (write value) = .ok value

theorem readsBack_path : ReadsBack readPath .ofText :=
  fun _ => rfl

theorem readsBack_optionalPath : ReadsBack readOptionalPath optionalPath
  | some _ => rfl
  | none => rfl

theorem readsBack_arguments :
    ReadsBack readArguments fun arguments => .arr (arguments.map .ofText) := by
  intro arguments
  rw [readArguments]
  induction arguments with
  | nil => rfl
  | cons argument arguments ih =>
      rw [List.map_cons, List.mapM_cons, ih]
      rfl

theorem readsBack_flag : ReadsBack readFlag .bool :=
  fun _ => rfl

/-- A value that is found, or that need not be, since it is the default. -/
def Chosen (value default : Json) (found : Option Json) : Prop :=
  found = some value ∨ value = default ∧ found = none

theorem readOr_of_chosen {α : Type} {read : Json → Except SettingsError α} {write : α → Json}
    (readsBack : ReadsBack read write) {value fallback : α} {found : Option Json}
    (chosen : Chosen (write value) (write fallback) found) :
    readOr read fallback found = .ok value := by
  rcases chosen with rfl | ⟨same, rfl⟩
  · exact readsBack value
  · have readsFallback := readsBack value
    rw [same, readsBack fallback] at readsFallback
    exact readsFallback

/-! ### Objects -/

theorem get?_of_only {name : String} {members : List (Option Text × Json)} {json : Json}
    (only : valuesOf name members = [json]) : (obj members).get? name = some json := by
  rw [get?, only]
  rfl

theorem get?_of_absent {name : String} {members : List (Option Text × Json)}
    (absent : valuesOf name members = []) : (obj members).get? name = none := by
  rw [get?, absent]
  rfl

theorem value_eq_of_mem_parts {settings : Settings} {name : String} {value other : Json}
    (isPart : (name, value) ∈ settings.parts) (otherIsPart : (name, other) ∈ settings.parts) :
    value = other := by
  have distinct : (settings.parts.map Prod.fst).Nodup := by
    simp [parts]
  exact congrArg Prod.snd (List.inj_on_of_nodup_map distinct isPart otherIsPart rfl)

theorem ofMembers_of_given {settings : Settings} {members : List (Option Text × Json)}
    (given : ∀ part ∈ settings.parts, valuesOf part.1 members = [part.2] ∨
      part ∈ initial.parts ∧ valuesOf part.1 members = []) :
    ofMembers (.obj members) = .ok settings := by
  have chosen : ∀ {name value default}, (name, value) ∈ settings.parts →
      (name, default) ∈ initial.parts → Chosen value default ((obj members).get? name) := by
    intro name value default isPart isDefault
    rcases given _ isPart with only | ⟨asInitial, absent⟩
    · exact Or.inl (get?_of_only only)
    · exact Or.inr ⟨value_eq_of_mem_parts asInitial isDefault, get?_of_absent absent⟩
  have executable : Chosen (.ofText settings.executable) (.ofText initial.executable)
      ((obj members).get? "executable") := chosen (by simp [parts]) (by simp [parts])
  have extraArgs : Chosen (.arr (settings.extraArgs.map .ofText))
      (.arr (initial.extraArgs.map .ofText)) ((obj members).get? "extraArgs") :=
    chosen (by simp [parts]) (by simp [parts])
  have lintOnChange : Chosen (.bool settings.lintOnChange) (.bool initial.lintOnChange)
      ((obj members).get? "lintOnChange") := chosen (by simp [parts]) (by simp [parts])
  have configPath : Chosen (optionalPath settings.configPath) (optionalPath initial.configPath)
      ((obj members).get? "configPath") := chosen (by simp [parts]) (by simp [parts])
  rw [ofMembers, readOr_of_chosen readsBack_optionalPath configPath,
    readOr_of_chosen readsBack_path executable, readOr_of_chosen readsBack_arguments extraArgs,
    readOr_of_chosen readsBack_flag lintOnChange]
  rfl

/-! ### Arrays -/

theorem chosen_of_dropped {items dropped whole defaults : List Json}
    (wholeEq : items ++ dropped = whole) (suffix : dropped <:+ defaults)
    (lengthEq : whole.length = defaults.length) {i : Nat} {value default : Json}
    (valueEq : whole[i]? = some value) (defaultEq : defaults[i]? = some default) :
    Chosen value default items[i]? := by
  subst wholeEq
  obtain ⟨front, rfl⟩ := suffix
  have sameLength : items.length = front.length := by
    simp only [List.length_append] at lengthEq
    omega
  by_cases within : i < items.length
  · rw [List.getElem?_append_left within] at valueEq
    exact Or.inl valueEq
  · have behind : items.length ≤ i := by omega
    rw [List.getElem?_append_right behind] at valueEq
    rw [List.getElem?_append_right (sameLength ▸ behind), ← sameLength, valueEq] at defaultEq
    exact Or.inr ⟨Option.some.inj defaultEq, List.getElem?_eq_none behind⟩

theorem ofItems_of_dropped {settings : Settings} {items dropped : List Json}
    (whole : items ++ dropped = settings.values) (default : dropped <:+ initial.values) :
    ofItems items = .ok settings := by
  have chosen : ∀ {i value default}, settings.values[i]? = some value →
      initial.values[i]? = some default → Chosen value default items[i]? :=
    chosen_of_dropped whole default rfl
  have short : ¬ 4 < items.length := by
    have lengthEq : items.length + dropped.length = 4 := by
      rw [← List.length_append, whole]
      rfl
    omega
  rw [ofItems, readOr_of_chosen readsBack_path (chosen rfl rfl),
    readOr_of_chosen readsBack_arguments (chosen rfl rfl),
    readOr_of_chosen readsBack_flag (chosen rfl rfl),
    readOr_of_chosen readsBack_optionalPath (chosen rfl rfl)]
  exact if_neg short

/-! ### Wrapped and bare -/

theorem ofJson_of_bare {json : Json} (bare : json.get? programName = none) :
    ofJson json = ofValue json := by
  have bare' : json.get? "protolens" = none := bare
  rw [ofJson, bare', Option.getD_none]

theorem ofJson_of_wrapped {json : Json} {members : List (Option Text × Json)}
    (only : valuesOf programName members = [json]) : ofJson (.obj members) = ofValue json := by
  have wrapped : (obj members).get? "protolens" = some json := get?_of_only only
  rw [ofJson, wrapped, Option.getD_some]

theorem Holds.ofValue_eq {settings : Settings} {json : Json} (holds : Holds settings json) :
    ofValue json = .ok settings := by
  cases holds with
  | null => rfl
  | object given bare => exact ofMembers_of_given given
  | array whole default => exact ofItems_of_dropped whole default

theorem Holds.bare {settings : Settings} {json : Json} (holds : Holds settings json) :
    json.get? programName = none := by
  cases holds with
  | null => rfl
  | object given bare => exact get?_of_absent bare
  | array whole default => rfl

/-- Settings are read back from every shape, and what stands under the name of the program
is read as it would be on its own. -/
theorem ofJson_presented :
    (∀ settings json, Presents settings json → ofJson json = .ok settings) ∧
    (∀ json members, json.get? programName = none → valuesOf programName members = [json] →
      ofJson (.obj members) = ofJson json) := by
  constructor
  · intro settings json presents
    cases presents with
    | bare holds => rw [ofJson_of_bare holds.bare, holds.ofValue_eq]
    | wrapped holds only => rw [ofJson_of_wrapped only, holds.ofValue_eq]
  · intro json members bare only
    rw [ofJson_of_bare bare, ofJson_of_wrapped only]

/-- Settings in which a linter is chosen, and not to lint on every change. -/
def quietSettings : Settings :=
  ⟨"/opt/bin/protolint".toList, [], false, none⟩

/-- An object of which two members are left out and one is unknown. -/
def quietObject : Json :=
  .obj [member "lintOnChange" (.bool false), member "color" (.nat 1),
    member "executable" (.ofText "/opt/bin/protolint".toList)]

theorem holds_quietObject : Holds quietSettings quietObject := by
  refine .object ?_ rfl
  simp only [parts, List.forall_mem_cons]
  exact ⟨Or.inl rfl, Or.inr ⟨.tail _ (.head _), rfl⟩, Or.inl rfl,
    Or.inr ⟨.tail _ (.tail _ (.tail _ (.head _))), rfl⟩, nofun⟩

/-- The object under the name of the program and next to a member that would be refused, an
array without its last value, and a value that is refused on its own and under the name. -/
theorem ofJson_presented_quiet :
    ofJson (.obj [member "executable" .null, member "protolens" quietObject]) =
        .ok quietSettings ∧
      ofJson (.arr [.ofText "/opt/bin/protolint".toList, .arr [], .bool false]) =
        .ok quietSettings ∧
      ofJson (.obj [member "protolens" (.nat 1)]) = ofJson (.nat 1) := by
  have array : Holds quietSettings
      (.arr [.ofText "/opt/bin/protolint".toList, .arr [], .bool false]) :=
    @Holds.array quietSettings _ [.null] rfl
      ⟨[.ofText "protolint".toList, .arr [], .bool true], rfl⟩
  exact ⟨ofJson_presented.1 _ _ (.wrapped holds_quietObject rfl),
    ofJson_presented.1 _ _ (.bare array), ofJson_presented.2 _ _ rfl rfl⟩

end Settings

end Pinpoint
