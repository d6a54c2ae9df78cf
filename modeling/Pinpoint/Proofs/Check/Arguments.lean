import Mathlib.Data.List.Basic
import Pinpoint.Check

/-!
# The meaning of the arguments

The arguments are taken in one by one.  The outcome can be told from the whole list: the
first unknown option is refused, the last value of each option counts, and everything else
is a file, in the order given.
-/

namespace Pinpoint

namespace Check

/-- The option that chooses the linter. -/
def linterOption : Text :=
  "--protolint=".toList

/-- The option that chooses the configuration. -/
def configOption : Text :=
  "--config=".toList

/-- The value that the last argument with an option gives it. -/
def lastValue? (option : Text) (arguments : List Text) : Option Text :=
  (arguments.filterMap (·.dropPrefix? option)).getLast?

/-- An argument that starts as an option, but is none. -/
def isUnknown (argument : Text) : Bool :=
  argument.head? == some '-' && !linterOption.isPrefixOf argument &&
    !configOption.isPrefixOf argument

/-- The arguments that are no options. -/
def filesOf (arguments : List Text) : List Path :=
  arguments.filter (·.head? != some '-')

/-- Options with the values that some arguments give them. -/
def Options.withArguments (options : Options) (arguments : List Text) : Options where
  settings :=
    { options.settings with
      executable := (lastValue? linterOption arguments).getD options.settings.executable
      configPath := (lastValue? configOption arguments).or options.settings.configPath }
  files := options.files ++ filesOf arguments

theorem after?_eq_dropPrefix? (start : String) (text : Text) :
    after? start text = text.dropPrefix? start.toList := by
  refine Option.ext fun rest => ?_
  rw [List.dropPrefix?_eq_some_iff, after?]
  constructor
  · intro found
    split at found
    · rename_i isPrefix
      obtain ⟨others, rfl⟩ := List.isPrefixOf_iff_prefix.mp isPrefix
      rw [List.drop_left] at found
      exact ⟨_, by rw [Option.some.inj found], BEq.rfl⟩
    · cases found
  · rintro ⟨front, rfl, same⟩
    obtain rfl := eq_of_beq same
    rw [if_pos (List.isPrefixOf_iff_prefix.mpr (List.prefix_append _ _)), List.drop_left]

theorem after?_linter (argument : Text) :
    after? "--protolint=" argument = argument.dropPrefix? linterOption :=
  after?_eq_dropPrefix? _ argument

theorem after?_config (argument : Text) :
    after? "--config=" argument = argument.dropPrefix? configOption :=
  after?_eq_dropPrefix? _ argument

theorem eq_append_of_dropPrefix? {option argument value : Text}
    (dropped : argument.dropPrefix? option = some value) : argument = option ++ value := by
  obtain ⟨front, argumentEq, same⟩ := List.dropPrefix?_eq_some_iff.mp dropped
  rw [argumentEq, eq_of_beq same]

theorem dropPrefix?_eq_none_iff {option argument : Text} :
    argument.dropPrefix? option = none ↔ option.isPrefixOf argument = false := by
  rw [Option.eq_none_iff_forall_ne_some, ← Bool.not_eq_true, List.isPrefixOf_iff_prefix]
  simp only [ne_eq, List.dropPrefix?_eq_some_iff, beq_iff_eq]
  constructor
  · rintro none ⟨rest, rfl⟩
    exact none rest ⟨option, rfl, rfl⟩
  · rintro none rest ⟨front, rfl, rfl⟩
    exact none ⟨rest, rfl⟩

theorem lastValue?_cons (option argument : Text) (arguments : List Text) :
    lastValue? option (argument :: arguments) =
      (lastValue? option arguments).or (argument.dropPrefix? option) := by
  rw [lastValue?, lastValue?, List.filterMap_cons]
  cases argument.dropPrefix? option with
  | none => simp
  | some value =>
      rw [List.getLast?_cons]
      cases (arguments.filterMap (·.dropPrefix? option)).getLast? <;> rfl

theorem lastValue?_singleton (option argument : Text) :
    lastValue? option [argument] = argument.dropPrefix? option := by
  rw [lastValue?_cons]
  rfl

theorem filesOf_cons (argument : Text) (arguments : List Text) :
    filesOf (argument :: arguments) = filesOf [argument] ++ filesOf arguments := by
  rw [filesOf, filesOf, filesOf, ← List.filter_append, List.singleton_append]

section OneArgument

variable {options : Options} {argument : Text}

theorem withArguments_nil : options.withArguments [] = options := by
  simp [Options.withArguments, lastValue?, filesOf]

/-- The arguments behind the first one go on from what it leaves. -/
theorem withArguments_cons (arguments : List Text) :
    options.withArguments (argument :: arguments) =
      (options.withArguments [argument]).withArguments arguments := by
  have executableEq : ∀ (last first : Option Text) (given : Text),
      (last.or first).getD given = last.getD (first.getD given) := by
    intro last first given
    cases last <;> rfl
  simp only [Options.withArguments, lastValue?_singleton]
  rw [lastValue?_cons, lastValue?_cons, executableEq, Option.or_assoc, filesOf_cons,
    List.append_assoc]

theorem addArgument_of_unknown (unknown : isUnknown argument = true) :
    addArgument options argument = .error (.unknownOption argument) := by
  simp only [isUnknown, Bool.and_eq_true, beq_iff_eq, Bool.not_eq_true'] at unknown
  obtain ⟨⟨dash, noLinter⟩, noConfig⟩ := unknown
  rw [addArgument, after?_linter, after?_config, dropPrefix?_eq_none_iff.mpr noLinter,
    dropPrefix?_eq_none_iff.mpr noConfig]
  exact if_pos dash

theorem addArgument_of_known (known : isUnknown argument = false) :
    addArgument options argument = .ok (options.withArguments [argument]) := by
  rw [addArgument, after?_linter, after?_config, Options.withArguments, lastValue?_singleton,
    lastValue?_singleton]
  cases linterEq : argument.dropPrefix? linterOption with
  | some executable =>
      have noConfig : argument.dropPrefix? configOption = none := by
        rw [eq_append_of_dropPrefix? linterEq]
        rfl
      have noFile : filesOf [argument] = [] := by
        rw [eq_append_of_dropPrefix? linterEq]
        rfl
      rw [noConfig, noFile, List.append_nil]
      rfl
  | none =>
      cases configEq : argument.dropPrefix? configOption with
      | some path =>
          have noFile : filesOf [argument] = [] := by
            rw [eq_append_of_dropPrefix? configEq]
            rfl
          rw [noFile, List.append_nil]
          rfl
      | none =>
          have noDash : argument.head? ≠ some '-' := by
            intro dash
            rw [isUnknown, dash, dropPrefix?_eq_none_iff.mp linterEq,
              dropPrefix?_eq_none_iff.mp configEq] at known
            cases known
          simp [noDash, filesOf]

end OneArgument

theorem foldlM_addArgument (options : Options) (arguments : List Text) :
    arguments.foldlM addArgument options =
      match arguments.find? isUnknown with
      | some option => .error (.unknownOption option)
      | none => .ok (options.withArguments arguments) := by
  induction arguments generalizing options with
  | nil => rw [withArguments_nil]; rfl
  | cons argument arguments ih =>
      rw [List.foldlM_cons]
      cases unknown : isUnknown argument with
      | true => 
          rw [addArgument_of_unknown unknown, List.find?_cons_of_pos unknown]
          rfl
      | false =>
          rw [addArgument_of_known unknown, List.find?_cons_of_neg (by simp [unknown]),
            withArguments_cons arguments]
          exact ih _

/-- The meaning of the arguments, or why they have none. -/
theorem parseArguments_eq (arguments : List Text) :
    parseArguments arguments =
      match arguments.find? isUnknown with
      | some option => .error (.unknownOption option)
      | none =>
          if filesOf arguments = [] then .error .missingFile
          else .ok (Options.withArguments ⟨.initial, []⟩ arguments) := by
  rw [parseArguments, foldlM_addArgument]
  cases arguments.find? isUnknown with
  | some option => rfl
  | none => 
      simp only [Options.withArguments, List.nil_append, List.isEmpty_iff]

end Check

end Pinpoint
