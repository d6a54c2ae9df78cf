import Pinpoint.Proofs.Lookup.Seek

/-!
# Tasks on a line

A task that runs on a line chooses from the matches there as it would from all
the matches that follow, unless there are none, or there is only a cardinality.
In that case the choice is left to the lines behind.
-/

namespace Pinpoint

namespace Line

theorem limited_one {α : Type} (found : List α) : limited 1 found = found.take 1 := rfl

theorem limited_two {α : Type} (found : List α) : limited 2 found = found.take 2 := rfl

end Line

namespace Task

/-- A task passes no cardinality on the way to its token, unless it looks for a field type
and meets the first one. -/
inductive PassesFew (task : Task) (cardinality : Bool) : List Match → Prop
  | none : PassesFew task cardinality []
  | first (found : Match) (isFieldType : task = fieldType) (unmet : cardinality = false) :
      PassesFew task cardinality [found]

/-- What a task reports on a line where `found` are the matches of its pattern, and
what it means for the choice from these and further matches. -/
inductive Settles (task : Task) (cardinality : Bool) (found : List Match) :
    Except LookupError Resolved → Prop
  | missing (kind : TokenKind) (none : found = []) :
      Settles task cardinality found (.error (.notFound kind))
  | refused {error : LookupError} (other : ∀ kind, error ≠ .notFound kind)
      (chosen : ∀ further, task.choose cardinality (found ++ further) = .error error) :
      Settles task cardinality found (.error error)
  | parked (first : Match) (isFieldType : task = fieldType) (unmet : cardinality = false)
      (foundEq : found = [first])
      (chosen : ∀ further,
        task.choose cardinality (found ++ further) = task.choose true further) :
      Settles task cardinality found (.ok ⟨[(.fieldCardinality, first)], false⟩)
  | settled (passed : List Match) (token : Match) (others : List Match)
      (few : task.PassesFew cardinality passed)
      (foundEq : found = passed ++ token :: others)
      (chosen : ∀ further, task.choose cardinality (found ++ further) = .ok (some token)) :
      Settles task cardinality found
        (.ok ⟨passed.map (TokenKind.fieldCardinality, ·) ++ [(task.kind, token)], true⟩)

theorem settles_single (task : Task) (cardinality : Bool)
    (choose_eq : ∀ found, task.choose cardinality found = .ok found.head?)
    (found : List Match) :
    task.Settles cardinality found (single task.kind found.head?) := by
  cases found with
  | nil => exact .missing _ rfl
  | cons token others => exact .settled [] token others .none rfl fun further => choose_eq _

theorem settles_acceptFieldType_true {cardinality : Bool} {passed : List Match}
    (few : fieldType.PassesFew cardinality passed) (token : Match) (others : List Match)
    (chosen : ∀ further, chooseFieldType cardinality (passed ++ token :: others ++ further) =
      chooseFieldType true (token :: others ++ further)) :
    fieldType.Settles cardinality (passed ++ token :: others)
      (acceptFieldType true (passed.map (TokenKind.fieldCardinality, ·)) token) := by
  rw [acceptFieldType, if_pos rfl]
  split
  · rename_i group
    refine .refused (by simp) fun further => ?_
    rw [choose, chosen, List.cons_append, chooseFieldType, if_pos group]
  · rename_i noGroup
    refine .settled passed token others few rfl fun further => ?_
    rw [choose, chosen, List.cons_append, chooseFieldType, if_neg noGroup]

theorem settles_acceptFieldType_false {token : Match}
    (noCardinality : ¬ Vocabulary.cardinalities.contains token.text = true)
    (others : List Match) :
    fieldType.Settles false (token :: others) (acceptFieldType false [] token) := by
  rw [acceptFieldType, if_neg (by decide)]
  split
  · rename_i refused
    refine .refused (by simp) fun further => ?_
    rw [choose, List.cons_append, chooseFieldType, if_neg noCardinality, if_pos refused]
  · rename_i accepted
    refine .settled [] token others .none rfl fun further => ?_
    rw [choose, List.cons_append, chooseFieldType, if_neg noCardinality, if_neg accepted]

theorem settles_resolveFieldType {input : TaskInput} {tokens : TokenMap} {found : List Match}
    (finds : ∀ limit, input.find Vocabulary.fieldTypeCandidate limit =
      Line.limited limit found) :
    fieldType.Settles (tokens.contains .fieldCardinality) found
      (resolveFieldType input tokens) := by
  rw [resolveFieldType, finds, finds, Line.limited_one, Line.limited_two]
  cases tokens.contains .fieldCardinality with
  | true =>
      cases found with
      | nil => exact .missing _ rfl
      | cons token others =>
          exact settles_acceptFieldType_true .none token others fun further => rfl
  | false =>
      rw [if_neg (by decide)]
      cases found with
      | nil => exact .missing _ rfl
      | cons first others =>
          rw [List.take_succ_cons]
          by_cases isCardinality : Vocabulary.cardinalities.contains first.text = true
          · simp only [if_pos isCardinality]
            have chosen : ∀ further, chooseFieldType false (first :: others ++ further) =
                chooseFieldType true (others ++ further) := fun further => by
              rw [List.cons_append, chooseFieldType, if_pos isCardinality]
            cases others with
            | nil => exact .parked first rfl rfl rfl chosen
            | cons second others =>
                exact settles_acceptFieldType_true (.first first rfl rfl) second others chosen
          · simp only [if_neg isCardinality]
            exact settles_acceptFieldType_false isCardinality others

theorem settles_resolve (task : Task) {input : TaskInput} {tokens : TokenMap}
    {found : List Match}
    (finds : ∀ limit, input.find (task.patternFor input.search) limit =
      Line.limited limit found) :
    task.Settles (tokens.contains .fieldCardinality) found (task.resolve input tokens) := by
  have head_eq : (input.find (task.patternFor input.search) 1).head? = found.head? := by
    rw [finds, Line.limited_one, List.head?_take, if_neg (by decide)]
  cases task with
  | fieldType => exact settles_resolveFieldType finds
  | keyword kind =>
      have settles := settles_single (keyword kind) (tokens.contains .fieldCardinality)
        (fun found => rfl) found
      rwa [← head_eq] at settles
  | name kind dotted =>
      have settles := settles_single (name kind dotted) (tokens.contains .fieldCardinality)
        (fun found => rfl) found
      rwa [← head_eq] at settles
  | enumValueName =>
      rw [resolve, TaskInput.first?]
      rw [patternFor] at head_eq
      rw [head_eq]
      cases found with
      | nil => exact .missing _ rfl
      | cons token others =>
          simp only [List.head?_cons]
          split
          · rename_i refused
            refine .refused (by simp) fun further => ?_
            rw [choose, List.cons_append, chooseEnumValueName, if_pos refused]
          · rename_i accepted
            refine .settled [] token others .none rfl fun further => ?_
            rw [choose, List.cons_append, chooseEnumValueName, if_neg accepted]

end Task

end Pinpoint
