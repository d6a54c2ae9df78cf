import Pinpoint.Proofs.Lookup.Declarations

/-!
# Locating field names

The name of a field stands behind its type.  The type is the first candidate in the
code behind the start, or the second one if the first is a cardinality, whether or
not the two are on one line.
-/

namespace Pinpoint

namespace Code

open Vocabulary

/-- The name behind a field type. -/
def locateBehindType (windows : List Window) (search : Option Pattern) (type : Match) :
    Except LookupError Match :=
  match next? windows (search.getD identifier) type.stop with
  | none => .error (.notFound .fieldName)
  | some found => .ok found

/-- The words that a field type is refused for where no cardinality stands in front
of it. -/
def statementWords : List Text :=
  ["group".toList, "message".toList, "enum".toList, "oneof".toList, "reserved".toList,
    "extensions".toList, "extend".toList, "option".toList]

/-- The result of locating a field name, from all the candidates for its type. -/
def locateFieldName (windows : List Window) (search : Option Pattern) (start : Position) :
    Except LookupError Match :=
  match matchesFrom windows fieldTypeCandidate start with
  | [] => .error (.notFound .fieldName)
  | first :: others =>
      if first.text = "required".toList ∨ first.text = "optional".toList ∨
          first.text = "repeated".toList then
        match others with
        | [] => .error (.notFound .fieldName)
        | second :: _ =>
            if second.text = "group".toList then .error .unexpectedGroup
            else locateBehindType windows search second
      else if first.text ∈ statementWords then .error (.unexpectedFieldType first.text)
      else locateBehindType windows search first

theorem mem_cardinalities {text : Text} :
    cardinalities.contains text = true ↔
      text = "required".toList ∨ text = "optional".toList ∨ text = "repeated".toList := by
  simp [cardinalities]

/-- A cardinality never counts as a field type, so that only the other words
matter. -/
theorem mem_notFieldTypes {text : Text} (noCardinality : ¬ cardinalities.contains text = true) :
    notFieldTypes.contains text = true ↔ text ∈ statementWords := by
  have split : notFieldTypes = statementWords ++ cardinalities := rfl
  rw [List.contains_iff_mem] at noCardinality ⊢
  rw [split, List.mem_append, or_iff_left noCardinality]

theorem seek_name (windows : List Window) (search : Option Pattern) (type : Match) :
    seek windows search .fieldName false [.name .fieldName false] type.stop =
      locateBehindType windows search type := by
  rw [seek_last windows search .fieldName (fun found => rfl), locateBehindType]
  rfl

/-- The tasks of a field name seek what is to be located. -/
theorem seek_eq_locateFieldName (windows : List Window) (search : Option Pattern)
    (start : Position) :
    seek windows search .fieldName false [.fieldType, .name .fieldName false] start =
      locateFieldName windows search start := by
  rw [seek, locateFieldName]
  simp only [Task.choose, Task.patternFor]
  cases matchesFrom windows fieldTypeCandidate start with
  | nil => rfl
  | cons first others =>
      simp only [Task.chooseFieldType]
      by_cases isCardinality : cardinalities.contains first.text = true
      · simp only [if_pos isCardinality, if_pos (mem_cardinalities.mp isCardinality)]
        cases others with
        | nil => rfl
        | cons second others =>
            simp only [Task.chooseFieldType]
            by_cases isGroup : second.text = "group".toList
            · simp only [if_pos isGroup]
            · simp only [if_neg isGroup]
              exact seek_name windows search second
      · simp only [if_neg isCardinality, if_neg (mem_cardinalities.not.mp isCardinality)]
        by_cases isStatement : first.text ∈ statementWords
        · simp only [if_pos isStatement, if_pos ((mem_notFieldTypes isCardinality).mpr isStatement)]
        · simp only [if_neg isStatement,
            if_neg ((mem_notFieldTypes isCardinality).not.mpr isStatement)]
          exact seek_name windows search first

end Code

/-- Locating a field name.  It does not matter whether the cardinality and the type
are found together on one line or one after the other on several. -/
theorem locate_fieldName {text : Text} {document : LineSource} (isOf : document.IsOf text)
    {line : Nat} (within : line < document.lineCount) (column : Nat) {search : Option Text}
    {pattern : Option Pattern} (compiles : search.map Pattern.parse? = pattern.map some) :
    locate document .fieldName line column search =
      Code.locateFieldName (document.codeFrom line) pattern (document.clip line column) := by
  obtain ⟨first, lineAt, clipEq⟩ := LineSource.exists_line isOf within
  rw [locate_eq_seek isOf rfl lineAt column compiles, clipEq]
  exact Code.seek_eq_locateFieldName _ _ _

set_option maxRecDepth 100000 in
/-- The cardinality stands on a line of its own. -/
theorem locate_fieldName_behind_cardinality :
    locate (IndexedText.ofText "repeated\na b".toList).source .fieldName 0 0 none =
      .ok ⟨"b".toList, ⟨1, 2⟩, ⟨1, 3⟩⟩ := by
  have compiles : (none : Option Text).map Pattern.parse? = (none : Option Pattern).map some :=
    rfl
  have code : (IndexedText.ofText "repeated\na b".toList).source.codeFrom 0 =
      [⟨⟨0, 0⟩, "repeated".toList⟩, ⟨⟨1, 0⟩, "a b".toList⟩] := by rfl
  have candidates : Code.matchesFrom [⟨⟨0, 0⟩, "repeated".toList⟩, ⟨⟨1, 0⟩, "a b".toList⟩]
      Vocabulary.fieldTypeCandidate ⟨0, 0⟩ =
        [⟨"repeated".toList, ⟨0, 0⟩, ⟨0, 8⟩⟩, ⟨"a".toList, ⟨1, 0⟩, ⟨1, 1⟩⟩,
          ⟨"b".toList, ⟨1, 2⟩, ⟨1, 3⟩⟩] := by cbv
  have name : Code.next? [⟨⟨0, 0⟩, "repeated".toList⟩, ⟨⟨1, 0⟩, "a b".toList⟩]
      Vocabulary.identifier ⟨1, 1⟩ = some ⟨"b".toList, ⟨1, 2⟩, ⟨1, 3⟩⟩ := by cbv
  rw [locate_fieldName .indexed (by decide) 0 compiles, code,
    show LineSource.clip _ 0 0 = ⟨0, 0⟩ from rfl, Code.locateFieldName, candidates]
  refine (if_pos (Or.inr (Or.inr rfl))).trans ?_
  refine (if_neg (by decide)).trans ?_
  rw [Code.locateBehindType, Option.getD_none, name]

end Pinpoint
