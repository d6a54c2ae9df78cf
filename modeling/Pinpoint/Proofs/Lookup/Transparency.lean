import Pinpoint.Proofs.Code.Transparent
import Pinpoint.Proofs.Document.Places
import Pinpoint.Proofs.Lookup.FieldNames
import Pinpoint.Proofs.Lookup.Locality

/-!
# Lookups without comments

A lookup passes over comments as if blanks stood there.  A declaration is found in a document
exactly where it is found with the comments blanked from the first line of the lookup on.  So
is the name of a field, unless a comment stands inside a candidate for its type: a map type is
the only token that can hold blanks, and a comment tears it apart.
-/

namespace Pinpoint

open Lexer

/-! ### Seeking tokens without blanks -/

namespace Task

theorem solid_patternFor {task : Task} (other : task ≠ .fieldType) {search : Option Pattern}
    (solid : ∀ pattern ∈ search, pattern.Solid) : (task.patternFor search).Solid := by
  have replaced : ∀ own : Pattern, own.Solid → (search.getD own).Solid := by
    intro own ownSolid
    cases search with
    | none => exact ownSolid
    | some pattern => exact solid pattern rfl
  cases task with
  | fieldType => exact absurd rfl other
  | keyword kind => exact replaced _ (Vocabulary.solid_keyword kind)
  | enumValueName => exact replaced _ Vocabulary.solid_identifier
  | name kind dotted =>
      cases dotted with
      | false => exact replaced _ Vocabulary.solid_identifier
      | true => exact replaced _ Vocabulary.solid_dottedIdentifier

theorem fieldType_not_mem {kind : TokenKind} (other : kind ≠ .fieldName) {tasks : List Task}
    (listed : listFor kind = some tasks) : .fieldType ∉ tasks := by
  cases kind <;> simp [listFor] at listed other ⊢ <;> simp [← listed]

/-- The candidates for a field type that are looked at: the first one, and the second one if
the first one is a cardinality. -/
def candidates : List Match → List Match
  | [] => []
  | first :: others =>
      if Vocabulary.cardinalities.contains first.text then first :: others.take 1 else [first]

theorem candidates_cons_of_not {first : Match}
    (noCardinality : ¬ Vocabulary.cardinalities.contains first.text = true)
    (others : List Match) : candidates (first :: others) = [first] := if_neg noCardinality

theorem chooseFieldType_of_agreeUntil {spoiled : Match → Prop} {left right : List Match}
    (agree : AgreeUntil spoiled left right)
    (clear : ∀ found ∈ candidates right, ¬ spoiled found) :
    chooseFieldType false left = chooseFieldType false right := by
  cases agree with
  | nil => rfl
  | spoiled isSpoiled left right =>
      refine absurd isSpoiled (clear _ ?_)
      rw [candidates]
      split <;> exact List.mem_cons_self
  | cons first later =>
      rw [chooseFieldType, chooseFieldType]
      split
      · rename_i isCardinality
        rw [candidates, if_pos isCardinality] at clear
        cases later with
        | nil => rfl
        | cons second later => rfl
        | spoiled isSpoiled left right =>
            exact absurd isSpoiled (clear _ (List.mem_cons_of_mem _ List.mem_cons_self))
      · rfl

end Task

namespace Code

variable {mode : Mode} {place position : Position} {text : Text} {search : Option Pattern}
  {target : TokenKind}

theorem not_mem_of_mem_matchesFrom {pattern : Pattern} (solid : pattern.Solid)
    {windows : List Window} {found : Match}
    (member : found ∈ matchesFrom windows pattern position) : ' ' ∉ found.text := by
  obtain ⟨window, -, occurs⟩ := List.mem_flatMap.mp member
  obtain ⟨occurrence, occurrenceMember, rfl⟩ := List.mem_map.mp occurs
  exact solid.not_mem occurrenceMember

/-- A pattern that passes no blank finds the same, whether comments are blanked or not. -/
theorem matchesFrom_blank {pattern : Pattern} (solid : pattern.Solid)
    (cuts : Cuts place text position) :
    matchesFrom (windows (codeMarks place (blank mode place text))) pattern position =
      matchesFrom (windows (marks mode place text)) pattern position := by
  refine ((agreeUntil_matchesFrom solid.proper solid.isLocal mode cuts).eq_of_forall ?_).symm
  intro found member spoiled
  exact not_mem_of_mem_matchesFrom solid member spoiled.1

/-- So do tasks that look for tokens without blanks: each starts where the last one ends. -/
theorem seek_blank (solid : ∀ pattern ∈ search, pattern.Solid) {tasks : List Task}
    (others : .fieldType ∉ tasks) (cuts : Cuts place text position) :
    seek (windows (codeMarks place (blank mode place text))) search target false tasks position =
      seek (windows (marks mode place text)) search target false tasks position := by
  induction tasks generalizing position with
  | nil => rfl
  | cons task later ih =>
      have laterOthers : .fieldType ∉ later := fun member => others (List.mem_cons_of_mem _ member)
      have other : task ≠ .fieldType := fun same => others (same ▸ List.mem_cons_self)
      have given : ∀ pattern ∈ (if later.isEmpty then search else none), pattern.Solid := by
        intro pattern member
        split at member
        · exact solid pattern member
        · simp at member
      rw [seek, seek, matchesFrom_blank (Task.solid_patternFor other given) cuts]
      split
      · rfl
      · rfl
      · rename_i found chosen
        rw [ih laterOthers (cuts_stop (Task.mem_of_choose chosen))]

/-- The field type is the same if no candidate for it holds a byte of a comment. -/
theorem seek_fieldType_blank {later : List Task} (others : .fieldType ∉ later)
    (last : later.isEmpty = false) (solid : ∀ pattern ∈ search, pattern.Solid)
    (cuts : Cuts place text position)
    (apart : ∀ found ∈ Task.candidates (matchesFrom
        (windows (codeMarks place (blank mode place text))) Vocabulary.fieldTypeCandidate position),
      ¬ found.MeetsComment (marks mode place text)) :
    seek (windows (codeMarks place (blank mode place text))) search target false
        (.fieldType :: later) position =
      seek (windows (marks mode place text)) search target false (.fieldType :: later)
        position := by
  have agree := agreeUntil_matchesFrom Vocabulary.fieldTypeCandidate_proper
    Vocabulary.fieldTypeCandidate_isLocal mode cuts
  have same := Task.chooseFieldType_of_agreeUntil agree
    fun found member spoiled => apart found member spoiled.2
  rw [seek, seek]
  simp only [Task.choose, Task.patternFor, ← same]
  split
  · rfl
  · rfl
  · rename_i found chosen
    simp only [last, Bool.false_eq_true, if_false]
    exact seek_blank solid others (cuts_stop (Task.mem_of_chooseFieldType chosen))

end Code

/-! ### Lookups -/

section

variable {text : Text} {document blanked : LineSource} {line column : Nat}

namespace LineSource

/-- A column of the first line cuts the code that is searched. -/
theorem cuts_of_hasColumn (isOf : document.IsOf text) {first : Line}
    (lineAt : document.line? line = some first) {column : Nat} (has : first.HasColumn column) :
    Code.Cuts ⟨line, 0⟩ (Text.joinLines ((rowsOf text).drop line)) ⟨line, column⟩ := by
  have rows := isOf.rows line
  generalize (rowsOf text).drop line = texts at rows
  cases texts with
  | nil =>
      have noLine := rows.line?_eq 0
      rw [Nat.add_zero, lineAt] at noLine
      simp at noLine
  | cons row others =>
      obtain rfl : first = ⟨line, row⟩ := Option.some.inj (lineAt.symm.trans rows.head)
      obtain ⟨left, right, rowEq, rfl⟩ := has.exists_append
      have rowClear := rows.clear row List.mem_cons_self
      simp only at rowEq
      have placeEq : (⟨line, 0⟩ : Position).after left = ⟨line, Text.width left⟩ := by
        rw [Position.after_of_not_mem (by simp_all), Nat.zero_add]
      cases others with
      | nil => exact ⟨left, right, by rw [Text.joinLines_singleton, rowEq], placeEq.symm⟩
      | cons next others =>
          refine ⟨left, right ++ '\n' :: Text.joinLines (next :: others), ?_, placeEq.symm⟩
          rw [Text.joinLines_cons_cons, rowEq, List.append_assoc]

end LineSource

namespace LineSource

theorem clip_zero (document : LineSource) (line : Nat) : document.clip line 0 = ⟨line, 0⟩ := by
  rw [clip, Nat.zero_min]

/-- A lookup starts between two characters of its line, or behind all of them. -/
def StartsBetween (document : LineSource) (line column : Nat) : Prop :=
  ∀ first, document.line? line = some first → first.width ≤ column ∨ first.HasColumn column

theorem StartsBetween.hasColumn (between : document.StartsBetween line column) {first : Line}
    (lineAt : document.line? line = some first) : first.HasColumn (min column first.width) := by
  rcases between first lineAt with beyond | has
  · rw [Nat.min_eq_right beyond]
    exact first.hasColumn_width
  · rwa [Nat.min_eq_left has.le_width]

theorem StartsBetween.cuts (between : document.StartsBetween line column)
    (isOf : document.IsOf text) (within : line < document.lineCount) :
    Code.Cuts ⟨line, 0⟩ (Text.joinLines ((rowsOf text).drop line))
      (document.clip line column) := by
  obtain ⟨first, lineAt, clipEq⟩ := exists_line isOf within
  rw [clipEq]
  exact cuts_of_hasColumn isOf lineAt (between.hasColumn lineAt)

end LineSource

/-- Where the tasks find the same, so does the lookup. -/
theorem locate_blanked (isOf : document.IsOf text)
    (isBlanked : blanked.IsOf (Text.blankedFrom line text)) {kind : TokenKind}
    {search : Option Text}
    (same : ∀ tasks pattern, Task.listFor kind = some tasks →
      search.map Pattern.parse? = Option.map some pattern → line < document.lineCount →
        Code.seek (blanked.codeFrom line) pattern kind false tasks (document.clip line column) =
          Code.seek (document.codeFrom line) pattern kind false tasks
            (document.clip line column)) :
    locate blanked kind line column search = locate document kind line column search := by
  rcases Nat.lt_or_ge line document.lineCount with within | beyond
  · obtain ⟨first, lineAt, clipEq⟩ := LineSource.exists_line isOf within
    obtain ⟨other, otherAt, widthEq⟩ := LineSource.line?_blanked isOf isBlanked lineAt
    rcases refused_or_prepared kind search with
      ⟨error, refused⟩ | ⟨tasks, pattern, listed, compiles⟩
    · rw [refused document line column first lineAt, refused blanked line column other otherAt]
    · rw [locate_eq_seek isOf listed lineAt column compiles,
        locate_eq_seek isBlanked listed otherAt column compiles, widthEq, ← clipEq]
      exact same tasks pattern listed compiles within
  · have countEq := LineSource.lineCount_blanked isOf isBlanked
    have noLine : document.line? line = none := isOf.regular.line?_eq_none beyond
    have noOther : blanked.line? line = none :=
      isBlanked.regular.line?_eq_none (countEq ▸ beyond)
    rw [locate, locate, Lookup.start, Lookup.start]
    simp only [noLine, noOther, countEq]

/-- A declaration is found as if its comments were blanks. -/
theorem declaration_transparent (isOf : document.IsOf text)
    (isBlanked : blanked.IsOf (Text.blankedFrom line text)) {kind : TokenKind}
    (other : kind ≠ .fieldName) (between : document.StartsBetween line column)
    {search : Option Text}
    (isWord : ∀ written ∈ search, ∃ word, ' ' ∉ word ∧ written = Pattern.wholeWord word) :
    locate document kind line column search = locate blanked kind line column search := by
  refine (locate_blanked isOf isBlanked fun tasks pattern listed compiles within => ?_).symm
  have solid : ∀ given ∈ pattern, given.Solid := by
    rintro given rfl
    obtain ⟨written, writtenEq, parsed⟩ := Option.map_eq_some_iff.mp compiles
    obtain ⟨word, clear, rfl⟩ := isWord written writtenEq
    rw [Pattern.parse?_wholeWord] at parsed
    split at parsed
    · obtain rfl := Option.some.inj parsed
      exact Pattern.solid_exactly clear
    · simp at parsed
  rw [LineSource.codeFrom_of_isOf isOf, LineSource.codeFrom_blanked isBlanked]
  exact Code.seek_blank solid (Task.fieldType_not_mem other listed) (between.cuts isOf within)

/-- A comment between a keyword and the name that is asked for. -/
theorem declaration_transparent_of_message :
    locate (Text.source "message /* of */ M".toList) .messageName 0 0
        (some (Pattern.wholeWord "M".toList)) = .ok ⟨"M".toList, ⟨0, 17⟩, ⟨0, 18⟩⟩ ∧
      locate (Text.source (Text.blankedFrom 0 "message /* of */ M".toList)) .messageName 0 0
        (some (Pattern.wholeWord "M".toList)) = .ok ⟨"M".toList, ⟨0, 17⟩, ⟨0, 18⟩⟩ := by
  have same : locate (Text.source "message /* of */ M".toList) .messageName 0 0
        (some (Pattern.wholeWord "M".toList)) =
      locate (Text.source (Text.blankedFrom 0 "message /* of */ M".toList)) .messageName 0 0
        (some (Pattern.wholeWord "M".toList)) := by
    refine declaration_transparent .plain .plain (by decide) ?_ ?_
    · exact fun first _ => Or.inr first.hasColumn_zero
    · rintro written ⟨⟩
      exact ⟨"M".toList, by decide, rfl⟩
  have blanked : Text.blankedFrom 0 "message /* of */ M".toList = "message          M".toList := by
    decide +kernel
  have code : (Text.source "message          M".toList).codeFrom 0 =
      [⟨⟨0, 0⟩, "message          M".toList⟩] := by
    decide +kernel
  have keyword : Code.next? [⟨⟨0, 0⟩, "message          M".toList⟩] (Vocabulary.word "message")
      ⟨0, 0⟩ = some ⟨"message".toList, ⟨0, 0⟩, ⟨0, 7⟩⟩ := by
    rw [Code.next?, Code.matchesFrom_eq_foundByEnds rfl]
    decide +kernel
  have name : Code.next? [⟨⟨0, 0⟩, "message          M".toList⟩] (Pattern.exactly "M".toList)
      ⟨0, 7⟩ = some ⟨"M".toList, ⟨0, 17⟩, ⟨0, 18⟩⟩ := by
    rw [Code.next?, Code.matchesFrom_eq_foundByEnds rfl]
    decide +kernel
  have located : locate (Text.source "message          M".toList) .messageName 0 0
      (some (Pattern.wholeWord "M".toList)) = .ok ⟨"M".toList, ⟨0, 17⟩, ⟨0, 18⟩⟩ := by
    have fits : (Pattern.exactly "M".toList).fits = true := Pattern.fits_exactly (by decide)
    have compiles : (some (Pattern.wholeWord "M".toList)).map Pattern.parse? =
        (some (Pattern.exactly "M".toList)).map some := by
      rw [Option.map_some, Pattern.parse?_wholeWord, if_pos fits]
      rfl
    rw [locate_declared .plain (by decide) 0 compiles (by decide), code,
      show LineSource.clip _ 0 0 = ⟨0, 0⟩ from rfl,
      Code.locateDeclared_of_ne _ _ _ (by decide), Code.declared, Code.behindKeyword, keyword,
      Option.bind_some, Option.getD_some, name]
    rfl
  rw [same, blanked]
  exact ⟨located, located⟩

/-- The name of a field is found as if its comments were blanks, unless a candidate for its
type that is looked at without them holds a byte of one. -/
theorem fieldName_transparent (isOf : document.IsOf text)
    (isBlanked : blanked.IsOf (Text.blankedFrom line text))
    (between : document.StartsBetween line column)
    (apart : ∀ found ∈ Task.candidates (Code.matchesFrom (blanked.codeFrom line)
        Vocabulary.fieldTypeCandidate (document.clip line column)),
      ¬ found.MeetsComment (LineSource.marksFrom line text)) :
    locate document .fieldName line column none = locate blanked .fieldName line column none := by
  refine (locate_blanked isOf isBlanked fun tasks pattern listed compiles within => ?_).symm
  obtain rfl : pattern = none := by simpa [eq_comm] using compiles
  obtain rfl : [Task.fieldType, .name .fieldName false] = tasks := Option.some.inj listed
  rw [LineSource.codeFrom_blanked isBlanked] at apart ⊢
  rw [LineSource.codeFrom_of_isOf isOf]
  exact Code.seek_fieldType_blank (by simp) rfl (by simp) (between.cuts isOf within) apart

/-! ### Map types -/

theorem Code.locateFieldName_of_type {windows : List Window} {start : Position}
    {type name : Match} {later : List Match}
    (candidates : matchesFrom windows Vocabulary.fieldTypeCandidate start = type :: later)
    (noCardinality : ¬ Vocabulary.cardinalities.contains type.text = true)
    (noStatement : type.text ∉ statementWords)
    (named : next? windows Vocabulary.identifier type.stop = some name) :
    locateFieldName windows none start = .ok name := by
  rw [mem_cardinalities] at noCardinality
  rw [locateFieldName, candidates]
  refine (if_neg noCardinality).trans ((if_neg noStatement).trans ?_)
  rw [locateBehindType, Option.getD_none, named]

theorem locate_fieldName_of_type (isOf : document.IsOf text) (within : line < document.lineCount)
    {type name : Match} {later : List Match}
    (candidates : Code.matchesFrom (document.codeFrom line) Vocabulary.fieldTypeCandidate
      (document.clip line column) = type :: later)
    (noCardinality : ¬ Vocabulary.cardinalities.contains type.text = true)
    (noStatement : type.text ∉ Code.statementWords)
    (named : Code.next? (document.codeFrom line) Vocabulary.identifier type.stop = some name) :
    locate document .fieldName line column none = .ok name := by
  obtain ⟨first, lineAt, clipEq⟩ := LineSource.exists_line isOf within
  have compiles : (none : Option Text).map Pattern.parse? = (none : Option Pattern).map some := rfl
  rw [locate_eq_seek isOf rfl lineAt column compiles, ← clipEq, Code.seek_eq_locateFieldName]
  exact Code.locateFieldName_of_type candidates noCardinality noStatement named

/-- Blanks in a map type and behind it. -/
theorem candidates_map : Code.matchesFrom
    ((Text.source "map<int32,    A>    m = 1;".toList).codeFrom 0)
      Vocabulary.fieldTypeCandidate ⟨0, 0⟩ =
        [⟨"map<int32,    A>".toList, ⟨0, 0⟩, ⟨0, 16⟩⟩, ⟨"m".toList, ⟨0, 20⟩, ⟨0, 21⟩⟩] := by
  rw [Code.matchesFrom_eq_foundByEnds rfl]
  rw [Vocabulary.fieldTypeCandidate, Vocabulary.dottedIdentifier, Vocabulary.bareIdentifier_eq]
  decide +kernel

theorem locate_map : locate (Text.source "map<int32,    A>    m = 1;".toList) .fieldName 0 0 none =
    .ok ⟨"m".toList, ⟨0, 20⟩, ⟨0, 21⟩⟩ := by
  refine locate_fieldName_of_type .plain (by decide) candidates_map (by decide) (by decide) ?_
  rw [Code.next?, Code.matchesFrom_eq_foundByEnds rfl]
  rw [Vocabulary.identifier, Vocabulary.bareIdentifier_eq]
  decide +kernel

/-- A comment between a map type and the name. -/
theorem fieldName_transparent_of_map :
    locate (Text.source "map<int32,    A>/**/m = 1;".toList) .fieldName 0 0 none =
        .ok ⟨"m".toList, ⟨0, 20⟩, ⟨0, 21⟩⟩ ∧
      locate (Text.source (Text.blankedFrom 0 "map<int32,    A>/**/m = 1;".toList))
        .fieldName 0 0 none = .ok ⟨"m".toList, ⟨0, 20⟩, ⟨0, 21⟩⟩ := by
  have blanked : Text.blankedFrom 0 "map<int32,    A>/**/m = 1;".toList =
      "map<int32,    A>    m = 1;".toList := by
    decide +kernel
  have same : locate (Text.source "map<int32,    A>/**/m = 1;".toList) .fieldName 0 0 none =
      locate (Text.source (Text.blankedFrom 0 "map<int32,    A>/**/m = 1;".toList))
        .fieldName 0 0 none := by
    refine fieldName_transparent .plain .plain (fun first _ => Or.inr first.hasColumn_zero) ?_
    rw [blanked, LineSource.clip_zero, candidates_map, Task.candidates_cons_of_not (by decide)]
    intro found member
    obtain rfl := List.mem_singleton.mp member
    decide
  rw [same, blanked]
  exact ⟨locate_map, locate_map⟩

theorem locate_torn_map :
    locate (Text.source "map<int32,/**/A>    m = 1;".toList) .fieldName 0 0 none =
      .ok ⟨"int32".toList, ⟨0, 4⟩, ⟨0, 9⟩⟩ := by
  have candidates : Code.matchesFrom
      ((Text.source "map<int32,/**/A>    m = 1;".toList).codeFrom 0)
        Vocabulary.fieldTypeCandidate ⟨0, 0⟩ =
          [⟨"map".toList, ⟨0, 0⟩, ⟨0, 3⟩⟩, ⟨"int32".toList, ⟨0, 4⟩, ⟨0, 9⟩⟩,
            ⟨"A".toList, ⟨0, 14⟩, ⟨0, 15⟩⟩, ⟨"m".toList, ⟨0, 20⟩, ⟨0, 21⟩⟩] := by
    rw [Code.matchesFrom_eq_foundByEnds rfl]
    rw [Vocabulary.fieldTypeCandidate, Vocabulary.dottedIdentifier, Vocabulary.bareIdentifier_eq]
    decide +kernel
  refine locate_fieldName_of_type .plain (by decide) candidates (by decide) (by decide) ?_
  rw [Code.next?, Code.matchesFrom_eq_foundByEnds rfl]
  rw [Vocabulary.identifier, Vocabulary.bareIdentifier_eq]
  decide +kernel

/-- A comment inside a map type tears it apart: the type of the keys is taken for the name. -/
theorem fieldName_torn :
    locate (Text.source "map<int32,/**/A>    m = 1;".toList) .fieldName 0 0 none =
        .ok ⟨"int32".toList, ⟨0, 4⟩, ⟨0, 9⟩⟩ ∧
      locate (Text.source (Text.blankedFrom 0 "map<int32,/**/A>    m = 1;".toList))
        .fieldName 0 0 none = .ok ⟨"m".toList, ⟨0, 20⟩, ⟨0, 21⟩⟩ := by
  have blanked : Text.blankedFrom 0 "map<int32,/**/A>    m = 1;".toList =
      "map<int32,    A>    m = 1;".toList := by
    decide +kernel
  rw [blanked]
  exact ⟨locate_torn_map, locate_map⟩

end

end Pinpoint
