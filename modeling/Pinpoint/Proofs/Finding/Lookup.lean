-- All of Mathlib, for the equations with which `cbv` runs a search on a text.
import Mathlib
import Pinpoint.Proofs.Lookup.Failures
import Pinpoint.ResolvedRange

/-!
# The lookup of a finding

A finding for a rule about a token begins a lookup on its line, for a kind that
can be located and with a pattern that compiles, if there is room for it.  When
the lookup fails, the range falls back to the line.
-/

namespace Pinpoint

namespace ResolvedRange

/-- The line of a finding exists, wherever the finding says it is. -/
theorem exists_line (text : Text) (finding : Finding) :
    ∃ line, (IndexedText.ofText text).line? (lineOf (.ofText text) finding) = some line := by
  have positive : 0 < (IndexedText.ofText text).source.lineCount :=
    LineSource.IsOf.indexed.lineCount_pos
  have within : lineOf (.ofText text) finding < (IndexedText.ofText text).source.lineCount := by
    rw [lineOf]
    omega
  exact LineSource.IsOf.indexed.exists_line within

end ResolvedRange

namespace Rule

theorem mem_table_of_find? {name : Text} {rule : Rule} (found : find? name = some rule) :
    rule ∈ table :=
  List.mem_of_find?_eq_some found

/-- The rules are about tokens that can be located. -/
theorem exists_listFor_of_mem_table {rule : Rule} (member : rule ∈ table) {kind : TokenKind}
    (targetEq : rule.target = .token kind) : ∃ tasks, Task.listFor kind = some tasks := by
  have locatable : ∀ rule ∈ table, ∀ kind, rule.target = .token kind →
      (Task.listFor kind).isSome := by
    simp only [table, List.forall_mem_cons, List.not_mem_nil, false_imp_iff, implies_true,
      Target.token.injEq, forall_eq', reduceCtorEq, and_true]
    decide
  exact Option.isSome_iff_exists.mp (locatable rule member kind targetEq)

end Rule

namespace ResolvedRange

/-- The pattern for the token that a message names compiles, if there is room for it. -/
theorem exists_compiles {rule : Rule} {finding : Finding}
    (fits : ∀ token, (rule.readMessage finding.message).token = some token →
      (Pattern.exactly token).fits = true) :
    (searchFor rule finding).map Pattern.parse? = Option.map some
      ((rule.readMessage finding.message).token.map Pattern.exactly) := by
  rw [searchFor]
  cases named : (rule.readMessage finding.message).token with
  | none => rfl
  | some token =>
      rw [Option.map_some, Option.map_some, Option.map_some, Option.map_some,
        Pattern.parse?_wholeWord, if_pos (fits token named)]

theorem recoverable_of_locate {text : Text} {finding : Finding} {rule : Rule}
    (member : rule ∈ Rule.table) {kind : TokenKind} (targetEq : rule.target = .token kind)
    (fits : ∀ token, (rule.readMessage finding.message).token = some token →
      (Pattern.exactly token).fits = true) {line : Line}
    (lineAt : (IndexedText.ofText text).line? (lineOf (.ofText text) finding) = some line)
    (column : Nat) {error : LookupError}
    (failed : locate (IndexedText.ofText text).source kind (lineOf (.ofText text) finding)
      column (searchFor rule finding) = .error error) :
    error.recoverable = true := by
  obtain ⟨tasks, listed⟩ := Rule.exists_listFor_of_mem_table member targetEq
  have sourceLine : (IndexedText.ofText text).source.line?
      (lineOf (.ofText text) finding) = some line := lineAt
  have started := Lookup.start_eq listed sourceLine column (exists_compiles fits)
  rw [locate, started] at failed
  have expected := Lookup.expected_of_run (IndexedText.numbered_source _) started failed
  exact expected.recoverable

end ResolvedRange

/-- A lookup takes comments out of lines without an error, and once it has begun it fails
only for want of its target.  The lookup of a finding fails in no other way. -/
theorem locate_failures :
    (∀ document : LineSource, document.Numbered →
      ∀ (kind : TokenKind) (line column : Nat) (search : Option Text),
        (∀ number span width, locate document kind line column search ≠
          .error (.rangeBeyondLine number span width)) ∧
        (∀ number, locate document kind line column search ≠
          .error (.rangeIntersection number)) ∧
        ∀ lookup, Lookup.start document kind line column search = .ok lookup →
          ∀ error, lookup.run.1 = .error error → error.Expected kind) ∧
      (∀ line state, Comment.search line state = .ok (Comment.scan line state)) ∧
      ∀ (text : Text) (finding : Finding), ∀ rule ∈ Rule.table, ∀ kind : TokenKind,
        rule.target = .token kind →
        (∀ token, (rule.readMessage finding.message).token = some token →
          (Pattern.exactly token).fits = true) →
        ∃ line, (IndexedText.ofText text).line?
            (ResolvedRange.lineOf (.ofText text) finding) = some line ∧
          ∀ error, locate (IndexedText.ofText text).source kind
              (ResolvedRange.lineOf (.ofText text) finding)
              (line.byteColumn (finding.column - 1))
              (ResolvedRange.searchFor rule finding) = .error error →
            error.recoverable = true := by
  refine ⟨?lookups, Comment.search_eq_scan, ?findings⟩
  case lookups =>
    intro document numbered kind line column search
    refine ⟨?_, ?_, fun lookup started error failed =>
      Lookup.expected_of_run numbered started failed⟩
    · intro number span width failed
      exact (ne_of_locate numbered failed).1 number span width rfl
    · intro number failed
      exact (ne_of_locate numbered failed).2 number rfl
  case findings =>
    intro text finding rule member kind targetEq fits
    obtain ⟨line, lineAt⟩ := ResolvedRange.exists_line text finding
    refine ⟨line, lineAt, ?_⟩
    intro error failed
    exact ResolvedRange.recoverable_of_locate member targetEq fits lineAt _ failed

set_option maxRecDepth 100000 in
/-- A group behind a cardinality is no field type, also where a finding names it. -/
theorem locate_failures_at_group :
    (∃ lookup, Lookup.start (Text.source "repeated group G".toList) .fieldName 0 0 none =
        .ok lookup ∧ lookup.run.1 = .error .unexpectedGroup ∧
        LookupError.Expected .fieldName .unexpectedGroup) ∧
      ∃ line, (IndexedText.ofText "\x7b\nrepeated group G".toList).line? 1 = some line ∧
        ∀ error, locate (IndexedText.ofText "\x7b\nrepeated group G".toList).source .fieldName 1
            (line.byteColumn 2) (some "\\bG\\b".toList) = .error error →
          error.recoverable = true := by
  constructor
  · have started : Lookup.start (Text.source "repeated group G".toList) .fieldName 0 0 none =
        .ok (Lookup.fresh (Text.source "repeated group G".toList) .fieldName
          [.fieldType, .name .fieldName false] none 0 0) := rfl
    have failed : (Lookup.fresh (Text.source "repeated group G".toList) .fieldName
        [.fieldType, .name .fieldName false] none 0 0).run.1 = .error .unexpectedGroup := by cbv
    have numbered := Text.numbered_source "repeated group G".toList
    exact ⟨_, started, failed, (locate_failures.1 _ numbered _ _ _ _).2.2 _ started _ failed⟩
  · have found : Rule.find? "FIELD_NAMES_LOWER_SNAKE_CASE".toList =
        some ⟨"FIELD_NAMES_LOWER_SNAKE_CASE", .token .fieldName, .rename .lowerSnake,
          some Rule.namesToken⟩ := rfl
    have named : (Rule.readMessage ⟨"FIELD_NAMES_LOWER_SNAKE_CASE", .token .fieldName,
        .rename .lowerSnake, some Rule.namesToken⟩ "Field \"G\"".toList).token =
          some "G".toList := by cbv
    have findings := locate_failures.2.2 "\x7b\nrepeated group G".toList
      ⟨[], 2, 3, "Field \"G\"".toList, [], none⟩ _ (Rule.mem_table_of_find? found) _ rfl
    rw [ResolvedRange.searchFor, named] at findings
    refine findings fun token tokenEq => Pattern.fits_exactly ?_
    obtain rfl := Option.some.inj tokenEq
    decide

end Pinpoint
