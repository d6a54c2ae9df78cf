import Pinpoint.Proofs.Comment.Search
import Pinpoint.Proofs.Lookup.Run
import Pinpoint.Proofs.Pattern.WholeWord
import Pinpoint.ResolvedRange

/-!
# Failures of a lookup

A lookup that has begun fails for want of what it looks for, and for nothing
else: the spans that it takes out of a line are always those of the comments
there, in order.  A finding begins a lookup that can only fail in this way.
-/

namespace Pinpoint

/-- How a lookup for a kind of token can fail once it has begun. -/
inductive LookupError.Expected : TokenKind → LookupError → Prop
  | notFound (kind : TokenKind) : Expected kind (.notFound kind)
  | enumValueName (text : Text) : Expected .enumValueName (.unexpectedEnumValueName text)
  | fieldType (text : Text) : Expected .fieldName (.unexpectedFieldType text)
  | group : Expected .fieldName .unexpectedGroup

theorem LookupError.Expected.recoverable {kind : TokenKind} {error : LookupError}
    (expected : error.Expected kind) : error.recoverable = true := by
  cases expected <;> rfl

/-- A document that numbers its lines as they are asked for. -/
def LineSource.Numbered (document : LineSource) : Prop :=
  ∀ number line, document.line? number = some line → line.number = number

theorem Line.number_of_map_ofRaw {number : Nat} {raw : Option Text} {line : Line}
    (lineEq : raw.map (ofRaw number) = some line) : line.number = number := by
  obtain ⟨text, -, rfl⟩ := Option.map_eq_some_iff.mp lineEq
  rfl

theorem IndexedText.numbered_source (document : IndexedText) : document.source.Numbered :=
  fun _ _ lineAt => Line.number_of_map_ofRaw lineAt

theorem Text.numbered_source (text : Text) : text.source.Numbered :=
  fun _ _ lineAt => Line.number_of_map_ofRaw lineAt

namespace Task

/-- A task that a lookup for a kind of token may have to do. -/
structure Serves (target : TokenKind) (task : Task) : Prop where
  noComment : task.kind ≠ .comment
  forFieldName : task = .fieldType → target = .fieldName
  forEnumValueName : task = .enumValueName → target = .enumValueName

theorem serves_of_listFor {kind : TokenKind} {tasks : List Task}
    (listed : listFor kind = some tasks) : ∀ task ∈ tasks, task.Serves kind := by
  intro task member
  cases kind with
  | comment | fieldCardinality | fieldType | package | message | enum | rpc | service =>
      simp [listFor] at listed
  | required =>
      obtain rfl := Option.some.inj listed
      obtain rfl := List.mem_singleton.mp member
      exact ⟨by decide, by simp, by simp⟩
  | enumValueName =>
      obtain rfl := Option.some.inj listed
      obtain rfl := List.mem_singleton.mp member
      exact ⟨by decide, by simp, fun _ => rfl⟩
  | _ =>
      obtain rfl := Option.some.inj listed
      simp only [List.mem_cons, List.not_mem_nil, or_false] at member
      rcases member with rfl | rfl <;> exact ⟨by decide, by simp, by simp⟩

theorem expected_of_chooseFieldType {cardinality : Bool} {found : List Match}
    {error : LookupError} (refused : chooseFieldType cardinality found = .error error) :
    error.Expected .fieldName := by
  induction found generalizing cardinality with
  | nil => simp [chooseFieldType] at refused
  | cons first others ih =>
      cases cardinality with
      | true =>
          rw [chooseFieldType] at refused
          split at refused
          · obtain rfl := Except.error.inj refused
            exact .group
          · simp at refused
      | false =>
          rw [chooseFieldType] at refused
          split at refused
          · exact ih refused
          · split at refused
            · obtain rfl := Except.error.inj refused
              exact .fieldType first.text
            · simp at refused

theorem expected_of_choose {target : TokenKind} {task : Task} (serves : task.Serves target)
    {cardinality : Bool} {found : List Match} {error : LookupError}
    (refused : task.choose cardinality found = .error error) : error.Expected target := by
  cases task with
  | fieldType =>
      rw [serves.forFieldName rfl]
      exact expected_of_chooseFieldType refused
  | enumValueName =>
      rw [serves.forEnumValueName rfl]
      cases found with
      | nil => simp [choose, chooseEnumValueName] at refused
      | cons first others =>
          simp only [choose, chooseEnumValueName] at refused
          split at refused
          · obtain rfl := Except.error.inj refused
            exact .enumValueName first.text
          · simp at refused
  | keyword kind => simp [choose] at refused
  | name kind dotted => simp [choose] at refused

end Task

namespace Lookup

/-- What the work on a line may come to, whatever spans of it are searched. -/
inductive Works (before : Lookup) : Except LookupError Unit × Lookup → Prop
  | failed (error : LookupError) (after : Lookup) (expected : error.Expected before.target) :
      Works before (.error error, after)
  | worked (after : Lookup) (keeps : before.Keeps after)
      (serves : ∀ task ∈ after.pending, task.Serves before.target) :
      Works before (.ok (), after)

theorem Works.of_keeps {before middle : Lookup} {outcome : Except LookupError Unit × Lookup}
    (works : middle.Works outcome) (keeps : before.Keeps middle) : before.Works outcome := by
  have targetEq := keeps.target_eq
  cases works with
  | failed error after expected => exact .failed error after (targetEq ▸ expected)
  | worked after kept serves => exact .worked after (keeps.trans kept) (targetEq ▸ serves)

theorem runTasks_works (line : Line) (spans : List Span) (tasks : List Task) (lookup : Lookup)
    (serves : ∀ task ∈ tasks, task.Serves lookup.target) :
    lookup.Works (runTasks line spans tasks lookup) := by
  -- By induction on the tasks: only a task that is settled leaves the line to the later ones.
  induction tasks generalizing lookup with
  | nil => exact .worked _ (lookup.keeps_waitingFor []) (by simp)
  | cons task later ih =>
      have first := serves task List.mem_cons_self
      have settles : task.Settles (lookup.tokens.contains .fieldCardinality) _
          (task.resolve ⟨line, spans, lookup.cursor.column, lookup.searchFor later⟩
            lookup.tokens) :=
        task.settles_resolve fun limit => line.findInSpans_limited spans _ _ limit
      have waits := lookup.keeps_waitingFor (task :: later)
      generalize resolvedEq : task.resolve _ _ = resolved at settles
      cases settles with
      | missing kind none =>
          rw [runTasks_of_notFound resolvedEq]
          exact .worked _ waits serves
      | refused other chosen =>
          rw [runTasks_of_error other resolvedEq]
          exact .failed _ _ (Task.expected_of_choose first (chosen []))
      | parked found isFieldType unmet foundEq chosen =>
          rw [runTasks_of_ok resolvedEq]
          exact .worked _ (waits.trans (keeps_record _ (.fieldCardinality, found) (by simp))) serves
      | settled passed token others few foundEq chosen =>
          rw [runTasks_of_ok resolvedEq, if_pos rfl]
          have keeps := waits.trans
            ((lookup.waitingFor (task :: later)).keeps_settled passed first.noComment token)
          refine (ih _ ?_).of_keeps keeps
          intro next member
          have nextServes := serves next (List.mem_cons_of_mem _ member)
          exact keeps.target_eq ▸ nextServes

/-- The spans of the comments can be taken out of every line that is reached. -/
theorem Arrives.exists_gaps {lookup : Lookup} (arrives : lookup.Arrives) (text : Text) :
    ∃ spans, (Line.mk lookup.cursor.line text).gaps
        ((lookup.scanComments ⟨lookup.cursor.line, text⟩).tokens.spansOn .comment
          ⟨lookup.cursor.line, text⟩) = .ok spans := by
  rw [arrives.spansOn_scanComments text]
  exact ⟨_, Line.gaps_of_ordered _ (Comment.ordered_scan (arrives.carried text))⟩

/-- A lookup that comes to a line fails as expected, there or on a later line. -/
theorem expected_of_runLines {lines : Nat} {lookup : Lookup}
    (numbered : lookup.document.Numbered) (arrives : lookup.Arrives)
    (serves : ∀ task ∈ lookup.pending, task.Serves lookup.target) {error : LookupError}
    (failed : (runLines lines lookup).1 = .error error) : error.Expected lookup.target := by
  induction lines generalizing lookup with
  | zero =>
      obtain rfl := Except.error.inj failed
      exact .notFound lookup.target
  | succ lines ih =>
      rw [runLines] at failed
      cases lineAt : lookup.document.line? lookup.cursor.line with
      | none =>
          simp only [lineAt] at failed
          obtain rfl := Except.error.inj failed
          exact .notFound lookup.target
      | some line =>
          obtain ⟨number, text⟩ := line
          obtain rfl : number = lookup.cursor.line := numbered _ _ lineAt
          obtain ⟨spans, gapsEq⟩ := arrives.exists_gaps text
          simp only [lineAt, scanLine, gapsEq] at failed
          have works := runTasks_works ⟨lookup.cursor.line, text⟩ spans
            (lookup.scanComments ⟨lookup.cursor.line, text⟩).pending
            (lookup.scanComments ⟨lookup.cursor.line, text⟩) serves
          generalize runTasks _ spans _ _ = outcome at works failed
          cases works with
          | failed cause after expected =>
              obtain rfl := Except.error.inj failed
              exact expected
          | worked after keeps laterServes =>
              have targetEq : after.nextLine.target = lookup.target := keeps.target_eq
              have documentEq : after.nextLine.document = lookup.document := keeps.document_eq
              cases recorded : after.tokens.first? after.target with
              | some token => simp [recorded] at failed
              | none =>
                  simp only [recorded, Option.map_none] at failed
                  rw [← targetEq]
                  exact ih (documentEq ▸ numbered) (arrives.nextLine keeps)
                    (targetEq ▸ laterServes) failed

/-- A lookup that has begun fails as expected. -/
theorem expected_of_run {document : LineSource} (numbered : document.Numbered)
    {kind : TokenKind} {line column : Nat} {search : Option Text} {lookup : Lookup}
    (started : start document kind line column search = .ok lookup) {error : LookupError}
    (failed : lookup.run.1 = .error error) : error.Expected kind := by
  obtain ⟨tasks, first, pattern, listed, -, -, rfl⟩ := eq_of_start started
  exact expected_of_runLines numbered (arrives_fresh tasks pattern)
    (Task.serves_of_listFor listed) failed

/-- A lookup that does not begin was asked for what does not exist. -/
theorem eq_of_start_error {document : LineSource} {kind : TokenKind} {line column : Nat}
    {search : Option Text} {error : LookupError}
    (refused : start document kind line column search = .error error) :
    error = .notLocatable kind ∨ error = .lineNumber line document.lineCount ∨
      error = .invalidPattern := by
  rw [start] at refused
  split at refused
  · exact Or.inl (Except.error.inj refused).symm
  · split at refused
    · exact Or.inr (Or.inl (Except.error.inj refused).symm)
    · split at refused
      · simp at refused
      · split at refused
        · exact Or.inr (Or.inr (Except.error.inj refused).symm)
        · simp at refused

end Lookup

theorem error_of_locate {document : LineSource} (numbered : document.Numbered)
    {kind : TokenKind} {line column : Nat} {search : Option Text} {error : LookupError}
    (failed : locate document kind line column search = .error error) :
    (error = .notLocatable kind ∨ error = .lineNumber line document.lineCount ∨
      error = .invalidPattern) ∨ error.Expected kind := by
  rw [locate] at failed
  split at failed
  · rename_i cause refused
    obtain rfl := Except.error.inj failed
    exact Or.inl (Lookup.eq_of_start_error refused)
  · rename_i lookup started
    exact Or.inr (Lookup.expected_of_run numbered started failed)

/-- No lookup fails over the spans that it takes out of a line. -/
theorem ne_of_locate {document : LineSource} (numbered : document.Numbered)
    {kind : TokenKind} {line column : Nat} {search : Option Text} {error : LookupError}
    (failed : locate document kind line column search = .error error) :
    (∀ number span width, error ≠ .rangeBeyondLine number span width) ∧
      ∀ number, error ≠ .rangeIntersection number := by
  rcases error_of_locate numbered failed with (rfl | rfl | rfl) | expected
  · simp
  · simp
  · simp
  · cases expected <;> simp

end Pinpoint
