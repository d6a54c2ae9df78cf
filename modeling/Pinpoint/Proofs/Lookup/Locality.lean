import Pinpoint.Proofs.CharSet
import Pinpoint.Proofs.Code.Shift
import Pinpoint.Proofs.Lookup.FieldNames
import Pinpoint.Proofs.Lookup.Rerun

/-!
# What a lookup depends on

A lookup comes to its result by the lines that it works on, and by nothing else of its
document.  So an indexed and a plain text give the same results, lines behind the result
do not matter, and lines in front of the first one only move the result down.
-/

namespace Pinpoint

/-- An indexed and a plain text have the same lines, which are the pieces between the line
feeds without one carriage return at their ends, and all lookups in them agree. -/
theorem indexed_agrees_with_plain (text : Text) :
    (IndexedText.ofText text).source.lineCount = text.count '\n' + 1 ∧
    text.source.lineCount = text.count '\n' + 1 ∧
    (∀ number, (IndexedText.ofText text).source.line? number = text.source.line? number) ∧
    (∀ number, text.source.line? number = (text.splitOn '\n')[number]?.map fun raw =>
      ⟨number, if raw.getLast? = some '\r' then raw.dropLast else raw⟩) ∧
    (∀ number, text.count '\n' < number → text.source.line? number = none) ∧
    ∀ kind line column search,
      locate (IndexedText.ofText text).source kind line column search =
        locate text.source kind line column search := by
  have same := IndexedText.source_ofText text
  have count : text.source.lineCount = text.count '\n' + 1 := Text.length_splitLines text
  have lines : ∀ number, text.source.line? number =
      (text.splitOn '\n')[number]?.map fun raw =>
        ⟨number, if raw.getLast? = some '\r' then raw.dropLast else raw⟩ := by
    intro number
    have lineEq : text.source.line? number =
        (Text.splitLines text)[number]?.map (Line.ofRaw number) := rfl
    rw [lineEq, Text.splitLines_eq_splitOn]
    refine congrArg (Option.map · _) (funext fun raw => ?_)
    rw [Line.ofRaw]
  refine ⟨by rw [same, count], count, fun number => by rw [same], lines, ?_, ?_⟩
  · intro number behind
    have past : (Text.splitLines text).length ≤ number := by
      rw [Text.length_splitLines]
      exact behind
    rw [lines, ← Text.splitLines_eq_splitOn, List.getElem?_eq_none past]
    rfl
  · intro kind line column search
    rw [same]

/-! ### Lines behind the result -/

/-- An error by which a lookup stops at a token that the grammar does not allow where it
stands. -/
inductive LookupError.OutOfPlace : LookupError → Prop
  | enumValueName (text : Text) : OutOfPlace (.unexpectedEnumValueName text)
  | fieldType (text : Text) : OutOfPlace (.unexpectedFieldType text)
  | group : OutOfPlace .unexpectedGroup

theorem LookupError.OutOfPlace.ne_notFound {error : LookupError} (outOfPlace : error.OutOfPlace)
    (kind : TokenKind) : error ≠ .notFound kind := by
  rintro rfl
  cases outOfPlace

/-- A lookup is given up on a line for an error. -/
def FailsOn (document : LineSource) (kind : TokenKind) (line column : Nat)
    (search : Option Text) (error : LookupError) (last : Nat) : Prop :=
  ∃ lookup, Lookup.start document kind line column search = .ok lookup ∧
    lookup.run.1 = .error error ∧ lookup.run.2.cursor.line = last

theorem locate_of_failsOn {document : LineSource} {kind : TokenKind} {line column : Nat}
    {search : Option Text} {error : LookupError} {last : Nat}
    (fails : FailsOn document kind line column search error last) :
    locate document kind line column search = .error error := by
  obtain ⟨lookup, started, failed, -⟩ := fails
  rw [locate, started]
  exact failed

/-- Documents have the same texts on the lines from one number up to another. -/
def LineSource.AgreeOn (document other : LineSource) (first last : Nat) : Prop :=
  ∀ number, first ≤ number → number ≤ last →
    (other.line? number).map (·.text) = (document.line? number).map (·.text)

theorem LineSource.AgreeOn.line?_eq {document other : LineSource} {first last : Nat}
    (agree : document.AgreeOn other first last) (regular : document.Regular)
    (otherRegular : other.Regular) {number : Nat} (firstLe : first ≤ number)
    (leLast : number ≤ last) : other.line? number = document.line? number := by
  have texts := agree number firstLe leLast
  cases lineAt : document.line? number with
  | none => simpa [lineAt] using texts
  | some line =>
      cases otherAt : other.line? number with
      | none => simp [lineAt, otherAt] at texts
      | some otherLine =>
          have numberEq := regular.number_eq number line lineAt
          have otherEq := otherRegular.number_eq number otherLine otherAt
          rw [lineAt, otherAt, Option.map_some, Option.map_some, Option.some.injEq] at texts
          obtain ⟨lineNumber, lineText⟩ := line
          obtain ⟨otherNumber, otherText⟩ := otherLine
          simp_all

namespace Lookup

/-- The lookup in another document. -/
def on (other : LineSource) (lookup : Lookup) : Lookup :=
  { lookup with document := other }

variable {other : LineSource}

theorem foldl_record_on (entries : List (TokenKind × Match)) (lookup : Lookup) :
    entries.foldl record (lookup.on other) = (entries.foldl record lookup).on other := by
  induction entries generalizing lookup with
  | nil => rfl
  | cons entry rest ih => exact ih (lookup.record entry)

theorem runTasks_on (line : Line) (spans : List Span) (tasks : List Task) (lookup : Lookup) :
    runTasks line spans tasks (lookup.on other) =
      ((runTasks line spans tasks lookup).1, (runTasks line spans tasks lookup).2.on other) := by
  induction tasks generalizing lookup with
  | nil => rfl
  | cons task later ih =>
      have resolves : task.resolve ⟨line, spans, (lookup.on other).cursor.column,
          (lookup.on other).searchFor later⟩ (lookup.on other).tokens =
            task.resolve ⟨line, spans, lookup.cursor.column, lookup.searchFor later⟩
              lookup.tokens := rfl
      cases resolved : task.resolve ⟨line, spans, lookup.cursor.column, lookup.searchFor later⟩
          lookup.tokens with
      | error error =>
          by_cases missing : ∃ kind, error = .notFound kind
          · obtain ⟨kind, rfl⟩ := missing
            rw [runTasks_of_notFound resolved, runTasks_of_notFound (resolves.trans resolved)]
            rfl
          · have refused : ∀ kind, error ≠ .notFound kind :=
              fun kind same => missing ⟨kind, same⟩
            rw [runTasks_of_error refused resolved,
              runTasks_of_error refused (resolves.trans resolved)]
            rfl
      | ok found =>
          rw [runTasks_of_ok resolved, runTasks_of_ok (resolves.trans resolved)]
          have waiting : (lookup.on other).waitingFor (task :: later) =
              (lookup.waitingFor (task :: later)).on other := rfl
          rw [waiting, foldl_record_on]
          split
          · exact ih _
          · rfl

theorem scanLine_on (line : Line) (lookup : Lookup) :
    (lookup.on other).scanLine line =
      ((lookup.scanLine line).1, (lookup.scanLine line).2.on other) := by
  have scanned : (lookup.on other).scanComments line = (lookup.scanComments line).on other := rfl
  rw [scanLine, scanLine, scanned]
  generalize lookup.scanComments line = lookup
  have tokens : (lookup.on other).tokens = lookup.tokens := rfl
  have pending : (lookup.on other).pending = lookup.pending := rfl
  simp only [tokens, pending, runTasks_on]
  cases line.gaps (lookup.tokens.spansOn .comment line) with
  | error error => rfl
  | ok spans =>
      simp only
      generalize runTasks line spans lookup.pending lookup = outcome
      obtain ⟨result, after⟩ := outcome
      cases result <;> rfl

theorem line_le_of_runLines (lines : Nat) (lookup : Lookup) :
    lookup.cursor.line ≤ (runLines lines lookup).2.cursor.line := by
  have reached := place_le_of_reaches (reaches_runLines lines lookup)
  simp only [place, Position.atMost_iff] at reached
  omega

/-- A run that does not come to the end of the document ends on one of its lines. -/
theorem exists_line_of_runLines {lines : Nat} {lookup : Lookup}
    (ends : ∀ kind, (runLines lines lookup).1 ≠ .error (.notFound kind)) :
    ∃ last, lookup.document.line? (runLines lines lookup).2.cursor.line = some last := by
  induction lines generalizing lookup with
  | zero => exact absurd rfl (ends lookup.target)
  | succ lines ih =>
      rw [runLines] at ends ⊢
      cases lineAt : lookup.document.line? lookup.cursor.line with
      | none =>
          simp only [lineAt] at ends
          exact absurd rfl (ends lookup.target)
      | some line =>
          have stays := Stays.of_acts (lookup.acts_scanLine line)
          simp only [lineAt] at ends ⊢
          generalize lookup.scanLine line = scanned at stays ends ⊢
          obtain ⟨outcome, after⟩ := scanned
          have documentEq : after.nextLine.document = lookup.document := stays.document_eq
          have lineEq : after.cursor.line = lookup.cursor.line := stays.line_eq
          have here : ∃ last, lookup.document.line? after.cursor.line = some last :=
            ⟨line, lineEq ▸ lineAt⟩
          cases outcome with
          | error error => exact here
          | ok result =>
              cases result with
              | some found => exact here
              | none => exact documentEq ▸ ih ends

/-- A run that does not come to the end of the document goes the same way in every document
that has the lines it works on. -/
theorem runLines_on {lines limit : Nat} {lookup : Lookup}
    (ends : ∀ kind, (runLines lines lookup).1 ≠ .error (.notFound kind))
    (agree : ∀ number, lookup.cursor.line ≤ number →
      number ≤ (runLines lines lookup).2.cursor.line →
        other.line? number = lookup.document.line? number)
    (enough : ∀ number line, other.line? number = some line →
      number < lookup.cursor.line + limit) :
    runLines limit (lookup.on other) =
      ((runLines lines lookup).1, (runLines lines lookup).2.on other) := by
  -- The run works on no line behind the one that it ends on, so how many more lines the other
  -- document has does not matter.
  induction lines generalizing limit lookup with
  | zero => exact absurd rfl (ends lookup.target)
  | succ lines ih =>
      have here := agree lookup.cursor.line (Nat.le_refl _) (line_le_of_runLines _ lookup)
      rw [runLines] at ends agree ⊢
      cases lineAt : lookup.document.line? lookup.cursor.line with
      | none =>
          simp only [lineAt] at ends
          exact absurd rfl (ends lookup.target)
      | some line =>
          have otherAt := here.trans lineAt
          have isEnough := enough _ line otherAt
          obtain ⟨fewer, rfl⟩ : ∃ fewer, limit = fewer + 1 := ⟨limit - 1, by omega⟩
          have onOther : (lookup.on other).document.line? (lookup.on other).cursor.line =
              some line := otherAt
          have stays := Stays.of_acts (lookup.acts_scanLine line)
          rw [runLines]
          simp only [lineAt, onOther, scanLine_on] at ends agree ⊢
          generalize lookup.scanLine line = scanned at stays ends agree ⊢
          obtain ⟨outcome, after⟩ := scanned
          have documentEq : after.nextLine.document = lookup.document := stays.document_eq
          have lineEq : after.nextLine.cursor.line = lookup.cursor.line + 1 :=
            congrArg Nat.succ stays.line_eq
          cases outcome with
          | error error => rfl
          | ok result =>
              cases result with
              | some found => rfl
              | none =>
                  refine @ih _ after.nextLine ends ?_ ?_
                  · intro number firstLe leLast
                    rw [documentEq]
                    exact agree number (by omega) leLast
                  · intro number line lineAt
                    have bound := enough number line lineAt
                    omega

/-- A lookup that starts in one document starts in every other that has its first line. -/
theorem start_on {document : LineSource} {kind : TokenKind} {line column : Nat}
    {search : Option Text} {lookup : Lookup}
    (started : start document kind line column search = .ok lookup)
    (same : other.line? line = document.line? line) :
    start other kind line column search = .ok (lookup.on other) := by
  obtain ⟨tasks, first, pattern, listed, lineAt, compiles, rfl⟩ := eq_of_start started
  exact start_eq listed (same.trans lineAt) column compiles

theorem run_on {document : LineSource} (regular : document.Regular)
    (otherRegular : other.Regular) {kind : TokenKind} {line column : Nat}
    {search : Option Text} {lookup : Lookup}
    (started : start document kind line column search = .ok lookup)
    (ends : ∀ kind, lookup.run.1 ≠ .error (.notFound kind))
    (agree : document.AgreeOn other line lookup.run.2.cursor.line) :
    start other kind line column search = .ok (lookup.on other) ∧
      (lookup.on other).run = (lookup.run.1, lookup.run.2.on other) := by
  obtain ⟨tasks, first, pattern, -, lineAt, -, lookupEq⟩ := eq_of_start started
  have documentEq : lookup.document = document := by rw [lookupEq]; rfl
  have lineEq : lookup.cursor.line = line := by rw [lookupEq]; rfl
  have lineLe : line ≤ lookup.run.2.cursor.line := lineEq ▸ line_le_of_runLines _ lookup
  refine ⟨start_on started (agree.line?_eq regular otherRegular (Nat.le_refl _) lineLe), ?_⟩
  refine runLines_on ends ?_ ?_
  · intro number firstLe leLast
    rw [documentEq]
    exact agree.line?_eq regular otherRegular (lineEq ▸ firstLe) leLast
  · intro number line lineAt
    have within := otherRegular.lt_lineCount number line lineAt
    change number < lookup.cursor.line + (other.lineCount - lookup.cursor.line)
    omega

end Lookup

/-- The line on which a lookup ends with its match is that of the match. -/
theorem exists_run_of_locate {text : Text} {document : LineSource} (isOf : document.IsOf text)
    {kind : TokenKind} {line column : Nat} {search : Option Text} {found : Match}
    (located : locate document kind line column search = .ok found) :
    ∃ lookup, Lookup.start document kind line column search = .ok lookup ∧
      lookup.run.1 = .ok found ∧ lookup.run.2.cursor.line = found.start.line := by
  rw [locate] at located
  cases started : Lookup.start document kind line column search with
  | error error => simp [started] at located
  | ok lookup =>
      simp only [started] at located
      have first : (lookup.after 0).run.1 = .ok found := located
      obtain ⟨home, finished⟩ := Lookup.exists_finished isOf started first
      exact ⟨lookup, rfl, located, finished.found_line.symm⟩

theorem locate_of_agreeOn {text otherText : Text} {document other : LineSource}
    (isOf : document.IsOf text) (otherIsOf : other.IsOf otherText) {kind : TokenKind}
    {line column : Nat} {search : Option Text} {found : Match}
    (located : locate document kind line column search = .ok found)
    (agree : document.AgreeOn other line found.start.line) :
    locate other kind line column search = .ok found := by
  obtain ⟨lookup, started, foundEq, lineEq⟩ := exists_run_of_locate isOf located
  have ends : ∀ kind, lookup.run.1 ≠ .error (.notFound kind) := by simp [foundEq]
  obtain ⟨otherStarted, runEq⟩ :=
    Lookup.run_on isOf.regular otherIsOf.regular started ends (lineEq ▸ agree)
  rw [locate, otherStarted]
  simp only [runEq]
  exact foundEq

/-- A lookup that stops at a token out of place is given up on a line of the document. -/
theorem exists_failsOn {text : Text} {document : LineSource} (isOf : document.IsOf text)
    {kind : TokenKind} {line column : Nat} {search : Option Text} {error : LookupError}
    (outOfPlace : error.OutOfPlace)
    (failed : locate document kind line column search = .error error) :
    ∃ last, line ≤ last ∧ last < document.lineCount ∧
      FailsOn document kind line column search error last := by
  rw [locate] at failed
  cases started : Lookup.start document kind line column search with
  | error cause =>
      simp only [started, Except.error.injEq] at failed
      subst failed
      rcases Lookup.eq_of_start_error started with rfl | rfl | rfl <;> cases outOfPlace
  | ok lookup =>
      simp only [started] at failed
      obtain ⟨tasks, first, pattern, -, -, -, lookupEq⟩ := Lookup.eq_of_start started
      have documentEq : lookup.document = document := by rw [lookupEq]; rfl
      have lineEq : lookup.cursor.line = line := by rw [lookupEq]; rfl
      have ends : ∀ kind, lookup.run.1 ≠ .error (.notFound kind) := by
        simpa [failed] using outOfPlace.ne_notFound
      have firstLe : lookup.cursor.line ≤ lookup.run.2.cursor.line :=
        Lookup.line_le_of_runLines _ lookup
      have endsThere : ∃ last, lookup.document.line? lookup.run.2.cursor.line = some last :=
        Lookup.exists_line_of_runLines ends
      obtain ⟨last, lastAt⟩ := endsThere
      rw [lineEq] at firstLe
      rw [documentEq] at lastAt
      exact ⟨lookup.run.2.cursor.line, firstLe, isOf.regular.lt_lineCount _ _ lastAt,
        lookup, started, failed, rfl⟩

theorem failsOn_of_agreeOn {text otherText : Text} {document other : LineSource}
    (isOf : document.IsOf text) (otherIsOf : other.IsOf otherText) {kind : TokenKind}
    {line column : Nat} {search : Option Text} {error : LookupError} {last : Nat}
    (outOfPlace : error.OutOfPlace)
    (fails : FailsOn document kind line column search error last)
    (agree : document.AgreeOn other line last) :
    FailsOn other kind line column search error last := by
  obtain ⟨lookup, started, failed, lineEq⟩ := fails
  have ends : ∀ kind, lookup.run.1 ≠ .error (.notFound kind) := by
    simpa [failed] using outOfPlace.ne_notFound
  obtain ⟨otherStarted, runEq⟩ :=
    Lookup.run_on isOf.regular otherIsOf.regular started ends (lineEq ▸ agree)
  refine ⟨_, otherStarted, ?_, ?_⟩
  · rw [runEq]
    exact failed
  · rw [runEq]
    exact lineEq

/-! ### Lines in front of the first one -/

namespace Text

/-- Lines, each with a line feed behind it. -/
def withFeeds (lines : List Text) : Text :=
  lines.flatMap (· ++ ['\n'])

theorem splitLines_append_newline {line : Text} (clear : '\n' ∉ line) (text : Text) :
    splitLines (line ++ '\n' :: text) = line :: splitLines text := by
  induction line with
  | nil => exact splitLines_cons_newline text
  | cons c rest ih =>
      have other : c ≠ '\n' := fun newline => clear (by simp [newline])
      have restClear : '\n' ∉ rest := fun member => clear (List.mem_cons_of_mem _ member)
      rw [List.cons_append, splitLines_cons_of_ne other, ih restClear]
      rfl

theorem splitLines_withFeeds {front : List Text} (clear : ∀ line ∈ front, '\n' ∉ line)
    (text : Text) : splitLines (withFeeds front ++ text) = front ++ splitLines text := by
  induction front with
  | nil => rfl
  | cons line rest ih =>
      have split : withFeeds (line :: rest) ++ text =
          line ++ '\n' :: (withFeeds rest ++ text) := by
        simp [withFeeds]
      rw [split, splitLines_append_newline (clear line List.mem_cons_self),
        ih fun other member => clear other (List.mem_cons_of_mem _ member), List.cons_append]

end Text

namespace LineSource

theorem rowsOf_withFeeds {front : List Text} (clear : ∀ line ∈ front, '\n' ∉ line)
    (text : Text) : rowsOf (Text.withFeeds front ++ text) = front.map rowOf ++ rowsOf text := by
  rw [rowsOf, Text.splitLines_withFeeds clear, List.map_append]
  rfl

variable {text : Text} {front : List Text} {document longer : LineSource}

theorem line?_withFeeds (clear : ∀ line ∈ front, '\n' ∉ line) (isOf : document.IsOf text)
    (longerIsOf : longer.IsOf (Text.withFeeds front ++ text)) {number : Nat} {line : Line}
    (lineAt : document.line? number = some line) :
    ∃ lower, longer.line? (number + front.length) = some lower ∧ lower.text = line.text := by
  have rows := isOf.rows 0
  have longerRows := longerIsOf.rows 0
  have textAt := rows.line?_eq number
  have lowerAt := longerRows.line?_eq (number + front.length)
  rw [List.drop_zero, Nat.zero_add] at textAt lowerAt
  rw [rowsOf_withFeeds clear, List.getElem?_append_right (by simp), List.length_map,
    Nat.add_sub_cancel] at lowerAt
  rw [lineAt, eq_comm, Option.map_eq_some_iff] at textAt
  obtain ⟨row, rowAt, rfl⟩ := textAt
  rw [rowAt] at lowerAt
  exact ⟨_, lowerAt, rfl⟩

theorem codeFrom_withFeeds (clear : ∀ line ∈ front, '\n' ∉ line) (isOf : document.IsOf text)
    (longerIsOf : longer.IsOf (Text.withFeeds front ++ text)) (line : Nat) :
    longer.codeFrom (line + front.length) =
      (document.codeFrom line).map (Window.down front.length) := by
  have same : (rowsOf (Text.withFeeds front ++ text)).drop (line + front.length) =
      (rowsOf text).drop line := by
    rw [rowsOf_withFeeds clear, Nat.add_comm, ← List.drop_drop,
      List.drop_left' (List.length_map _)]
  rw [(isOf.rows line).codeFrom_eq, (longerIsOf.rows _).codeFrom_eq, same,
    ← Code.windows_down, ← Lexer.marks_down]
  rfl

end LineSource

/-- On a line that exists, a lookup is refused in every document or in none. -/
theorem refused_or_prepared (kind : TokenKind) (search : Option Text) :
    (∃ error, ∀ (document : LineSource) line column first, document.line? line = some first →
      locate document kind line column search = .error error) ∨
    ∃ tasks pattern, Task.listFor kind = some tasks ∧
      search.map Pattern.parse? = Option.map some pattern := by
  cases listed : Task.listFor kind with
  | none =>
      refine Or.inl ⟨.notLocatable kind, fun document line column first _ => ?_⟩
      rw [locate, Lookup.start]
      simp only [listed]
  | some tasks =>
      cases search with
      | none => exact Or.inr ⟨tasks, none, rfl, rfl⟩
      | some written =>
          cases parsed : Pattern.parse? written with
          | some pattern => exact Or.inr ⟨tasks, some pattern, rfl, congrArg some parsed⟩
          | none =>
              refine Or.inl ⟨.invalidPattern, fun document line column first firstAt => ?_⟩
              rw [locate, Lookup.start]
              simp only [listed, firstAt, parsed]

theorem locate_withFeeds {text : Text} {front : List Text}
    (clear : ∀ line ∈ front, '\n' ∉ line) {document longer : LineSource}
    (isOf : document.IsOf text) (longerIsOf : longer.IsOf (Text.withFeeds front ++ text))
    (kind : TokenKind) {line : Nat} (within : line < document.lineCount) (column : Nat)
    (search : Option Text) :
    locate longer kind (line + front.length) column search =
      (locate document kind line column search).map (Match.down front.length) := by
  obtain ⟨first, firstAt⟩ := isOf.exists_line within
  obtain ⟨lower, lowerAt, textEq⟩ := LineSource.line?_withFeeds clear isOf longerIsOf firstAt
  rcases refused_or_prepared kind search with ⟨error, refused⟩ | ⟨tasks, pattern, listed, compiles⟩
  · rw [refused document line column first firstAt, refused longer _ column lower lowerAt]
    rfl
  · have widthEq : lower.width = first.width := congrArg Text.width textEq
    rw [locate_eq_seek isOf listed firstAt column compiles,
      locate_eq_seek longerIsOf listed lowerAt column compiles,
      LineSource.codeFrom_withFeeds clear isOf longerIsOf, ← Code.seek_down, widthEq]
    rfl

/-- A result of a lookup stands in every document that has the lines from the first one to
that of the result, and it moves down with them if lines are put in front of the document. -/
theorem locate_local {text : Text} {document : LineSource} (isOf : document.IsOf text)
    (kind : TokenKind) (line column : Nat) (search : Option Text) :
    (∀ found, locate document kind line column search = .ok found →
      ∀ otherText other, LineSource.IsOf otherText other →
        document.AgreeOn other line found.start.line →
          locate other kind line column search = .ok found) ∧
    (∀ error last, error.OutOfPlace →
      FailsOn document kind line column search error last →
        ∀ otherText other, LineSource.IsOf otherText other →
          document.AgreeOn other line last →
            FailsOn other kind line column search error last ∧
              locate other kind line column search = .error error) ∧
    (line < document.lineCount → ∀ front : List Text, (∀ row ∈ front, '\n' ∉ row) →
      ∀ longer, LineSource.IsOf (Text.withFeeds front ++ text) longer →
        locate longer kind (line + front.length) column search =
          (locate document kind line column search).map (Match.down front.length)) := by
  refine ⟨?_, ?_, ?_⟩
  · intro found located otherText other otherIsOf agree
    exact locate_of_agreeOn isOf otherIsOf located agree
  · intro error last outOfPlace fails otherText other otherIsOf agree
    have failsThere := failsOn_of_agreeOn isOf otherIsOf outOfPlace fails agree
    exact ⟨failsThere, locate_of_failsOn failsThere⟩
  · intro within front clear longer longerIsOf
    exact locate_withFeeds clear isOf longerIsOf kind within column search

set_option maxRecDepth 100000 in
/-- The keyword on the first line is found, and the group on the second one is refused,
whatever else the document has. -/
theorem locate_local_of_two_lines :
    (∃ found,
      locate (IndexedText.ofText "required\nrepeated group".toList).source .required 0 0 none =
        .ok found ∧
      locate (Text.source "required\n/*".toList) .required 0 0 none = .ok found ∧
      locate (Text.source "/*\nrequired\nrepeated group".toList) .required 1 0 none =
        .ok (found.down 1)) ∧
    locate (Text.source "\nrepeated group".toList) .fieldName 1 0 none =
      .error .unexpectedGroup := by
  have isOf : LineSource.IsOf "required\nrepeated group".toList
      (IndexedText.ofText "required\nrepeated group".toList).source := .indexed
  have stands := locate_local isOf
  have compiles : (none : Option Text).map Pattern.parse? = (none : Option Pattern).map some := rfl
  constructor
  · have code : (IndexedText.ofText "required\nrepeated group".toList).source.codeFrom 0 =
        [⟨⟨0, 0⟩, "required".toList⟩, ⟨⟨1, 0⟩, "repeated group".toList⟩] := by
      decide +kernel
    have keyword : Code.next? [⟨⟨0, 0⟩, "required".toList⟩, ⟨⟨1, 0⟩, "repeated group".toList⟩]
        (Vocabulary.word "required") ⟨0, 0⟩ = some ⟨"required".toList, ⟨0, 0⟩, ⟨0, 8⟩⟩ := by
      rw [Code.next?, Code.matchesFrom_eq_foundByEnds rfl]
      decide +kernel
    have located : locate (IndexedText.ofText "required\nrepeated group".toList).source
        .required 0 0 none = .ok ⟨"required".toList, ⟨0, 0⟩, ⟨0, 8⟩⟩ := by
      rw [locate_declared .indexed (by decide) 0 compiles (by decide), code,
        show LineSource.clip _ 0 0 = ⟨0, 0⟩ from rfl,
        Code.locateDeclared_of_ne _ _ _ (by decide), Code.declared, Option.getD_none, keyword]
      rfl
    obtain ⟨stays, -, moves⟩ := stands .required 0 0 none
    refine ⟨_, located, stays _ located "required\n/*".toList _ .plain ?_, ?_⟩
    · intro number _ isFirst
      obtain rfl := Nat.le_zero.mp isFirst
      rfl
    · have moved := moves (by decide) ["/*".toList] (by decide) _ .plain
      rw [located] at moved
      exact moved
  · have candidates : Code.matchesFrom
        ((IndexedText.ofText "required\nrepeated group".toList).source.codeFrom 1)
        Vocabulary.fieldTypeCandidate ⟨1, 0⟩ =
          [⟨"repeated".toList, ⟨1, 0⟩, ⟨1, 8⟩⟩, ⟨"group".toList, ⟨1, 9⟩, ⟨1, 14⟩⟩] := by
      rw [Code.matchesFrom_eq_foundByEnds rfl]
      rw [Vocabulary.fieldTypeCandidate, Vocabulary.dottedIdentifier, Vocabulary.bareIdentifier_eq]
      decide +kernel
    have failed : locate (IndexedText.ofText "required\nrepeated group".toList).source
        .fieldName 1 0 none = .error .unexpectedGroup := by
      rw [locate_fieldName isOf (by decide) 0 compiles,
        show LineSource.clip _ 1 0 = ⟨1, 0⟩ from rfl, Code.locateFieldName, candidates]
      rfl
    obtain ⟨last, firstLe, within, fails⟩ := exists_failsOn isOf .group failed
    obtain rfl : 1 = last := Nat.le_antisymm firstLe (Nat.le_of_lt_succ within)
    obtain ⟨-, stays, -⟩ := stands .fieldName 1 0 none
    refine (stays _ _ .group fails "\nrepeated group".toList _ .plain ?_).2
    intro number isFirst isLast
    obtain rfl := Nat.le_antisymm isLast isFirst
    rfl

end Pinpoint
