import Pinpoint.Proofs.Comment.Exactness
import Pinpoint.Proofs.Pattern.Occurrences

/-!
# Scanning by searching

The comments of a line can also be found by searching for delimiters: in code for a
pattern that opens a comment, and in a block for the end of it.  What the pattern
finds is always one of the two delimiters, so such a scan never fails, and it
reports what the scanner reports.
-/

namespace Pinpoint

namespace Pattern

/-- All places visited in a text lie before a column. -/
def Visited.Before (visited : Visited) (column : Nat) : Prop :=
  ∀ place, visited.contains place = true → place.2 < column

theorem Visited.Before.fresh {visited : Visited} {column : Nat}
    (before : Visited.Before visited column) {place : Nat × Nat} (columnLe : column ≤ place.2) :
    visited.contains place = false := by
  rw [← Bool.not_eq_true]
  exact fun member => Nat.not_lt.mpr columnLe (before place member)

theorem Visited.Before.of_le {visited : Visited} {column later : Nat}
    (before : Visited.Before visited column) (columnLe : column ≤ later) :
    Visited.Before visited later :=
  fun place member => Nat.lt_of_lt_of_le (before place member) columnLe

theorem Visited.Before.insert {visited : Visited} {column : Nat}
    (before : Visited.Before visited column) {place : Nat × Nat} (placeLt : place.2 < column) :
    Visited.Before (visited.insert place) column := by
  intro other member
  rw [Std.HashSet.contains_insert] at member
  rcases (Bool.or_eq_true _ _).mp member with same | earlier
  · rw [← eq_of_beq same]
    exact placeLt
  · exact before other earlier

end Pattern

namespace Comment

open Lexer Pattern

/-- What opens a comment. -/
def opener : Pattern :=
  .alt (.literal ['/', '/']) (.literal ['/', '*'])

theorem program_opener : opener.program =
    #[.fork 1 2, .literal ['/', '/'] 3, .literal ['/', '*'] 3, .accept] := rfl

theorem explore_of_opens {cursor : Cursor} {d : Char} {rest : Text}
    (follows : cursor.rest = '/' :: d :: rest) (opens : d = '/' ∨ d = '*')
    {visited : Visited} (before : Visited.Before visited cursor.column) (fuel : Nat) :
    ∃ thread after, opener.program.explore (fuel + 5) [Thread.start cursor] visited =
        (some thread, after) ∧ thread.cursor = ⟨cursor.column + 2, some d, rest⟩ := by
  have fresh : ∀ step, visited.contains (step, cursor.column) = false :=
    fun step => before.fresh (Nat.le_refl _)
  have behind : ∀ step, visited.contains (step, cursor.column + 2) = false :=
    fun step => before.fresh (Nat.le_add_right _ 2)
  rcases opens with rfl | rfl
  · simp [Program.explore, program_opener, Thread.start, Thread.jumped, Thread.moved,
      Step.threads, follows, Cursor.skip?, Cursor.next, fresh, behind,
      Std.HashSet.contains_insert]
  · simp [Program.explore, program_opener, Thread.start, Thread.jumped, Thread.moved,
      Step.threads, follows, Cursor.skip?, Cursor.next, fresh, behind,
      Std.HashSet.contains_insert]

theorem skip?_of_plain {cursor : Cursor}
    (plain : ∀ c rest, cursor.rest = c :: rest → Plain c rest) {d : Char}
    (opens : d = '/' ∨ d = '*') : Cursor.skip? ['/', d] cursor = none := by
  cases follows : cursor.rest with
  | nil => simp [Cursor.skip?, follows]
  | cons c rest =>
      have notOpener := plain c rest follows
      by_cases slash : '/' = c
      · subst slash
        cases rest with
        | nil => simp [Cursor.skip?, follows, Cursor.next]
        | cons e rest =>
            have other : d ≠ e := by
              rintro rfl
              rcases opens with rfl | rfl
              · exact notOpener ⟨rfl, Or.inl rfl⟩
              · exact notOpener ⟨rfl, Or.inr rfl⟩
            simp [Cursor.skip?, follows, Cursor.next, other]
      · simp [Cursor.skip?, follows, slash]

/-- The program finds nothing elsewhere, and has then been at no later place. -/
theorem explore_of_plain {cursor : Cursor}
    (plain : ∀ c rest, cursor.rest = c :: rest → Plain c rest)
    {visited : Visited} (before : Visited.Before visited cursor.column) (fuel : Nat) :
    ∃ after, opener.program.explore (fuel + 5) [Thread.start cursor] visited = (none, after) ∧
      Visited.Before after (cursor.column + 1) := by
  have fresh : ∀ step, visited.contains (step, cursor.column) = false :=
    fun step => before.fresh (Nat.le_refl _)
  have noSlashes := skip?_of_plain plain (Or.inl rfl)
  have noStar := skip?_of_plain plain (Or.inr rfl)
  refine ⟨((visited.insert (0, cursor.column)).insert (1, cursor.column)).insert
    (2, cursor.column), ?_, ?_⟩
  · simp [Program.explore, program_opener, Thread.start, Thread.jumped, Step.threads, noSlashes,
      noStar, fresh, Std.HashSet.contains_insert]
  · have here : cursor.column < cursor.column + 1 := Nat.lt_succ_self _
    exact (((before.of_le (Nat.le_succ _)).insert here).insert here).insert here

/-- What a search for an opener in code comes to: the scanner goes on where it ends. -/
def FindsOpener (line : Line) (column : Nat) (rest : Text) : Option (Cursor × Thread) → Prop
  | none => scanFrom line .closed column rest = ([], .closed)
  | some (first, thread) => ∃ d behind, (d = '/' ∨ d = '*') ∧
      first.rest = '/' :: d :: behind ∧
      thread.cursor = ⟨first.column + 2, some d, behind⟩ ∧
      behind.length < rest.length ∧
      scanFrom line .closed column rest = scanFrom line .closed first.column first.rest

/-- Searching code for an opener finds the next one, if there is any. -/
theorem findsOpener_searchFrom (line : Line) {rest : Text} {cursor : Cursor}
    (restEq : cursor.rest = rest) {visited : Visited}
    (before : Visited.Before visited cursor.column) (fuel : Nat) :
    FindsOpener line cursor.column rest
      (opener.program.searchFrom (fuel + 5) rest cursor visited) := by
  induction rest generalizing cursor visited with
  | nil =>
      have plain : ∀ c behind, cursor.rest = c :: behind → Plain c behind := by simp [restEq]
      obtain ⟨after, explored, -⟩ := explore_of_plain plain before fuel
      rw [Program.searchFrom, explored]
      rfl
  | cons c rest ih =>
      by_cases plain : Plain c rest
      · have plainHere : ∀ c' behind, cursor.rest = c' :: behind → Plain c' behind := by
          intro c' behind follows
          obtain ⟨rfl, rfl⟩ := List.cons.inj (restEq.symm.trans follows)
          exact plain
        -- Nothing starts here.  The places visited all lie before the next character, so that
        -- the search from there is not cut short.
        obtain ⟨after, explored, afterBefore⟩ := explore_of_plain plainHere before fuel
        have nextBefore : Visited.Before after (cursor.next c rest).column :=
          afterBefore.of_le (Nat.add_le_add_left (Char.utf8Size_pos c) cursor.column)
        have later := ih rfl nextBefore
        rw [Program.searchFrom, explored]
        simp only
        generalize Program.searchFrom _ _ _ _ _ = found at later ⊢
        cases found with
        | none =>
            rw [FindsOpener, scanFrom_plain plain]
            exact later
        | some found =>
            obtain ⟨d, behind, opens, firstEq, cursorEq, shorter, same⟩ := later
            refine ⟨d, behind, opens, firstEq, cursorEq, Nat.lt_succ_of_lt shorter, ?_⟩
            rw [scanFrom_plain plain]
            exact same
      · obtain ⟨rfl, next⟩ := Classical.not_not.mp plain
        obtain ⟨d, behind, opens, rfl⟩ : ∃ d behind, (d = '/' ∨ d = '*') ∧ rest = d :: behind := by
          rcases next with slash | star
          · obtain ⟨behind, rfl⟩ := List.head?_eq_some_iff.mp slash
            exact ⟨'/', behind, Or.inl rfl, rfl⟩
          · obtain ⟨behind, rfl⟩ := List.head?_eq_some_iff.mp star
            exact ⟨'*', behind, Or.inr rfl, rfl⟩
        obtain ⟨thread, after, explored, cursorEq⟩ := explore_of_opens restEq opens before fuel
        rw [Program.searchFrom, explored]
        refine ⟨d, behind, opens, restEq, cursorEq, ?_, by rw [restEq]⟩
        simp only [List.length_cons]
        omega

theorem findsOpener_search (line : Line) (cursor : Cursor) :
    FindsOpener line cursor.column cursor.rest (opener.program.search cursor) := by
  have enough : opener.program.fuelFor cursor.rest = 8 * cursor.rest.length + 4 + 5 := by
    rw [program_opener, Program.fuelFor]
    simp
    omega
  have fresh : Visited.Before ∅ cursor.column := fun place member => by simp at member
  rw [Program.search, enough]
  exact findsOpener_searchFrom line rfl fresh _

/-- The place behind the end of a block comment in what follows a column. -/
def closer? (column : Nat) : Text → Option Cursor
  | '*' :: '/' :: rest => some ⟨column + 2, some '/', rest⟩
  | c :: rest => closer? (column + c.utf8Size) rest
  | [] => none

/-- The comments in the rest of a line, and the state at its end, by searching for
one delimiter after the other.  Every search passes a character, so `steps` needs to
count the characters left only.  A delimiter that is none of the two is an error. -/
def searchFrom (line : Line) :
    (steps : Nat) → CommentState → Cursor → Except Text (List Token × CommentState)
  | 0, state, _ => .ok ([], state)
  | steps + 1, .closed, cursor =>
      match opener.program.search cursor with
      | none => .ok ([], .closed)
      | some (first, thread) =>
          let found := first.upTo thread.cursor
          if found = ['/', '/'] then .ok ([toLineEnd line first.column], .closed)
          else if found = ['/', '*'] then
            searchFrom line steps (.opened (line.position first.column)) thread.cursor
          else .error found
  | steps + 1, .opened position, cursor =>
      match closer? cursor.column cursor.rest with
      | none => .ok ([block line position line.width false], .opened position)
      | some after =>
          match searchFrom line steps .closed after with
          | .error found => .error found
          | .ok (comments, state) =>
              .ok (block line position after.column true :: comments, state)

/-- The comments of a line, and the state at its end, by searching. -/
def search (line : Line) (state : CommentState) : Except Text (List Token × CommentState) :=
  searchFrom line (line.text.length + 1) state (Cursor.start line.text)

/-- What a search for the end of a block comes to. -/
def FindsCloser (line : Line) (position : Position) (column : Nat) (rest : Text) :
    Option Cursor → Prop
  | none => scanFrom line (.opened position) column rest =
      ([block line position line.width false], .opened position)
  | some after => after.rest.length < rest.length ∧
      scanFrom line (.opened position) column rest =
        (block line position after.column true ::
          (scanFrom line .closed after.column after.rest).1,
          (scanFrom line .closed after.column after.rest).2)

theorem findsCloser_closer? (line : Line) (position : Position) (column : Nat) (rest : Text) :
    FindsCloser line position column rest (closer? column rest) := by
  induction column, rest using closer?.induct with
  | case1 column rest =>
      refine ⟨by simp only [List.length_cons]; omega, ?_⟩
      exact scanFrom_closer position column rest
  | case2 column c rest noCloser ih =>
      have inside : ¬ (c = '*' ∧ rest.head? = some '/') := by
        rintro ⟨rfl, next⟩
        obtain ⟨tail, rfl⟩ := List.head?_eq_some_iff.mp next
        exact noCloser tail rfl rfl
      rw [closer?]
      · generalize closer? (column + c.utf8Size) rest = found at ih ⊢
        cases found with
        | none =>
            rw [FindsCloser, scanFrom_inside inside]
            exact ih
        | some after =>
            obtain ⟨shorter, same⟩ := ih
            refine ⟨Nat.lt_succ_of_lt shorter, ?_⟩
            rw [scanFrom_inside inside]
            exact same
      · exact noCloser
  | case3 column =>
      rw [closer?, FindsCloser, scanFrom_opened_nil]

theorem searchFrom_eq_scanFrom (line : Line) {steps : Nat} (state : CommentState)
    {cursor : Cursor} (enough : cursor.rest.length < steps) :
    searchFrom line steps state cursor =
      .ok (scanFrom line state cursor.column cursor.rest) := by
  induction steps generalizing state cursor with
  | zero => simp at enough
  | succ steps ih =>
      cases state with
      | closed =>
          have finds := findsOpener_search line cursor
          rw [searchFrom]
          cases found : opener.program.search cursor with
          | none =>
              rw [found] at finds
              exact congrArg Except.ok finds.symm
          | some reached =>
              obtain ⟨first, thread⟩ := reached
              rw [found] at finds
              obtain ⟨d, behind, opens, firstEq, cursorEq, shorter, same⟩ := finds
              have lengthEq : ('/' :: d :: behind).length - behind.length = 2 := by
                simp only [List.length_cons]
                omega
              have textEq : first.upTo thread.cursor = ['/', d] := by
                rw [Cursor.upTo, firstEq, cursorEq, lengthEq]
                rfl
              rw [same, firstEq]
              rcases opens with rfl | rfl
              · simp only [textEq]
                rw [if_pos trivial, scanFrom_slashes]
              · have fewer : thread.cursor.rest.length < steps := by
                  rw [cursorEq]
                  exact Nat.lt_of_lt_of_le shorter (Nat.le_of_lt_succ enough)
                have later := ih (.opened (line.position first.column)) fewer
                simp only [textEq]
                rw [if_neg (by decide), if_pos trivial, later, cursorEq, scanFrom_opener]
      | opened position =>
          have finds := findsCloser_closer? line position cursor.column cursor.rest
          rw [searchFrom]
          cases found : closer? cursor.column cursor.rest with
          | none =>
              rw [found] at finds
              exact congrArg Except.ok finds.symm
          | some after =>
              rw [found] at finds
              obtain ⟨shorter, same⟩ := finds
              simp only [ih .closed (Nat.lt_of_lt_of_le shorter (Nat.le_of_lt_succ enough))]
              rw [same]

/-- Searching for delimiters never fails, and finds what the scanner finds. -/
theorem search_eq_scan (line : Line) (state : CommentState) :
    search line state = .ok (scan line state) :=
  searchFrom_eq_scanFrom line state (Nat.lt_succ_self _)

/-- The comments of each line and the state handed on after it, by searching. -/
def searchLines : CommentState → List Line → Except Text (List (List Token × CommentState))
  | _, [] => .ok []
  | state, line :: others =>
      match search line state with
      | .error found => .error found
      | .ok report =>
          match searchLines report.2 others with
          | .error found => .error found
          | .ok reports => .ok (report :: reports)

theorem searchLines_eq_scanLines (state : CommentState) (lines : List Line) :
    searchLines state lines = .ok (scanLines state lines) := by
  induction lines generalizing state with
  | nil => rfl
  | cons line others ih =>
      rw [searchLines, search_eq_scan]
      simp only [ih]
      rfl

/-- Comment scanning never fails and is exact.  The comments that are reported for the
lines of a document, from the first line on and with the state handed on from line
to line, are those of the lexer run over the lines joined by line feeds. -/
theorem scanLines_exact {texts : List Text} (clear : ∀ text ∈ texts, '\n' ∉ text)
    (first : Nat) :
    searchLines .closed (Line.numbered first texts) =
        .ok (scanLines .closed (Line.numbered first texts)) ∧
      ∀ index line, (Line.numbered first texts)[index]? = some line →
        ∃ comments state, (scanLines .closed (Line.numbered first texts))[index]? =
            some (comments, state) ∧
          Exact (marks .code ⟨first, 0⟩ (Text.joinLines texts))
            (modeAfter .code ⟨first, 0⟩ (Text.joinLines (texts.take (index + 1))))
            line comments state := by
  refine ⟨searchLines_eq_scanLines _ _, fun index line lineAt => ?_⟩
  exact exact_of_passed clear (Passed.start first) lineAt

/-- A block comment goes over an empty line, and the line that ends it opens
another one. -/
theorem scanLines_exact_over_lines :
    ∃ comments state, (scanLines .closed (Line.numbered 4
        ["a /*/".toList, [], "*/ b /* c".toList]))[2]? = some (comments, state) ∧
      Exact (marks .code ⟨4, 0⟩
          (Text.joinLines ["a /*/".toList, [], "*/ b /* c".toList]))
        (modeAfter .code ⟨4, 0⟩
          (Text.joinLines (["a /*/".toList, [], "*/ b /* c".toList].take 3)))
        ⟨6, "*/ b /* c".toList⟩ comments state :=
  (scanLines_exact (by decide) 4).2 2 _ rfl

end Comment

end Pinpoint
