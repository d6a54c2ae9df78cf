-- All of Mathlib, for the equations with which `cbv` runs a search on a text.
import Mathlib
import Pinpoint.Proofs.Lookup.Run

/-!
# Locating declarations

What a lookup finds, said without lines: the first match of a pattern in the code
behind the start, or the first one behind the first match of another pattern.  A
pattern that is given replaces the one of the token that is looked for.
-/

namespace Pinpoint

/-- The position from which a search on a line starts: columns behind the line count
as its end. -/
def LineSource.clip (document : LineSource) (line column : Nat) : Position :=
  ⟨line, min column (((document.line? line).map (·.width)).getD 0)⟩

theorem LineSource.exists_line {text : Text} {document : LineSource}
    (isOf : document.IsOf text) {line : Nat} (within : line < document.lineCount) :
    ∃ first, document.line? line = some first ∧
      ∀ column, document.clip line column = ⟨line, min column first.width⟩ := by
  obtain ⟨first, lineAt⟩ := isOf.exists_line within
  exact ⟨first, lineAt, fun column => by rw [clip, lineAt]; rfl⟩

namespace Code

open Vocabulary

/-- The first match behind the first match of a keyword. -/
def behindKeyword (windows : List Window) (word name : Pattern) (start : Position) :
    Option Match :=
  (next? windows word start).bind fun found => next? windows name found.stop

/-- The token of a kind that stands for itself or behind a keyword. -/
def declared (windows : List Window) (search : Option Pattern) (start : Position) :
    TokenKind → Option Match
  | .packageName =>
      behindKeyword windows (word "package") (search.getD dottedIdentifier) start
  | .messageName => behindKeyword windows (word "message") (search.getD identifier) start
  | .enumName => behindKeyword windows (word "enum") (search.getD identifier) start
  | .rpcName => behindKeyword windows (word "rpc") (search.getD identifier) start
  | .serviceName => behindKeyword windows (word "service") (search.getD identifier) start
  | .enumValueName => next? windows (search.getD identifier) start
  | .required => next? windows (search.getD (word "required")) start
  | _ => none

/-- The kinds of tokens that stand for themselves or behind a keyword. -/
def declarations : List TokenKind :=
  [.packageName, .messageName, .enumName, .rpcName, .serviceName, .enumValueName, .required]

/-- The result of locating such a token.  Two words start other statements of an
enum. -/
def locateDeclared (windows : List Window) (search : Option Pattern) (start : Position)
    (kind : TokenKind) : Except LookupError Match :=
  match declared windows search start kind with
  | none => .error (.notFound kind)
  | some found =>
      if kind = .enumValueName ∧
          (found.text = "option".toList ∨ found.text = "reserved".toList) then
        .error (.unexpectedEnumValueName found.text)
      else .ok found

/-- A match, or that there is none of a kind. -/
def orNotFound (kind : TokenKind) : Option Match → Except LookupError Match
  | none => .error (.notFound kind)
  | some found => .ok found

/-- A last task that takes the first match finds it. -/
theorem seek_last (windows : List Window) (search : Option Pattern) (kind : TokenKind)
    {task : Task} (takesFirst : ∀ found, task.choose false found = .ok found.head?)
    (start : Position) :
    seek windows search kind false [task] start =
      orNotFound kind (next? windows (task.patternFor search) start) := by
  rw [seek, takesFirst, next?]
  simp only [List.isEmpty_nil, if_true]
  cases (matchesFrom windows (task.patternFor search) start).head? <;> rfl

theorem seek_behindKeyword (windows : List Window) (search : Option Pattern)
    (first kind : TokenKind) (dotted : Bool) (start : Position) :
    seek windows search kind false [.keyword first, .name kind dotted] start =
      orNotFound kind (behindKeyword windows (keyword first)
        (search.getD (if dotted then dottedIdentifier else identifier)) start) := by
  rw [seek, behindKeyword, next?]
  simp only [List.isEmpty_cons, Bool.false_eq_true, if_false, Task.choose, Task.patternFor,
    Option.getD_none]
  cases (matchesFrom windows (keyword first) start).head? with
  | none => rfl
  | some found => exact seek_last windows search kind (fun found => rfl) found.stop

theorem seek_enumValueName (windows : List Window) (search : Option Pattern)
    (start : Position) :
    seek windows search .enumValueName false [.enumValueName] start =
      locateDeclared windows search start .enumValueName := by
  rw [seek, locateDeclared, declared, next?]
  simp only [List.isEmpty_nil, if_true, Task.choose, Task.patternFor]
  cases matchesFrom windows (search.getD identifier) start with
  | nil => rfl
  | cons found others =>
      simp only [Task.chooseEnumValueName, List.head?_cons, notEnumValueNames,
        List.contains_iff_mem, List.mem_cons, List.not_mem_nil, or_false, true_and]
      by_cases unexpected : found.text = "option".toList ∨ found.text = "reserved".toList
      · simp only [if_pos unexpected]
      · simp only [if_neg unexpected]

theorem locateDeclared_of_ne (windows : List Window) (search : Option Pattern)
    (start : Position) {kind : TokenKind} (other : kind ≠ .enumValueName) :
    locateDeclared windows search start kind =
      orNotFound kind (declared windows search start kind) := by
  rw [locateDeclared]
  cases declared windows search start kind with
  | none => rfl
  | some found => exact if_neg fun both => other both.1

/-- The tasks of such a token seek what is to be located. -/
theorem seek_eq_locateDeclared (windows : List Window) (search : Option Pattern)
    (start : Position) {kind : TokenKind} (member : kind ∈ declarations) {tasks : List Task}
    (listed : Task.listFor kind = some tasks) :
    seek windows search kind false tasks start =
      locateDeclared windows search start kind := by
  by_cases isValue : kind = .enumValueName
  · subst isValue
    obtain rfl := Option.some.inj listed
    exact seek_enumValueName windows search start
  · rw [locateDeclared_of_ne windows search start isValue]
    simp only [declarations, List.mem_cons, List.not_mem_nil, or_false] at member
    rcases member with rfl | rfl | rfl | rfl | rfl | rfl | rfl <;>
      obtain rfl := Option.some.inj listed
    · exact seek_behindKeyword windows search .package .packageName true start
    · exact seek_behindKeyword windows search .message .messageName false start
    · exact seek_behindKeyword windows search .enum .enumName false start
    · exact seek_behindKeyword windows search .rpc .rpcName false start
    · exact seek_behindKeyword windows search .service .serviceName false start
    · exact absurd rfl isValue
    · exact seek_last windows search .required (fun found => rfl) start

end Code

/-- Locating a token that stands for itself or behind a keyword.  The lines of the
document, the comments on them and the order of the tasks do not show in the result:
it is what the code from the first line on holds behind the start. -/
theorem locate_declared {text : Text} {document : LineSource} (isOf : document.IsOf text)
    {line : Nat} (within : line < document.lineCount) (column : Nat) {search : Option Text}
    {pattern : Option Pattern} (compiles : search.map Pattern.parse? = pattern.map some)
    {kind : TokenKind} (member : kind ∈ Code.declarations) :
    locate document kind line column search =
      Code.locateDeclared (document.codeFrom line) pattern (document.clip line column)
        kind := by
  obtain ⟨first, lineAt, clipEq⟩ := LineSource.exists_line isOf within
  have listed : ∃ tasks, Task.listFor kind = some tasks := by
    simp only [Code.declarations, List.mem_cons, List.not_mem_nil, or_false] at member
    rcases member with rfl | rfl | rfl | rfl | rfl | rfl | rfl <;> exact ⟨_, rfl⟩
  obtain ⟨tasks, listed⟩ := listed
  rw [locate_eq_seek isOf listed lineAt column compiles, clipEq]
  exact Code.seek_eq_locateDeclared _ _ _ member listed

set_option maxRecDepth 100000 in
/-- A comment over two lines stands between the keyword and the name. -/
theorem locate_declared_behind_comment :
    locate (IndexedText.ofText "message/* A\n*/B\x7b".toList).source .messageName 0 0 none =
      .ok ⟨"B".toList, ⟨1, 2⟩, ⟨1, 3⟩⟩ :=
  have compiles : (none : Option Text).map Pattern.parse? = (none : Option Pattern).map some := rfl
  (locate_declared .indexed (by decide) 0 compiles (by decide)).trans (by cbv)

end Pinpoint
