import Pinpoint.Comment
import Pinpoint.Document
import Pinpoint.Line.Gaps
import Pinpoint.Lookup.Task
import Pinpoint.Pattern.Written

/-!
# Locating a token

A lookup walks through a document line by line from a start position.  On each
line it records the comments, and then runs the tasks that are still to be
done on what is left of the line.  A task that finds its token is dropped and
moves the cursor past it; the first one that does not ends the work on the
line.
-/

namespace Pinpoint

/-- A line and the column from which the next search on it starts. -/
structure LookupCursor where
  line : Nat
  column : Nat
  deriving DecidableEq

/-- A lookup in progress. -/
structure Lookup where
  document : LineSource
  target : TokenKind
  pending : List Task
  search : Option Pattern
  tokens : TokenMap
  cursor : LookupCursor
  comments : CommentState

namespace Lookup

/-- Prepare a lookup.  `search` is a written pattern that replaces the one of
the last task. -/
def start (document : LineSource) (kind : TokenKind) (line column : Nat)
    (search : Option Text) : Except LookupError Lookup :=
  match Task.listFor kind with
  | none => .error (.notLocatable kind)
  | some tasks =>
      match document.line? line with
      | none => .error (.lineNumber line document.lineCount)
      | some first =>
          let ready (pattern : Option Pattern) : Lookup :=
            ⟨document, kind, tasks, pattern, .empty, ⟨line, min column first.width⟩, .closed⟩
          match search with
          | none => .ok (ready none)
          | some written =>
              match Pattern.parse? written with
              | none => .error .invalidPattern
              | some pattern => .ok (ready (some pattern))

/-- Record a token and move the cursor past it. -/
def record (lookup : Lookup) (entry : TokenKind × Match) : Lookup :=
  let (kind, found) := entry
  { lookup with
    tokens := lookup.tokens.push kind ⟨found, true⟩
    cursor := { lookup.cursor with column := max lookup.cursor.column found.stop.column } }

/-- The pattern for the task at hand: only the last one is replaced. -/
def searchFor (lookup : Lookup) (later : List Task) : Option Pattern :=
  if later.isEmpty then lookup.search else none

/-- Run the tasks still to be done on the given columns of a line. -/
def runTasks (line : Line) (spans : List Span) :
    List Task → Lookup → Except LookupError Unit × Lookup
  | [], lookup => (.ok (), { lookup with pending := [] })
  | task :: later, lookup =>
      let waiting := { lookup with pending := task :: later }
      let input : TaskInput :=
        ⟨line, spans, lookup.cursor.column, lookup.searchFor later⟩
      match task.resolve input lookup.tokens with
      | .error (.notFound _) => (.ok (), waiting)
      | .error error => (.error error, waiting)
      | .ok resolved =>
          let recorded := resolved.tokens.foldl record waiting
          if resolved.done then runTasks line spans later recorded
          else (.ok (), recorded)

/-- Record the comments of a line. -/
def scanComments (line : Line) (lookup : Lookup) : Lookup :=
  let (found, state) := Comment.scan line lookup.comments
  { lookup with
    comments := state
    tokens := lookup.tokens.extend .comment found }

/-- Work on one line; the result is the target, if it has been found. -/
def scanLine (line : Line) (lookup : Lookup) :
    Except LookupError (Option Match) × Lookup :=
  let scanned := lookup.scanComments line
  match line.gaps (scanned.tokens.spansOn .comment line) with
  | .error error => (.error error, scanned)
  | .ok spans =>
      match runTasks line spans scanned.pending scanned with
      | (.error error, after) => (.error error, after)
      | (.ok (), after) =>
          (.ok ((after.tokens.first? after.target).map (·.found)), after)

/-- Move to the start of the next line. -/
def nextLine (lookup : Lookup) : Lookup :=
  { lookup with cursor := ⟨lookup.cursor.line + 1, 0⟩ }

/-- Work on up to `lines` lines. -/
def runLines : Nat → Lookup → Except LookupError Match × Lookup
  | 0, lookup => (.error (.notFound lookup.target), lookup)
  | lines + 1, lookup =>
      match lookup.document.line? lookup.cursor.line with
      | none => (.error (.notFound lookup.target), lookup)
      | some line =>
          match lookup.scanLine line with
          | (.error error, after) => (.error error, after)
          | (.ok (some found), after) => (.ok found, after)
          | (.ok none, after) => runLines lines after.nextLine

/-- Go on until the target is found or the document ends. -/
def run (lookup : Lookup) : Except LookupError Match × Lookup :=
  runLines (lookup.document.lineCount - lookup.cursor.line) lookup

end Lookup

/-- The first token of a kind at or after a position. -/
def locate (document : LineSource) (kind : TokenKind) (line column : Nat)
    (search : Option Text) : Except LookupError Match :=
  match Lookup.start document kind line column search with
  | .error error => .error error
  | .ok lookup => lookup.run.1

end Pinpoint
