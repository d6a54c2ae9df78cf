import Pinpoint.Pattern
import Std.Data.HashSet

/-!
# Programs of patterns

A pattern is searched for by running its program: a list of steps, each of
which names the steps it goes on to.  A thread is a place in the program
together with a place in the text.  The threads are followed depth first, the
preferred ones before the others, and no two threads at the same two places are
followed, because the later one would not fare better than the earlier one.
So the search ends also where a loop could go round without passing a
character, and it takes no longer than the program times the text.
-/

namespace Pinpoint

namespace Pattern

/-- A step of a program; the numbers say which steps may follow it. -/
inductive Step where
  | literal (text : Text) (next : Nat)
  | one (set : CharSet) (next : Nat)
  | assert (condition : Assertion) (next : Nat)
  | fork (preferred other : Nat)
  | goto (next : Nat)
  /-- The start of the text that is kept under a name. -/
  | enter (name : String) (next : Nat)
  /-- The end of the text that is kept under a name. -/
  | leave (name : String) (next : Nat)
  | accept

/-- The steps of a pattern. -/
abbrev Program := Array Step

/-- The number of steps of a pattern. -/
def size : Pattern → Nat
  | empty => 1
  | literal _ => 1
  | one _ => 1
  | assert _ => 1
  | seq first second => first.size + second.size
  | alt first second => 1 + first.size + second.size
  | times _ least most body =>
      match most with
      | none =>
          if least = 0 then body.size + if body.canBeEmpty then 2 else 1
          else least * body.size + 1
      | some most => least * body.size + (most - least) * (body.size + 1) + 1
  | group _ none body => body.size
  | group _ (some _) body => body.size + 2

/-- The step that goes on with the body of a repetition or leaves it. -/
def turn (greedy : Bool) (body exit : Nat) : Step :=
  if greedy then .fork body exit else .fork exit body

/-- Copies of some steps, each `size` long, one after the other from step
`start` on. -/
def copies (size count start : Nat) (steps : Nat → List Step) : List Step :=
  (List.range count).flatMap fun k => steps (start + k * size)

/-- The steps of a pattern, of which the first has the number `start`.  What
follows the pattern is step `next`. -/
def steps : Pattern → (start next : Nat) → List Step
  | empty, _, next => [.goto next]
  | literal text, _, next => [.literal text next]
  | one set, _, next => [.one set next]
  | assert condition, _, next => [.assert condition next]
  | seq first second, start, next =>
      let middle := start + first.size
      first.steps start middle ++ second.steps middle next
  | alt first second, start, next =>
      let middle := start + 1 + first.size
      .fork (start + 1) middle :: (first.steps (start + 1) next ++ second.steps middle next)
  | times greedy least most body, start, next =>
      let size := body.size
      let once (start : Nat) : List Step := body.steps start (start + size)
      match most with
      | none =>
          if least = 0 then
            if body.canBeEmpty then
              let again := start + 1 + size
              turn greedy (start + 1) next ::
                (body.steps (start + 1) again ++ [turn greedy (start + 1) next])
            else turn greedy (start + 1) next :: body.steps (start + 1) start
          else
            copies size least start once ++
              [turn greedy (start + (least - 1) * size) next]
      | some most =>
          let middle := start + least * size
          let exit := middle + (most - least) * (size + 1)
          copies size least start once ++
            copies (size + 1) (most - least) middle
              (fun start => turn greedy (start + 1) exit :: once (start + 1)) ++
            [.goto next]
  | group _ none body, start, next => body.steps start next
  | group _ (some name) body, start, next =>
      let last := start + 1 + body.size
      .enter name (start + 1) :: (body.steps (start + 1) last ++ [.leave name next])

/-- The program of a pattern. -/
def program (pattern : Pattern) : Program :=
  (pattern.steps 0 pattern.size ++ [Step.accept]).toArray

/-- A place in a program and in a text, where the texts to be kept started, and
the texts kept so far, latest first. -/
structure Thread where
  step : Nat
  cursor : Cursor
  entered : List (String × Cursor)
  captures : List (String × Text)

namespace Thread

/-- The start of a program at a place in a text. -/
def start (cursor : Cursor) : Thread :=
  ⟨0, cursor, [], []⟩

/-- The thread at another place in the program and in the text. -/
def moved (thread : Thread) (step : Nat) (cursor : Cursor) : Thread :=
  { thread with step := step, cursor := cursor }

/-- The thread at another place in the program. -/
def jumped (thread : Thread) (step : Nat) : Thread :=
  { thread with step := step }

/-- The thread after the start of a text that is kept. -/
def opened (thread : Thread) (name : String) (step : Nat) : Thread :=
  { thread with step := step, entered := (name, thread.cursor) :: thread.entered }

/-- The thread after the end of a text that is kept. -/
def closed (thread : Thread) (name : String) (step : Nat) : Thread :=
  let first := (thread.entered.lookup name).getD thread.cursor
  { thread with
    step := step
    captures := (name, first.upTo thread.cursor) :: thread.captures }

end Thread

namespace Step

/-- The threads that a thread at a step goes on as, the preferred one first. -/
def threads : Step → Thread → List Thread
  | literal text next, thread =>
      ((thread.cursor.skip? text).map (thread.moved next)).toList
  | one set next, thread =>
      match thread.cursor.rest with
      | [] => []
      | c :: rest => if set.has c then [thread.moved next (thread.cursor.next c rest)] else []
  | assert condition next, thread =>
      if condition.holds thread.cursor then [thread.jumped next] else []
  | fork preferred other, thread => [thread.jumped preferred, thread.jumped other]
  | goto next, thread => [thread.jumped next]
  | enter name next, thread => [thread.opened name next]
  | leave name next, thread => [thread.closed name next]
  | accept, _ => []

end Step

/-- Pairs of places in a program and in a text that need not be visited
again. -/
abbrev Visited := Std.HashSet (Nat × Nat)

namespace Program

/-- Follow threads until one accepts.  A thread that does not is replaced by
those it goes on as, at most two, so twice the number of pairs of places, and
one round for each thread at the start, are `fuel` enough. -/
def explore (program : Program) : (fuel : Nat) → List Thread → Visited →
    Option Thread × Visited
  | 0, _, visited => (none, visited)
  | _, [], visited => (none, visited)
  | fuel + 1, thread :: pending, visited =>
      let place := (thread.step, thread.cursor.column)
      if visited.contains place then program.explore fuel pending visited
      else
        match program[thread.step]? with
        | none => program.explore fuel pending visited
        | some .accept => (some thread, visited)
        | some step =>
            program.explore fuel (step.threads thread ++ pending) (visited.insert place)

/-- Fuel for the threads that start at one place. -/
def fuelFor (program : Program) (text : Text) : Nat :=
  2 * program.size * (text.length + 1) + 1

/-- The first cursor from which a thread reaches the end of the program, and
that thread.  The places visited from earlier cursors did not lead there. -/
def searchFrom (program : Program) (fuel : Nat) :
    Text → Cursor → Visited → Option (Cursor × Thread)
  | rest, cursor, visited =>
      match program.explore fuel [Thread.start cursor] visited with
      | (some thread, _) => some (cursor, thread)
      | (none, visited) =>
          match rest with
          | [] => none
          | c :: rest => program.searchFrom fuel rest (cursor.next c rest) visited

/-- The first match at or after a cursor: where it starts, and the thread that
reached the end of the program. -/
def search (program : Program) (cursor : Cursor) : Option (Cursor × Thread) :=
  program.searchFrom (program.fuelFor cursor.rest) cursor.rest cursor ∅

end Program

end Pattern

end Pinpoint
