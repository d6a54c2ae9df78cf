import Pinpoint.Pattern.Cursor

/-!
# Patterns

Regular expressions.  Of the two parts of `alt` the first is preferred, and a
greedy repetition prefers more rounds.  The functions that build patterns keep
them in a plain form: sequences lean to the right and hold no empty part and
no two literals side by side, and a start that all alternatives share is
written once in front of them.
-/

namespace Pinpoint

/-- A regular expression. -/
inductive Pattern where
  | empty
  | literal (text : Text)
  | one (set : CharSet)
  | assert (condition : Assertion)
  | seq (first second : Pattern)
  | alt (first second : Pattern)
  /-- At least `least` rounds of the body, and at most `most` if it is given. -/
  | times (greedy : Bool) (least : Nat) (most : Option Nat) (body : Pattern)
  /-- A group that is told apart by its number, and may have a name under which
  its text is kept. -/
  | group (number : Nat) (name : Option String) (body : Pattern)
  deriving DecidableEq

namespace Pattern

/-- One character of a set. -/
def ofSet (set : CharSet) : Pattern :=
  match set.single? with
  | some c => literal [c]
  | none => one set

/-- One character. -/
def char (c : Char) : Pattern :=
  literal [c]

/-- The parts of a sequence; any other pattern is its own only part. -/
def parts : Pattern → List Pattern
  | seq first second => first :: second.parts
  | pattern => [pattern]

/-- The alternatives of a choice; any other pattern is its own only one. -/
def choices : Pattern → List Pattern
  | alt first second => first :: second.choices
  | pattern => [pattern]

/-- A part in front of others, the first of which it joins if both are
literals. -/
def prepend (part : Pattern) (rest : List Pattern) : List Pattern :=
  match part, rest with
  | empty, rest => rest
  | literal left, literal right :: rest => literal (left ++ right) :: rest
  | part, rest => part :: rest

/-- Patterns one after the other, as a chain that leans to the right. -/
def chain : List Pattern → Pattern
  | [] => empty
  | [pattern] => pattern
  | pattern :: rest => seq pattern (chain rest)

/-- Patterns one after the other. -/
def concat (patterns : List Pattern) : Pattern :=
  chain ((patterns.flatMap parts).foldr prepend [])

/-- Patterns of which one has to match, the earlier the better. -/
def anyInOrder : List Pattern → Pattern
  | [] => one .nothing
  | [pattern] => pattern
  | pattern :: rest => alt pattern (anyInOrder rest)

/-- The set of a pattern that matches one character. -/
def asSet? : Pattern → Option CharSet
  | literal [c] => some (.only c)
  | one set => some set
  | _ => none

/-- The elements that two lists start with in common. -/
def sharedStart : List Pattern → List Pattern → List Pattern
  | left :: lefts, right :: rights =>
      if left = right then left :: sharedStart lefts rights else []
  | _, _ => []

/-- The elements that all lists start with. -/
def commonStart : List (List Pattern) → List Pattern
  | [] => []
  | [only] => only
  | first :: rest => sharedStart first (commonStart rest)

/-- The first of several patterns that matches.  Every step into the
alternatives behind a shared start makes them smaller, so `depth` can count
the parts of all of them. -/
def choose : Nat → List Pattern → Pattern
  | 0, patterns => anyInOrder patterns
  | depth + 1, patterns =>
      let all := patterns.flatMap choices
      match all with
      | [] => one .nothing
      | [only] => only
      | all =>
          match all.mapM asSet? with
          | some sets => ofSet (.anyOf sets)
          | none =>
              let sequences := all.map parts
              let shared := commonStart sequences
              if shared.isEmpty ∨ sequences.any (·.length < 2) then anyInOrder all
              else
                let remainders := sequences.map fun sequence =>
                  concat (sequence.drop shared.length)
                concat (shared ++ [choose depth remainders])

/-- The number of characters, conditions and operators of a pattern. -/
def count : Pattern → Nat
  | seq first second => first.count + second.count + 1
  | alt first second => first.count + second.count + 1
  | times _ _ _ body => body.count + 1
  | group _ _ body => body.count + 1
  | _ => 1

/-- The first of several patterns that matches. -/
def firstOf (patterns : List Pattern) : Pattern :=
  choose ((patterns.map count).foldr (· + ·) 0) patterns

/-- Whether a pattern can match without passing a character. -/
def canBeEmpty : Pattern → Bool
  | empty => true
  | literal text => text.isEmpty
  | one _ => false
  | assert _ => true
  | seq first second => first.canBeEmpty && second.canBeEmpty
  | alt first second => first.canBeEmpty || second.canBeEmpty
  | times _ least _ body => least == 0 || body.canBeEmpty
  | group _ _ body => body.canBeEmpty

/-- Whether a pattern never passes a character. -/
def isAlwaysEmpty : Pattern → Bool
  | empty => true
  | literal text => text.isEmpty
  | one _ => false
  | assert _ => true
  | seq first second => first.isAlwaysEmpty && second.isAlwaysEmpty
  | alt first second => first.isAlwaysEmpty && second.isAlwaysEmpty
  | times _ _ most body => most == some 0 || body.isAlwaysEmpty
  | group _ _ body => body.isAlwaysEmpty

/-- At least `least` rounds of a body, and at most `most` if it is given.  A
second round of a body that passes no character changes nothing. -/
def rounds (greedy : Bool) (least : Nat) (most : Option Nat) (body : Pattern) :
    Pattern :=
  let still := body.isAlwaysEmpty
  let least := if still then min least 1 else least
  let most := if still then some (min (most.getD 1) 1) else most
  if least = 0 ∧ most = some 0 then empty
  else if least = 1 ∧ most = some 1 then body
  else times greedy least most body

/-- The body any number of times. -/
def star (greedy : Bool) (body : Pattern) : Pattern :=
  rounds greedy 0 none body

/-- The body once or more. -/
def plus (greedy : Bool) (body : Pattern) : Pattern :=
  rounds greedy 1 none body

/-- The body or nothing. -/
def opt (greedy : Bool) (body : Pattern) : Pattern :=
  rounds greedy 0 (some 1) body

/-- A pattern whose text is kept under a name. -/
def capture (name : String) (body : Pattern) : Pattern :=
  group 0 (some name) body

end Pattern

end Pinpoint
