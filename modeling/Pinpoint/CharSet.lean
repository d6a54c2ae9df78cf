import Pinpoint.Text.Folding

/-!
# Sets of characters

A set of characters is a list of intervals of code points, from low to high
and with gaps between them, so that equal sets are written alike.
-/

namespace Pinpoint

/-- A set of characters, as closed intervals of code points. -/
structure CharSet where
  intervals : List (Nat × Nat)
  deriving DecidableEq

namespace CharSet

/-- Whether one of the intervals, which ascend, holds a code point. -/
def within : List (Nat × Nat) → Nat → Bool
  | [], _ => false
  | (first, last) :: rest, code =>
      first ≤ code && (code ≤ last || within rest code)

/-- Whether a set holds a code point. -/
def hasCode (set : CharSet) (code : Nat) : Bool :=
  within set.intervals code

/-- Whether a set holds a character. -/
def has (set : CharSet) (c : Char) : Bool :=
  set.hasCode c.toNat

/-- Intervals in order of their starts, after the interval from `first` to
`last`, with those joined that leave no gap. -/
def joined (first last : Nat) : List (Nat × Nat) → List (Nat × Nat)
  | [] => [(first, last)]
  | (start, stop) :: rest =>
      if start ≤ last + 1 then joined first (max last stop) rest
      else (first, last) :: joined start stop rest

/-- The set of the code points in some intervals. -/
def ofIntervals (intervals : List (Nat × Nat)) : CharSet :=
  match intervals.mergeSort (fun left right => left.1 ≤ right.1) with
  | [] => ⟨[]⟩
  | (first, last) :: rest => ⟨joined first last rest⟩

/-- The gaps between ascending intervals, from `next` on. -/
def gaps (next : Nat) : List (Nat × Nat) → List (Nat × Nat)
  | [] => if next ≤ 0x10FFFF then [(next, 0x10FFFF)] else []
  | (first, last) :: rest =>
      if next < first then (next, first - 1) :: gaps (last + 1) rest
      else gaps (last + 1) rest

/-- The characters that a set lacks. -/
def complement (set : CharSet) : CharSet :=
  ⟨gaps 0 set.intervals⟩

/-- The set without characters. -/
def nothing : CharSet :=
  ⟨[]⟩

/-- The set of all characters. -/
def everything : CharSet :=
  ⟨[(0, 0x10FFFF)]⟩

/-- The set of one character. -/
def only (c : Char) : CharSet :=
  ⟨[(c.toNat, c.toNat)]⟩

/-- The characters from `first` to `last`. -/
def interval (first last : Char) : CharSet :=
  ⟨[(first.toNat, last.toNat)]⟩

/-- The characters of either set. -/
def union (left right : CharSet) : CharSet :=
  ofIntervals (left.intervals ++ right.intervals)

/-- The characters of a list of sets. -/
def anyOf (sets : List CharSet) : CharSet :=
  ofIntervals (sets.flatMap intervals)

/-- The characters of both sets. -/
def meet (left right : CharSet) : CharSet :=
  complement (union (complement left) (complement right))

/-- The characters of the first set that the second one lacks. -/
def without (left right : CharSet) : CharSet :=
  meet left right.complement

/-- The character of a set that has no other. -/
def single? (set : CharSet) : Option Char :=
  match set.intervals with
  | [(first, last)] =>
      if first = last ∧ first.isValidChar then some (Char.ofNat first) else none
  | _ => none

/-- Whether all characters of a set are ASCII. -/
def isAscii (set : CharSet) : Bool :=
  set.intervals.all fun (_, last) => last < 128

/-- The set extended by the other cases of its characters. -/
def upToCase (set : CharSet) : CharSet :=
  let folded := Text.foldings.filterMap fun (code, folded) =>
    if set.hasCode code || set.hasCode folded then some folded else none
  let variants := Text.foldings.filterMap fun (code, target) =>
    if folded.contains target then some code else none
  ofIntervals (set.intervals ++ (folded ++ variants).map fun code => (code, code))

/-- The set extended by the other cases of its ASCII letters. -/
def upToAsciiCase (set : CharSet) : CharSet :=
  let swapped (first last shift : Nat) : List (Nat × Nat) :=
    (set.meet ⟨[(first, last)]⟩).intervals.map fun (start, stop) =>
      (start + shift - 32, stop + shift - 32)
  ofIntervals (set.intervals ++ swapped 0x41 0x5A 64 ++ swapped 0x61 0x7A 0)

end CharSet

end Pinpoint
