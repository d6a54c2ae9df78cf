import Pinpoint.Text

/-!
# Character tables

Sets and maps of code points, written as intervals.  Many alphabets alternate
capital and small letters, so an interval may also take every second code
point.
-/

namespace Pinpoint

namespace Text

/-- Whether one of the closed intervals holds the code point. -/
def covers (intervals : List (Nat × Nat)) (code : Nat) : Bool :=
  intervals.any fun (first, last) => first ≤ code && code ≤ last

/-- The code points `first`, `first + step`, up to `last`. -/
structure Stride where
  first : Nat
  last : Nat
  step : Nat

/-- Whether a stride holds the code point. -/
def Stride.has (stride : Stride) (code : Nat) : Bool :=
  stride.first ≤ code && code ≤ stride.last &&
    (code - stride.first) % stride.step == 0

/-- A stride moved as a whole, so that `first` lands on `target`. -/
structure Shift where
  first : Nat
  last : Nat
  step : Nat
  target : Nat

/-- Whether a shift moves the code point. -/
def Shift.has (shift : Shift) (code : Nat) : Bool :=
  shift.first ≤ code && code ≤ shift.last &&
    (code - shift.first) % shift.step == 0

/-- Image of a code point under the first shift that moves it. -/
def shifted (shifts : List Shift) (code : Nat) : Nat :=
  match shifts.find? (·.has code) with
  | some shift => shift.target + (code - shift.first)
  | none => code

end Text

end Pinpoint
