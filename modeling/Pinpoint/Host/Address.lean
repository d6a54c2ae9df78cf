import Pinpoint.CharSet.Codes

/-!
# Addresses of machines

A host can be given by a number: a short address of four bytes, or a long one
of eight groups of sixteen bits.
-/

namespace Pinpoint

namespace Host

/-- The number that a text of octal digits stands for. -/
def octalNumber? (digits : Text) : Option Nat :=
  digits.foldlM
    (fun value c => if '0' ≤ c ∧ c ≤ '7' then some (8 * value + (c.toNat - 48)) else none) 0

/-- A part of a short address: decimal, octal after a zero, or hexadecimal
after a zero and a letter, where no digits stand for zero. -/
def shortPart? (part : Text) : Option Nat :=
  match part with
  | [] => none
  | '0' :: 'x' :: digits => if digits.isEmpty then some 0 else Text.hexNumber? digits
  | '0' :: 'X' :: digits => if digits.isEmpty then some 0 else Text.hexNumber? digits
  | '0' :: c :: digits => octalNumber? (c :: digits)
  | digits => if digits.all Char.isDigit then some (Text.decimalNumber digits) else none

/-- The parts of a name between points, without an empty one at the end. -/
def dottedParts (name : Text) : List Text :=
  match (CharSet.piecesAt (· == '.') name).reverse with
  | [] :: rest => rest.reverse
  | parts => parts.reverse

/-- Whether a name ends in a number, so that it can only be a short address. -/
def endsInNumber (name : Text) : Bool :=
  match (dottedParts name).getLast? with
  | none => false
  | some last => (!last.isEmpty && last.all Char.isDigit) || (shortPart? last).isSome

/-- The number of a short address whose parts stand for some numbers: each of
them for a byte, and the last one for all bytes that are left. -/
def shortNumber? : (bytes : Nat) → List Nat → Option Nat
  | _, [] => none
  | bytes, [last] => if last < 256 ^ bytes then some last else none
  | bytes, number :: rest =>
      if number < 256 then
        (shortNumber? (bytes - 1) rest).map (number * 256 ^ (bytes - 1) + ·)
      else none

/-- The number of a short address. -/
def shortAddress? (name : Text) : Option Nat :=
  let parts := dottedParts name
  if parts.length ≤ 4 then (parts.mapM shortPart?).bind (shortNumber? 4) else none

/-- A short address as written. -/
def shortText (address : Nat) : Text :=
  let byte (place : Nat) : Text := Nat.toDigits 10 (address / Nat.pow 256 place % 256)
  byte 3 ++ '.' :: byte 2 ++ '.' :: byte 1 ++ '.' :: byte 0

/-- A group of a long address, of at most four digits. -/
def group? (digits : Text) : Option Nat :=
  if digits.length ≤ 4 then Text.hexNumber? digits else none

/-- A byte in decimal digits, without leading zeros. -/
def byte? (digits : Text) : Option Nat :=
  match digits with
  | [] => none
  | ['0'] => some 0
  | '0' :: _ => none
  | digits =>
      let value := Text.decimalNumber digits
      if digits.all Char.isDigit ∧ value < 256 then some value else none

/-- The two groups that a short address at the end of a long one gives. -/
def shortGroups? (written : Text) : Option (List Nat) :=
  match (CharSet.piecesAt (· == '.') written).mapM byte? with
  | some [a, b, c, d] => some [256 * a + b, 256 * c + d]
  | _ => none

/-- The groups that pieces between colons give, of which the last one may be a
short address. -/
def groups? : List Text → Option (List Nat)
  | [] => some []
  | [last] => if last.contains '.' then shortGroups? last else (group? last).map ([·])
  | piece :: rest => do return (← group? piece) :: (← groups? rest)

/-- The pieces between colons before and after the first two colons in a row,
if there are any. -/
def atGap : List Text → List Text × Option (List Text)
  | [] => ([], none)
  | [piece, []] => ([piece, []], none)
  | piece :: [] :: rest =>
      (if piece.isEmpty then [] else [piece], some (if rest = [[]] then [] else rest))
  | piece :: rest =>
      let (before, after) := atGap rest
      (piece :: before, after)

/-- The groups of a long address.  Two colons in a row stand for at least one
group of zero, as many as are missing. -/
def longAddress? (written : Text) : Option (List Nat) :=
  match atGap (CharSet.piecesAt (· == ':') written) with
  | (pieces, none) => do
      let groups ← groups? pieces
      if groups.length = 8 then some groups else none
  | (before, some after) => do
      let first ← before.mapM group?
      let last ← groups? after
      let given := first.length + last.length
      if given ≤ 7 then some (first ++ List.replicate (8 - given) 0 ++ last) else none

/-- How many zeros a list starts with. -/
def zerosAtStart (groups : List Nat) : Nat :=
  (groups.takeWhile (· == 0)).length

/-- The length of the longest run of zeros. -/
def longestRun : List Nat → Nat
  | [] => 0
  | group :: rest => max (zerosAtStart (group :: rest)) (longestRun rest)

/-- Groups with colons between them. -/
def groupsText (groups : List Nat) : Text :=
  [':'].intercalate (groups.map (Nat.toDigits 16))

/-- Groups in which the first run of `run` zeros is left out. -/
def withGap (run : Nat) (before : List Nat) : List Nat → Text
  | [] => groupsText before.reverse
  | group :: rest =>
      if zerosAtStart (group :: rest) = run then
        groupsText before.reverse ++ ':' :: ':' :: groupsText ((group :: rest).drop run)
      else withGap run (group :: before) rest

/-- A long address as written: the longest run of zeros is left out, if there
are at least two. -/
def longText (groups : List Nat) : Text :=
  let run := longestRun groups
  if run < 2 then groupsText groups else withGap run [] groups

end Host

end Pinpoint
