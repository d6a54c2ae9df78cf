import Pinpoint.Text

/-!
# Binary numbers of double precision

Numbers with 53 significant bits and a bounded exponent, exactly: sums of
powers of two in `Nat`, without any arithmetic of the machine.  A quotient is
rounded to the nearest such number, and a number is written with the fewest
decimal digits that still round to it.
-/

namespace Pinpoint

/-- The number `significand · 2 ^ exponent`, with a sign. -/
structure Binary where
  negative : Bool
  significand : Nat
  exponent : Int
  deriving DecidableEq

namespace Binary

/-- A natural number times a power of two or ten, where negative powers count
as one. -/
def scaledUp (base : Nat) (power : Int) (n : Nat) : Nat :=
  n * Nat.pow base power.toNat

/-- The quotient as a natural number; a half goes to the even neighbour. -/
def roundedQuotient (numerator denominator : Nat) : Nat :=
  let quotient := numerator / denominator
  let twice := 2 * (numerator % denominator)
  if denominator < twice || (twice == denominator && quotient % 2 == 1) then quotient + 1
  else quotient

/-- The power of two that the last of 53 bits of a positive quotient stands
for; there are no powers below the smallest positive number. -/
def lastPlace (numerator denominator : Nat) : Int :=
  let guess : Int := (Nat.log2 numerator : Int) - (Nat.log2 denominator : Int)
  let isLess := scaledUp 2 (-guess) numerator < scaledUp 2 guess denominator
  max ((if isLess then guess - 1 else guess) - 52) (-1074)

/-- The binary number nearest to a quotient. -/
def ofQuotient (negative : Bool) (numerator denominator : Nat) : Binary :=
  if numerator = 0 then ⟨negative, 0, 0⟩
  else
    let place := lastPlace numerator denominator
    let significand :=
      roundedQuotient (scaledUp 2 (-place) numerator) (scaledUp 2 place denominator)
    if significand = Nat.pow 2 53 then ⟨negative, Nat.pow 2 52, place + 1⟩
    else ⟨negative, significand, place⟩

/-- The binary number nearest to a natural number. -/
def ofNat (n : Nat) : Binary :=
  ofQuotient false n 1

/-- The product, rounded. -/
def mul (left right : Binary) : Binary :=
  let exponent := left.exponent + right.exponent
  ofQuotient (left.negative != right.negative)
    (scaledUp 2 exponent (left.significand * right.significand)) (scaledUp 2 (-exponent) 1)

/-- The quotient, rounded. -/
def div (left right : Binary) : Binary :=
  let exponent := left.exponent - right.exponent
  ofQuotient (left.negative != right.negative)
    (scaledUp 2 exponent left.significand) (scaledUp 2 (-exponent) right.significand)

/-- A number times a power of ten, rounded at every step: a power of ten is
rounded before it is used, and none beyond the 308th is.  After `steps`
divisions by that one nothing is left of a number. -/
def timesTen : (steps : Nat) → Binary → Int → Binary
  | 0, number, _ => number
  | steps + 1, number, power =>
      let ten (power : Nat) : Binary := ofNat (10 ^ power)
      if 0 ≤ power then number.mul (ten (min power.toNat 308))
      else if -308 ≤ power then number.div (ten (-power).toNat)
      else timesTen steps (number.div (ten 308)) (power + 308)

/-- The number that the digits of a scientific notation stand for. -/
def ofScientific (negative : Bool) (significand : Nat) (power : Int) : Binary :=
  { timesTen 4 (ofNat significand) power with negative := negative }

/-- The number nearest to `digits · 10 ^ power`. -/
def ofDecimal (negative : Bool) (digits : Nat) (power : Int) : Binary :=
  ofQuotient negative (scaledUp 10 power digits) (scaledUp 10 (-power) 1)

/-- A positive number in units of a power of ten, as a quotient. -/
def inUnits (number : Binary) (power : Int) : Nat × Nat :=
  (scaledUp 10 (-power) (scaledUp 2 number.exponent number.significand),
    scaledUp 10 power (scaledUp 2 (-number.exponent) 1))

/-- The highest power of ten that a positive number reaches. -/
def leadingPower (number : Binary) : Int :=
  let reached (power : Int) : Bool :=
    let (numerator, denominator) := number.inUnits power
    denominator ≤ numerator
  (((List.range 633).map fun (k : Nat) => (308 : Int) - k).find? reached).getD 0

/-- The digits and the power of ten of a decimal with `count` digits that
rounds to a positive number, if there is one.  Of the two neighbours of the
number the nearer one is preferred. -/
def decimalOf? (number : Binary) (leading : Int) (count : Nat) : Option (Nat × Int) :=
  let power := leading - (count : Int) + 1
  let (numerator, denominator) := number.inUnits power
  let near := roundedQuotient numerator denominator
  let low := numerator / denominator
  let far := if near = low then low + 1 else low
  let reads (digits : Nat) : Bool := ofDecimal number.negative digits power == number
  ([near, far].find? reads).map (·, power)

/-- The fewest digits that round to a positive number, and the power of ten
that the last of them stands for. -/
def shortest (number : Binary) : Nat × Int :=
  let leading := number.leadingPower
  ((List.range 17).findSome? fun k => number.decimalOf? leading (k + 1)).getD (0, 0)

/-- Digits without zeros at their end, and the power of ten of the last. -/
def withoutZeros (digits : Text) (power : Int) : Text × Int :=
  let kept := (digits.reverse.dropWhile (· == '0')).reverse
  (kept, power + ((digits.length - kept.length : Nat) : Int))

/-- Digits of which the last stands for a power of ten, in plain notation if
the first stands for a power between the minus fifth and the fifteenth, and in
scientific notation otherwise. -/
def inNotation (digits : Text) (power : Int) : Text :=
  let leading := power + (digits.length : Int) - 1
  if -5 ≤ leading ∧ leading ≤ 15 then
    if 0 ≤ power then digits ++ List.replicate power.toNat '0' ++ ['.', '0']
    else if 0 ≤ leading then
      digits.take (leading.toNat + 1) ++ ['.'] ++ digits.drop (leading.toNat + 1)
    else ['0', '.'] ++ List.replicate (-leading - 1).toNat '0' ++ digits
  else
    let fraction := digits.drop 1
    digits.take 1 ++ (if fraction.isEmpty then [] else '.' :: fraction) ++
      ['e', if leading < 0 then '-' else '+'] ++ Nat.toDigits 10 leading.natAbs

/-- A number in decimal notation. -/
def toText (number : Binary) : Text :=
  let sign : Text := if number.negative then ['-'] else []
  if number.significand = 0 then sign ++ ['0', '.', '0']
  else
    let (digits, power) := number.shortest
    let (digits, power) := withoutZeros (Nat.toDigits 10 digits) power
    sign ++ inNotation digits power

end Binary

end Pinpoint
