import Pinpoint.Text

/-!
# Names in letters and digits

A label of a host name with characters outside ASCII is written as its ASCII
characters, a hyphen, and numbers that tell where the other characters belong.
The numbers are differences, in an order by code point and then by place, and
their digits weigh more or less depending on the size of the numbers before.
-/

namespace Pinpoint

namespace Punycode

/-- How the weight of digits starts. -/
def initialBias : Nat :=
  72

/-- The smallest code point that is told by a number. -/
def initialCode : Nat :=
  128

/-- The digit with a value below 36: a letter or, from 26 on, a digit. -/
def digit (value : Nat) : Char :=
  Char.ofNat (if value < 26 then 97 + value else 22 + value)

/-- The value of a digit. -/
def digitValue? (c : Char) : Option Nat :=
  if 'a' ≤ c ∧ c ≤ 'z' then some (c.toNat - 97)
  else if 'A' ≤ c ∧ c ≤ 'Z' then some (c.toNat - 65)
  else if '0' ≤ c ∧ c ≤ '9' then some (c.toNat - 22)
  else none

/-- The value below which the digit at `place`, a multiple of 36, is the last
one of its number. -/
def threshold (place bias : Nat) : Nat :=
  min 26 (max 1 (place - bias))

/-- Scale a difference down, and add up what that means for the bias. -/
def scaled (delta bias : Nat) : Nat :=
  if 455 < delta then scaled (delta / 35) (bias + 36) else bias + 36 * delta / (delta + 38)
termination_by delta
decreasing_by exact Nat.div_lt_self (by omega) (by omega)

/-- The bias after a difference, with `count` characters in place. -/
def adapted (delta count : Nat) (first : Bool) : Nat :=
  let delta := if first then delta / 700 else delta / 2
  scaled (delta + delta / count) 0

/-- The digits of a number, from `place` on. -/
def writeNumber (bias place value : Nat) : Text :=
  let limit := threshold place bias
  if value < limit then [digit value]
  else
    digit (limit + (value - limit) % (36 - limit)) ::
      writeNumber bias (place + 36) ((value - limit) / (36 - limit))
termination_by value
decreasing_by
  have positive : 1 ≤ threshold place bias := by unfold threshold; omega
  exact Nat.lt_of_le_of_lt (Nat.div_le_self _ _) (by omega)

/-- How far the numbers of a label are written. -/
structure Progress where
  written : Text
  /-- The difference since the last number. -/
  delta : Nat
  bias : Nat
  /-- How many characters are in place. -/
  count : Nat

/-- Pass a character of the label, where the characters of code point `code`
are being told. -/
def Progress.pass (ascii code : Nat) (progress : Progress) (c : Char) : Progress :=
  if c.toNat < code then { progress with delta := progress.delta + 1 }
  else if c.toNat = code then
    ⟨progress.written ++ writeNumber progress.bias 36 progress.delta, 0,
      adapted progress.delta (progress.count + 1) (progress.count == ascii), progress.count + 1⟩
  else progress

/-- The numbers that tell where the characters of some ascending code points
belong. -/
def writeNumbers (label : Text) (ascii : Nat) : (next : Nat) → List Nat → Progress → Text
  | _, [], progress => progress.written
  | next, code :: rest, progress =>
      let skipped :=
        { progress with delta := progress.delta + (code - next) * (progress.count + 1) }
      let passed := label.foldl (Progress.pass ascii code) skipped
      writeNumbers label ascii (code + 1) rest { passed with delta := passed.delta + 1 }

/-- Insert a number into an ascending list that does not hold it. -/
def insertOnce (n : Nat) : List Nat → List Nat
  | [] => [n]
  | m :: rest =>
      if n < m then n :: m :: rest
      else if n = m then m :: rest
      else m :: insertOnce n rest

/-- A label in letters and digits. -/
def encode (label : Text) : Text :=
  let ascii := label.filter (·.toNat < initialCode)
  let others := (label.filter (initialCode ≤ ·.toNat)).map Char.toNat
  let count := ascii.length
  ascii ++ (if ascii.isEmpty then [] else ['-']) ++
    writeNumbers label count initialCode (others.foldr insertOnce [])
      ⟨[], 0, initialBias, count⟩

/-- A number whose digits start at `place` and weigh `weight` there, and what
follows it. -/
def readNumber? (bias place weight : Nat) : Text → Option (Nat × Text)
  | [] => none
  | c :: rest =>
      match digitValue? c with
      | none => none
      | some value =>
          let limit := threshold place bias
          if value < limit then some (value * weight, rest)
          else
            (readNumber? bias (place + 36) (weight * (36 - limit)) rest).map
              fun (more, rest) => (value * weight + more, rest)

/-- Put characters where up to `steps` numbers tell.  The last character was of
code point `code`, and the next one would have come to `place`. -/
def insertChars? : (steps : Nat) → (done : Text) → (code place bias : Nat) → Text → Option Text
  | _, done, _, _, _, [] => some done
  | 0, _, _, _, _, _ :: _ => none
  | steps + 1, done, code, place, bias, numbers =>
      match readNumber? bias 36 1 numbers with
      | none => none
      | some (delta, rest) =>
          let count := done.length + 1
          let code := code + (place + delta) / count
          let place' := (place + delta) % count
          if code.isValidChar then
            insertChars? steps (done.take place' ++ Char.ofNat code :: done.drop place') code
              (place' + 1) (adapted delta count (place == 0)) rest
          else none

/-- The label that letters and digits stand for. -/
def decode? (written : Text) : Option Text :=
  let (numbers, ascii) := written.reverse.span (· != '-')
  match ascii with
  | _ :: c :: rest =>
      insertChars? numbers.length (c :: rest).reverse initialCode 0 initialBias numbers.reverse
  | _ => insertChars? written.length [] initialCode 0 initialBias written

end Punycode

end Pinpoint
