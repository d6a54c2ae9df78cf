import Pinpoint.Json
import Pinpoint.Text.Digit

/-!
# Reading JSON

A strict reader of the JSON format: no comments, no trailing commas, no
leading zeros and no raw control characters in strings.  It reads one value
and leaves the rest of the text alone.
-/

namespace Pinpoint

namespace Json

/-- Whether a character may stand between the parts of a value. -/
def isSpace (c : Char) : Bool :=
  c == ' ' || c == '\t' || c == '\n' || c == '\r'

/-- The text from its first character that is not a space on. -/
def skipSpace (text : Text) : Text :=
  text.dropWhile isSpace

/-- Value of four hexadecimal digits. -/
def hexUnit? (a b c d : Char) : Option Nat :=
  match Text.hexValue? a, Text.hexValue? b, Text.hexValue? c, Text.hexValue? d with
  | some a, some b, some c, some d => some (((a * 16 + b) * 16 + c) * 16 + d)
  | _, _, _, _ => none

/-- Whether a UTF-16 code unit is the first of a pair. -/
def isHighSurrogate (unit : Nat) : Bool :=
  0xD800 ≤ unit && unit ≤ 0xDBFF

/-- Whether a UTF-16 code unit is the second of a pair. -/
def isLowSurrogate (unit : Nat) : Bool :=
  0xDC00 ≤ unit && unit ≤ 0xDFFF

/-- The character of a pair of UTF-16 code units. -/
def pairedChar (high low : Nat) : Char :=
  Char.ofNat (0x10000 + (high - 0xD800) * 0x400 + (low - 0xDC00))

/-- The character that a letter stands for after a backslash. -/
def shortEscape? (c : Char) : Option Char :=
  match c with
  | '"' => some '"'
  | '\\' => some '\\'
  | '/' => some '/'
  | 'b' => some (Char.ofNat 8)
  | 'f' => some (Char.ofNat 12)
  | 'n' => some '\n'
  | 'r' => some '\r'
  | 't' => some '\t'
  | _ => none

/-- Put a character, if there is one, in front of what was read of a string. -/
def prependChar (c : Option Char) : Option Text × Text → Option Text × Text
  | (some text, rest) => (c.map (· :: text), rest)
  | (none, rest) => (none, rest)

/-- A string after its opening quote: the text it stands for, if any, and what
follows its closing quote. -/
def readString? : Text → Option (Option Text × Text)
  | [] => none
  | '"' :: rest => some (some [], rest)
  | '\\' :: 'u' :: a :: b :: c :: d :: '\\' :: 'u' :: e :: f :: g :: h :: rest =>
      match hexUnit? a b c d, hexUnit? e f g h with
      | some first, some second =>
          if isHighSurrogate first && isLowSurrogate second then
            (readString? rest).map (prependChar (some (pairedChar first second)))
          else
            let char :=
              if isHighSurrogate first || isLowSurrogate first then none
              else some (Char.ofNat first)
            (readString? ('\\' :: 'u' :: e :: f :: g :: h :: rest)).map (prependChar char)
      | _, _ => none
  | '\\' :: 'u' :: a :: b :: c :: d :: rest =>
      match hexUnit? a b c d with
      | some unit =>
          let char :=
            if isHighSurrogate unit || isLowSurrogate unit then none
            else some (Char.ofNat unit)
          (readString? rest).map (prependChar char)
      | none => none
  | '\\' :: c :: rest =>
      match shortEscape? c with
      | some char => (readString? rest).map (prependChar (some char))
      | none => none
  | c :: rest =>
      if c.toNat < 32 || c == '\\' then none
      else (readString? rest).map (prependChar (some c))

/-- The closing quote ends every string. -/
@[simp]
theorem readString?_quote (rest : Text) : readString? ('"' :: rest) = some (some [], rest) := by
  rw [readString?]

/-- The digits at the start of a text, at least one. -/
def readDigits? (text : Text) : Option (Text × Text) :=
  match text.span Char.isDigit with
  | ([], _) => none
  | found => some found

/-- The digits before the point: a zero, or digits that do not start with
one. -/
def readWhole? : Text → Option (Text × Text)
  | '0' :: rest => if rest.head?.any Char.isDigit then none else some (['0'], rest)
  | text => readDigits? text

/-- A point and the digits after it, if there is a point. -/
def readFraction? : Text → Option (Text × Text)
  | '.' :: rest => (readDigits? rest).map fun (digits, rest) => ('.' :: digits, rest)
  | text => some ([], text)

/-- An exponent, if there is one. -/
def readExponent? : Text → Option (Text × Text)
  | mark :: rest =>
      if mark == 'e' || mark == 'E' then
        let (sign, body) :=
          match rest with
          | '+' :: rest => (['+'], rest)
          | '-' :: rest => (['-'], rest)
          | _ => ([], rest)
        (readDigits? body).map fun (digits, rest) => (mark :: sign ++ digits, rest)
      else some ([], mark :: rest)
  | [] => some ([], [])

/-- Digits as a significand of at most 64 bits, and how many digits that do not
fit were left out behind it. -/
def wholePart (digits : Text) : Nat × Nat :=
  digits.foldl
    (fun (value, dropped) c =>
      let longer := 10 * value + (c.toNat - 48)
      if dropped = 0 ∧ longer < Nat.pow 2 64 then (longer, 0) else (value, dropped + 1))
    (0, 0)

/-- A significand extended by the digits of a fraction, up to the first that
does not fit, and how many of them were taken. -/
def fractionPart (value : Nat) : Text → Nat × Nat
  | [] => (value, 0)
  | c :: rest =>
      let longer := 10 * value + (c.toNat - 48)
      if longer < Nat.pow 2 64 then
        let (value, taken) := fractionPart longer rest
        (value, taken + 1)
      else (value, 0)

/-- The power of ten that an exponent with its mark gives. -/
def exponentPart : Text → Int
  | _ :: '-' :: digits => -(Text.decimalNumber digits : Int)
  | _ :: '+' :: digits => Text.decimalNumber digits
  | _ :: digits => Text.decimalNumber digits
  | [] => 0

/-- A number from its parts.  It is whole if it has no fraction and no exponent
and fits into 64 bits, where a negative zero does not count as whole. -/
def numberOf (negative : Bool) (whole fraction exponent : Text) : Json :=
  let value := Text.decimalNumber whole
  let fits := if negative then 0 < value ∧ value ≤ Nat.pow 2 63 else value < Nat.pow 2 64
  if fraction.isEmpty ∧ exponent.isEmpty ∧ fits then
    int (if negative then -Int.ofNat value else Int.ofNat value)
  else
    let (significand, dropped) := wholePart whole
    let (significand, taken) := fractionPart significand (fraction.drop 1)
    float (.ofScientific negative significand
      ((dropped : Int) - (taken : Int) + exponentPart exponent))

/-- A number. -/
def readNumber? (text : Text) : Option (Json × Text) :=
  let (negative, body) :=
    match text with
    | '-' :: rest => (true, rest)
    | _ => (false, text)
  match readWhole? body with
  | none => none
  | some (whole, rest) =>
      match readFraction? rest with
      | none => none
      | some (fraction, rest) =>
          (readExponent? rest).map fun (exponent, rest) =>
            (numberOf negative whole fraction exponent, rest)

mutual

/-- A value at the start of a text, of which no part is nested deeper than
`depth` steps of the reader. -/
def readValue? : Nat → Text → Option (Json × Text)
  | 0, _ => none
  | depth + 1, text =>
      match skipSpace text with
      | 'n' :: 'u' :: 'l' :: 'l' :: rest => some (null, rest)
      | 't' :: 'r' :: 'u' :: 'e' :: rest => some (bool true, rest)
      | 'f' :: 'a' :: 'l' :: 's' :: 'e' :: rest => some (bool false, rest)
      | '"' :: rest => (readString? rest).map fun (text, rest) => (str text, rest)
      | '[' :: rest =>
          match skipSpace rest with
          | ']' :: rest => some (arr [], rest)
          | _ => (readItems? depth rest).map fun (items, rest) => (arr items, rest)
      | '\x7b' :: rest =>
          match skipSpace rest with
          | '\x7d' :: rest => some (obj [], rest)
          | _ => (readMembers? depth rest).map fun (members, rest) => (obj members, rest)
      | text => readNumber? text

/-- The items of an array, at least one, and the closing bracket. -/
def readItems? : Nat → Text → Option (List Json × Text)
  | 0, _ => none
  | depth + 1, text =>
      match readValue? depth text with
      | none => none
      | some (item, rest) =>
          match skipSpace rest with
          | ']' :: rest => some ([item], rest)
          | ',' :: rest =>
              (readItems? depth rest).map fun (items, rest) => (item :: items, rest)
          | _ => none

/-- The members of an object, at least one, and the closing brace. -/
def readMembers? : Nat → Text → Option (List (Option Text × Json) × Text)
  | 0, _ => none
  | depth + 1, text =>
      match skipSpace text with
      | '"' :: rest =>
          match readString? rest with
          | none => none
          | some (name, rest) =>
              match skipSpace rest with
              | ':' :: rest =>
                  match readValue? depth rest with
                  | none => none
                  | some (value, rest) =>
                      match skipSpace rest with
                      | '\x7d' :: rest => some ([(name, value)], rest)
                      | ',' :: rest =>
                          (readMembers? depth rest).map fun (members, rest) =>
                            ((name, value) :: members, rest)
                      | _ => none
              | _ => none
      | _ => none

end

@[simp]
theorem readValue?_zero (text : Text) : readValue? 0 text = none := by
  rw [readValue?]

@[simp]
theorem readItems?_zero (text : Text) : readItems? 0 text = none := by
  rw [readItems?]

@[simp]
theorem readMembers?_zero (text : Text) : readMembers? 0 text = none := by
  rw [readMembers?]

/-- The value at the start of a text, and what follows it. -/
def read? (text : Text) : Option (Json × Text) :=
  readValue? (text.length + 1) text

end Json

end Pinpoint
