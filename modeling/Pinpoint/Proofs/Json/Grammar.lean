import Mathlib.Data.List.Forall2
import Pinpoint.Text

/-!
# The grammar of JSON

The texts that are JSON values, whatever reads them: blanks around the tokens, every
way to write a character of a string, and every form of a number.
-/

namespace Pinpoint

namespace Json

/-- A text of blanks, as they may stand around tokens. -/
def Spaces (text : Text) : Prop :=
  ∀ c ∈ text, c = ' ' ∨ c = '\t' ∨ c = '\n' ∨ c = '\r'

/-! ### Strings -/

/-- A hexadecimal digit, of either case, by its value. -/
def HexDigit (value : Nat) (c : Char) : Prop :=
  "0123456789abcdef".toList[value]? = some c ∨ "0123456789ABCDEF".toList[value]? = some c

/-- A UTF-16 code unit written by its number. -/
inductive UnitEscape : Nat → Text → Prop
  | digits {a b c d : Nat} {first second third fourth : Char} (firstIs : HexDigit a first)
      (secondIs : HexDigit b second) (thirdIs : HexDigit c third) (fourthIs : HexDigit d fourth) :
      UnitEscape (4096 * a + 256 * b + 16 * c + d) ['\\', 'u', first, second, third, fourth]

/-- The UTF-16 code units of a character. -/
def units (c : Char) : List Nat :=
  if c.toNat < 0x10000 then [c.toNat]
  else [0xD800 + (c.toNat - 0x10000) / 0x400, 0xDC00 + (c.toNat - 0x10000) % 0x400]

/-- The letters that may follow a backslash, and what they stand for. -/
def letterEscapes : List (Char × Char) :=
  [('"', '"'), ('\\', '\\'), ('/', '/'), ('b', '\x08'), ('f', '\x0c'), ('n', '\n'),
    ('r', '\r'), ('t', '\t')]

/-- A character that may stand for itself in a string. -/
def Plain (c : Char) : Prop :=
  0x20 ≤ c.toNat ∧ c ≠ '"' ∧ c ≠ '\\'

instance (c : Char) : Decidable (Plain c) :=
  inferInstanceAs (Decidable (_ ∧ _ ∧ _))

/-- The ways to write a character in a string. -/
inductive SpellsChar (c : Char) : Text → Prop
  | plain (plain : Plain c) : SpellsChar c [c]
  | letter {letter : Char} (escape : (letter, c) ∈ letterEscapes) : SpellsChar c ['\\', letter]
  | units {parts : List Text} (escapes : List.Forall₂ UnitEscape (units c) parts) :
      SpellsChar c parts.flatten

/-- A string that stands for a text. -/
def SpellsText (value text : Text) : Prop :=
  ∃ parts, List.Forall₂ SpellsChar value parts ∧ text = '"' :: (parts.flatten ++ ['"'])

/-- A piece of a string.  The number of a code unit may stand alone even if it is one
half of a pair, which is then no character. -/
inductive StringPiece : Text → Prop
  | plain {c : Char} (plain : Plain c) : StringPiece [c]
  | letter {letter c : Char} (escape : (letter, c) ∈ letterEscapes) : StringPiece ['\\', letter]
  | unit {unit : Nat} {text : Text} (escape : UnitEscape unit text) : StringPiece text

/-- A string, whether it stands for a text or not. -/
def IsString (text : Text) : Prop :=
  ∃ parts : List Text, (∀ part ∈ parts, StringPiece part) ∧ text = '"' :: (parts.flatten ++ ['"'])

/-! ### Numbers -/

/-- Decimal digits, at least one. -/
def Digits (text : Text) : Prop :=
  text ≠ [] ∧ ∀ c ∈ text, c.isDigit = true

/-- Decimal digits without leading zeros. -/
def Whole (text : Text) : Prop :=
  Digits text ∧ (text.head? = some '0' → text = ['0'])

/-- The digits behind a point, if there is one. -/
inductive Fraction : Text → Prop
  | none : Fraction []
  | digits {digits : Text} (isDigits : Digits digits) : Fraction ('.' :: digits)

/-- The digits behind an exponent mark, if there is one. -/
inductive Exponent : Text → Prop
  | none : Exponent []
  | digits {mark : Char} {sign digits : Text} (isMark : mark = 'e' ∨ mark = 'E')
      (isSign : sign = [] ∨ sign = ['+'] ∨ sign = ['-']) (isDigits : Digits digits) :
      Exponent (mark :: (sign ++ digits))

/-- A number of any form. -/
inductive IsNumber : Text → Prop
  | parts {sign whole fraction exponent : Text} (isSign : sign = [] ∨ sign = ['-'])
      (isWhole : Whole whole) (isFraction : Fraction fraction) (isExponent : Exponent exponent) :
      IsNumber (sign ++ (whole ++ (fraction ++ exponent)))

/-- A number without sign as a plain decimal integer. -/
def SpellsNat (n : Nat) (text : Text) : Prop :=
  Whole text ∧ Nat.ofDigitChars 10 text 0 = n

/-! ### Arrays and objects -/

/-- Texts with commas between them, and blanks around each. -/
inductive Listed : List Text → Text → Prop
  | last {before item behind : Text} (spacesBefore : Spaces before)
      (spacesBehind : Spaces behind) : Listed [item] (before ++ (item ++ behind))
  | next {before item behind text : Text} {items : List Text} (spacesBefore : Spaces before)
      (spacesBehind : Spaces behind) (later : Listed items text) :
      Listed (item :: items) (before ++ (item ++ (behind ++ ',' :: text)))

/-- Texts between brackets, with commas between them. -/
inductive Enclosed (opening closing : Char) : List Text → Text → Prop
  | none {spaces : Text} (isSpaces : Spaces spaces) :
      Enclosed opening closing [] (opening :: (spaces ++ [closing]))
  | some {items : List Text} {text : Text} (listed : Listed items text) :
      Enclosed opening closing items (opening :: (text ++ [closing]))

/-- A member of an object with its name and its value, both as written. -/
inductive SpellsMember (name value : Text) : Text → Prop
  | parts {before behind : Text} (spacesBefore : Spaces before) (spacesBehind : Spaces behind) :
      SpellsMember name value (name ++ (before ++ ':' :: (behind ++ value)))

/-- An array of the items with the given texts. -/
def IsArray (items : List Text) (text : Text) : Prop :=
  Enclosed '[' ']' items text

/-- An object of members, of which names and values are given as written. -/
def IsObject (members : List (Text × Text)) (text : Text) : Prop :=
  ∃ parts, List.Forall₂ (fun member part => SpellsMember member.1 member.2 part) members parts ∧
    Enclosed '\x7b' '\x7d' parts text

/-- A value of any kind. -/
inductive IsValue : Text → Prop
  | null : IsValue "null".toList
  | true : IsValue "true".toList
  | false : IsValue "false".toList
  | number {text : Text} (isNumber : IsNumber text) : IsValue text
  | string {text : Text} (isString : IsString text) : IsValue text
  | array {items : List Text} {text : Text} (isArray : IsArray items text)
      (values : ∀ item ∈ items, IsValue item) : IsValue text
  | object {members : List (Text × Text)} {text : Text} (isObject : IsObject members text)
      (names : ∀ member ∈ members, IsString member.1)
      (values : ∀ member ∈ members, IsValue member.2) : IsValue text

/-- An object of members, of which the names are given as the texts that they stand for. -/
def SpellsObject (members : List (Text × Text)) (text : Text) : Prop :=
  ∃ written, List.Forall₂ (fun member (part : Text × Text) =>
      SpellsText member.1 part.1 ∧ part.2 = member.2) members written ∧
    IsObject written text

end Json

end Pinpoint
