import Pinpoint.Binary
import Pinpoint.Text.Quoted

/-!
# JSON values

Values of the JSON data format with their members in order, and how they are
written without blanks.  A written string can name half of a surrogate pair;
such a string is well formed, but stands for no text.
-/

namespace Pinpoint

/-- A JSON value. -/
inductive Json where
  | null
  | bool (value : Bool)
  | int (value : Int)
  /-- A number with a fraction or an exponent, a negative zero, or a whole
  number of more than 64 bits. -/
  | float (value : Binary)
  /-- A string, with its text if it stands for one. -/
  | str (text : Option Text)
  | arr (items : List Json)
  | obj (members : List (Option Text × Json))
  deriving Inhabited

namespace Json

/-- The string of a text. -/
@[match_pattern]
def ofText (text : Text) : Json :=
  str (some text)

/-- A member of an object. -/
def member (name : String) (value : Json) : Option Text × Json :=
  (some name.toList, value)

/-- A number without sign. -/
def nat (n : Nat) : Json :=
  int (Int.ofNat n)

/-- The values of the members with a given name. -/
def valuesOf (name : String) (members : List (Option Text × Json)) : List Json :=
  (members.filter fun entry => entry.1 == some name.toList).map (·.2)

/-- The value of a member of an object; the last one of that name counts. -/
def get? (json : Json) (name : String) : Option Json :=
  match json with
  | obj members => (valuesOf name members).getLast?
  | _ => none

/-- The text of a string. -/
def asText? : Json → Option Text
  | ofText value => some value
  | _ => none

/-- The number, if it is a whole one without sign. -/
def asNat? : Json → Option Nat
  | int (Int.ofNat n) => some n
  | _ => none

/-- A whole number in decimal digits. -/
def intText : Int → Text
  | Int.ofNat n => Nat.toDigits 10 n
  | Int.negSucc n => '-' :: Nat.toDigits 10 (n + 1)

/-- A character of a written string. -/
def writtenChar (c : Char) : Text :=
  if c = '"' then ['\\', '"']
  else if c = '\\' then ['\\', '\\']
  else if c = '\n' then ['\\', 'n']
  else if c = '\r' then ['\\', 'r']
  else if c = '\t' then ['\\', 't']
  else if c.toNat = 8 then ['\\', 'b']
  else if c.toNat = 12 then ['\\', 'f']
  else if c.toNat < 16 then "\\u000".toList ++ Text.hexDigits c.toNat
  else if c.toNat < 32 then "\\u00".toList ++ Text.hexDigits c.toNat
  else [c]

/-- A written string. -/
def writtenString : Option Text → Text
  | some text => ['"'] ++ text.flatMap writtenChar ++ ['"']
  | none => "\"\\ud800\"".toList

mutual

/-- A value as written without blanks. -/
def compact : Json → Text
  | null => "null".toList
  | bool true => "true".toList
  | bool false => "false".toList
  | int value => intText value
  | float value => value.toText
  | str text => writtenString text
  | arr items => ['['] ++ compactItems items ++ [']']
  | obj members => ['\x7b'] ++ compactMembers members ++ ['\x7d']

/-- The items of an array as written without blanks. -/
def compactItems : List Json → Text
  | [] => []
  | [item] => compact item
  | item :: next :: rest => compact item ++ [','] ++ compactItems (next :: rest)

/-- The members of an object as written without blanks. -/
def compactMembers : List (Option Text × Json) → Text
  | [] => []
  | [(name, value)] => writtenString name ++ [':'] ++ compact value
  | (name, value) :: next :: rest =>
      writtenString name ++ [':'] ++ compact value ++ [','] ++ compactMembers (next :: rest)

end

end Json

end Pinpoint
