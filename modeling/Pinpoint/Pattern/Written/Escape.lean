import Pinpoint.CharSet.Named
import Pinpoint.Pattern.Cursor
import Pinpoint.Text.Blank

/-!
# Escapes in written patterns

What a backslash and the characters after it stand for, and the settings that
have a say in it.
-/

namespace Pinpoint

namespace Pattern

/-- Settings that a written pattern can change from a place on. -/
structure Flags where
  ignoreCase : Bool
  multiLine : Bool
  dotAll : Bool
  swapGreed : Bool
  /-- Carriage returns end lines as well. -/
  carriageReturns : Bool
  /-- Blanks and comments between signs have no meaning. -/
  verbose : Bool
  /-- Signs stand for characters of ASCII only. -/
  asciiOnly : Bool

namespace Flags

/-- The settings at the start of a pattern. -/
def initial : Flags :=
  ⟨false, false, false, false, false, false, false⟩

/-- A text without the blanks and comments it starts with; a comment goes from
a hash to the end of its line. -/
def dropComments (inComment : Bool) : Text → Text
  | [] => []
  | c :: rest =>
      if inComment then dropComments (c != '\n') rest
      else if Text.isBlank c then dropComments false rest
      else if c = '#' then dropComments true rest
      else c :: rest

/-- A text without what has no meaning at its start. -/
def skip (flags : Flags) (text : Text) : Text :=
  if flags.verbose then dropComments false text else text

/-- The first character of a text that has a meaning; of a comment only the
hash is passed over. -/
def peek (flags : Flags) (text : Text) : Option Char :=
  if flags.verbose then
    match text.dropWhile Text.isBlank with
    | '#' :: rest => ((rest.dropWhile Text.isBlank).head?).or text.head?
    | [] => text.head?
    | c :: _ => some c
  else text.head?

/-- A set as it counts under the settings for case. -/
def fold (flags : Flags) (set : CharSet) : CharSet :=
  if !flags.ignoreCase then set
  else if flags.asciiOnly then set.upToAsciiCase
  else set.upToCase

/-- A set or, if it is negated, the characters it lacks.  Those are never
ASCII only. -/
def negate? (flags : Flags) (negated : Bool) (set : CharSet) : Option CharSet :=
  if !negated then some set
  else if flags.asciiOnly then none
  else some set.complement

end Flags

/-- The character with a code, if there is one. -/
def charOfCode? (code : Nat) : Option Char :=
  if Nat.isValidChar code then some (Char.ofNat code) else none

/-- The characters up to a closing brace, and what follows it. -/
def readBraced? (flags : Flags) : Nat → Text → Option (Text × Text)
  | 0, _ => none
  | count + 1, text =>
      match flags.skip text with
      | [] => none
      | '\x7d' :: rest => some ([], rest)
      | c :: rest => (readBraced? flags count rest).map fun (word, rest) => (c :: word, rest)

/-- Some hexadecimal digits, and what follows them. -/
def readHexDigits? (flags : Flags) : Nat → Text → Option (Text × Text)
  | 0, text => some ([], text)
  | count + 1, text =>
      match flags.skip text with
      | [] => none
      | c :: rest => (readHexDigits? flags count rest).map fun (word, rest) => (c :: word, rest)

/-- A character given by its code in hexadecimal: `width` digits, or any number
of them in braces.  The answer says whether there were no braces. -/
def readCode? (flags : Flags) (width : Nat) (text : Text) : Option (Char × Bool × Text) :=
  match flags.skip text with
  | '\x7b' :: rest =>
      match readBraced? flags (text.length + 1) rest with
      | some (digits, rest) =>
          ((Text.hexNumber? digits).bind charOfCode?).map (·, false, rest)
      | none => none
  | text =>
      match readHexDigits? flags width text with
      | some (digits, rest) =>
          ((Text.hexNumber? digits).bind charOfCode?).map (·, true, rest)
      | none => none

/-- What an escape stands for. -/
inductive Escaped where
  /-- A character, given whether it is written as a byte. -/
  | char (c : Char) (asByte : Bool)
  /-- A set with a short sign, over all characters and over ASCII. -/
  | set (wide narrow : CharSet) (negated : Bool)
  | property (name : Text) (value : Option Text) (negated : Bool)
  | anchor (condition : Assertion)
  | edge (edge : WordEdge)

/-- The set that an escape stands for. -/
def Escaped.toSet? (flags : Flags) : Escaped → Option CharSet
  | char c _ => if flags.asciiOnly && 128 ≤ c.toNat then none else some (.only c)
  | set wide narrow negated =>
      flags.negate? negated (if flags.asciiOnly then narrow else wide)
  | property name value negated =>
      if flags.asciiOnly then none
      else
        let found :=
          match value with
          | some value => CharSet.valued? name value
          | none => CharSet.named? name
        found.bind fun set => flags.negate? negated (flags.fold set)
  | _ => none

/-- A name cut at the first mark between it and a value. -/
def cutValue (marks : Text) : Text → Option (Text × Text)
  | [] => none
  | c :: rest =>
      if marks.isPrefixOf (c :: rest) then some ([], (c :: rest).drop marks.length)
      else (cutValue marks rest).map fun (name, value) => (c :: name, value)

/-- The property that a name in braces stands for. -/
def ofName (negated : Bool) (name : Text) : Escaped :=
  match cutValue ['!', '='] name with
  | some (name, value) => .property name (some value) negated
  | none =>
      match cutValue [':'] name with
      | some (name, value) => .property name (some value) negated
      | none =>
          match cutValue ['='] name with
          | some (name, value) => .property name (some value) negated
          | none => .property name none negated

/-- A property: one letter, or a name in braces. -/
def readProperty? (flags : Flags) (negated : Bool) (text : Text) : Option (Escaped × Text) :=
  match flags.skip text with
  | [] => none
  | '\x7b' :: rest =>
      (readBraced? flags (rest.length + 1) rest).map fun (name, rest) =>
        (ofName negated name, rest)
  | '\\' :: _ => none
  | c :: rest => some (.property [c] none negated, rest)

/-- The letters and hyphens up to something else, and that. -/
def readLetters (flags : Flags) : Nat → Text → Text × Text
  | count + 1, c :: rest =>
      if c.isAlpha || c == '-' then
        let (word, rest) := readLetters flags count (flags.skip rest)
        (c :: word, rest)
      else ([], c :: rest)
  | _, text => ([], text)

/-- The edge of a word, after its sign: which edge it is may be said by a word
in braces. -/
def readEdge? (flags : Flags) (text : Text) : Option (Escaped × Text) :=
  match text with
  | '\x7b' :: inner =>
      match readLetters flags inner.length (flags.skip inner) with
      | ([], []) => none
      | ([], _) => some (.edge .startOrStop, text)
      | (word, '\x7d' :: rest) =>
          match String.ofList word with
          | "start" => some (.edge .start, rest)
          | "end" => some (.edge .stop, rest)
          | "start-half" => some (.edge .noneBefore, rest)
          | "end-half" => some (.edge .noneAfter, rest)
          | _ => none
      | _ => none
  | text => some (.edge .startOrStop, text)

/-- Whether a backslash in front of the character makes it stand for itself. -/
def isEscapable (c : Char) : Bool :=
  c.toNat < 128 && !c.isAlphanum && c != '<' && c != '>'

/-- What stands after a backslash. -/
def readEscape? (flags : Flags) : Text → Option (Escaped × Text)
  | [] => none
  | c :: rest =>
      let code (width : Nat) : Option (Escaped × Text) :=
        (readCode? flags width rest).map fun (c, plain, rest) =>
          (.char c (plain && width == 2), rest)
      let char (code : Nat) : Option (Escaped × Text) :=
        some (.char (Char.ofNat code) false, rest)
      match c with
      | 'd' => some (.set .digit .asciiDigit false, rest)
      | 'D' => some (.set .digit .asciiDigit true, rest)
      | 's' => some (.set .blank .asciiBlank false, rest)
      | 'S' => some (.set .blank .asciiBlank true, rest)
      | 'w' => some (.set .word .asciiWord false, rest)
      | 'W' => some (.set .word .asciiWord true, rest)
      | 'p' => readProperty? flags false rest
      | 'P' => readProperty? flags true rest
      | 'b' => readEdge? flags rest
      | 'B' => some (.edge .neither, rest)
      | '<' => some (.edge .start, rest)
      | '>' => some (.edge .stop, rest)
      | 'A' => some (.anchor .textStart, rest)
      | 'z' => some (.anchor .textEnd, rest)
      | 'a' => char 7
      | 't' => char 9
      | 'n' => char 10
      | 'v' => char 11
      | 'f' => char 12
      | 'r' => char 13
      | 'x' => code 2
      | 'u' => code 4
      | 'U' => code 8
      | c => if isEscapable c then some (.char c false, rest) else none

end Pattern

end Pinpoint
