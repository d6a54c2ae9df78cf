import Pinpoint.Text.Casing
import Pinpoint.Text.Letter

/-!
# Identifiers in other cases

An identifier is cut into words at everything that is neither letter nor
digit, before a capital that follows a small letter or a digit, and before the
last capital of an acronym that goes on in small letters.  The words are then
put together in the case asked for.
-/

namespace Pinpoint

namespace Identifier

/-- Whether a new word starts at a character, given its neighbours. -/
def startsWord (previous current : Char) (next : Option Char) : Bool :=
  Text.isUpper current &&
    (Text.isLower previous || previous.isDigit ||
      (Text.isUpper previous && next.any Text.isLower))

/-- Put a character in front of the first word. -/
def extendFirst (c : Char) : List Text → List Text
  | [] => [[c]]
  | first :: others => (c :: first) :: others

/-- The words of a text of letters and digits. -/
def splitChunk : Text → List Text
  | [] => []
  | [c] => [[c]]
  | c :: next :: rest =>
      let others := splitChunk (next :: rest)
      if startsWord c next rest.head? then [c] :: others else extendFirst c others

/-- The possibly empty runs of letters and digits between other characters. -/
def chunks : Text → List Text
  | [] => [[]]
  | c :: rest =>
      if Text.isAlphanumeric c then extendFirst c (chunks rest) else [] :: chunks rest

/-- The words of an identifier. -/
def words (text : Text) : List Text :=
  (chunks text).flatMap splitChunk

/-- Words joined by underscores. -/
def joined (words : List Text) : Text :=
  ['_'].intercalate words

/-- Words in capitals, joined by underscores. -/
def upperSnake (text : Text) : Text :=
  joined ((words text).map Text.toUpper)

/-- Words in small letters, joined by underscores. -/
def lowerSnake (text : Text) : Text :=
  joined ((words text).map Text.toLower)

/-- A word with a capital first letter. -/
def capitalised : Text → Text
  | [] => []
  | c :: rest => Text.upperOfChar c ++ Text.toLower rest

/-- Words with a capital first letter each, without anything between them. -/
def upperCamel (text : Text) : Text :=
  (words text).flatMap capitalised

end Identifier

/-- A way to write an identifier. -/
inductive LetterCase where
  | upperSnake
  | lowerSnake
  | upperCamel
  | lower
  deriving DecidableEq

/-- An identifier written in another case. -/
def LetterCase.recase : LetterCase → Text → Text
  | .upperSnake, text => Identifier.upperSnake text
  | .lowerSnake, text => Identifier.lowerSnake text
  | .upperCamel, text => Identifier.upperCamel text
  | .lower, text => Text.toLower text

end Pinpoint
