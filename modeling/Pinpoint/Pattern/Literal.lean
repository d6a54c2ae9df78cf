import Pinpoint.Text.Letter

/-!
# Patterns for given texts

The pattern, in its written form, that finds a given text as a whole word.
-/

namespace Pinpoint

namespace Pattern

/-- Characters with a meaning of their own in a written pattern. -/
def metaCharacters : Text :=
  ['\\', '.', '+', '*', '?', '(', ')', '|', '[', ']', '\x7b', '\x7d', '^', '$',
    '#', '&', '-', '~']

/-- A text with a backslash before every character that has a meaning of its
own. -/
def escape (text : Text) : Text :=
  text.flatMap fun c => if metaCharacters.contains c then ['\\', c] else [c]

/-- Whether a word can start or end with the character. -/
def isWordLimit (c : Char) : Bool :=
  Text.isAlphanumeric c || c == '_'

/-- The written pattern for a text, as a whole word where the text starts or
ends like one. -/
def wholeWord (text : Text) : Text :=
  let edge (limit : Option Char) : Text :=
    if limit.any isWordLimit then ['\\', 'b'] else []
  edge text.head? ++ escape text ++ edge text.getLast?

end Pattern

end Pinpoint
