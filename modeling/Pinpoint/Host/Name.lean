import Pinpoint.CharSet.Category
import Pinpoint.Host.Direction
import Pinpoint.Host.Mapping
import Pinpoint.Text.Composition
import Pinpoint.Text.Punycode

/-!
# Names of machines

A name is a list of labels with points between them.  Names that differ only
in case, in compatibility variants or in how letters are composed are the same
name; its normal form is in ASCII.
-/

namespace Pinpoint

namespace Host

/-- How a label in ASCII begins that stands for one with other characters. -/
def codedMark : Text :=
  ['x', 'n', '-', '-']

/-- Whether an ASCII character may not stand in a name. -/
def isDenied (c : Char) : Bool :=
  c.toNat ≤ 32 || c.toNat = 127 ||
    ['%', '#', '/', ':', '<', '>', '?', '@', '[', '\\', ']', '^', '|'].contains c

/-- Marks, which cannot begin a label. -/
def combining : CharSet :=
  .ofCategories ["mn", "mc", "me"]

/-- Whether a character is one that tells its neighbours to join. -/
def isJoiner (c : Char) : Bool :=
  c.toNat = 0x200D

/-- Whether a character is one that keeps its neighbours apart. -/
def isSeparator (c : Char) : Bool :=
  c.toNat = 0x200C

/-- Whether the last of the characters before a place, which come in reverse,
leaves out its vowel. -/
def endsInVirama : Text → Bool
  | c :: _ => Text.markClass c == 9
  | [] => false

/-- Whether the first character that joining depends on is in a set. -/
def reaches (set : CharSet) (text : Text) : Bool :=
  match text.dropWhile joinsThrough.has with
  | c :: _ => set.has c
  | [] => false

/-- Whether every joiner and separator of a label is in a place where it makes
a difference; the characters before come in reverse. -/
def joinsWell (before : Text) : Text → Bool
  | [] => true
  | c :: rest =>
      (if isJoiner c then endsInVirama before
        else if isSeparator c then
          endsInVirama before || (reaches joinsNext before && reaches joinsLast rest)
        else true) &&
        joinsWell (c :: before) rest

/-- Whether a label outside ASCII is well formed. -/
def isLabel (label : Text) : Bool :=
  !(label.head?.any combining.has) && joinsWell [] label

/-- The label that a label of a name stands for, if it is well formed. -/
def label? (written : Text) : Option Text :=
  if codedMark.isPrefixOf written then
    match if written.all (·.toNat < 128) then Punycode.decode? (written.drop 4) else none with
    | none => none
    | some label =>
        if label.any (128 ≤ ·.toNat) ∧ label.all isPlain ∧ Text.compose label = label ∧
            !codedMark.isPrefixOf label ∧ isLabel label then some label
        else none
  else if written.all (·.toNat < 128) ∨ isLabel written then some written
  else none

/-- Whether a character makes the direction of its name matter. -/
def isDirected (c : Char) : Bool :=
  rightToLeft.has c || arabicNumber.has c

/-- Whether a character is a letter written from left to right. -/
def isLeftToRight (c : Char) : Bool :=
  !(isDirected c || europeanNumber.has c || neutral.has c || mark.has c || foreign.has c)

/-- Whether a label, without the marks at its end, keeps to the direction from
left to right. -/
def keepsRight (label : Text) : Bool :=
  label.all (fun c => !(isDirected c || foreign.has c)) &&
    label.getLast?.all fun c => isLeftToRight c || europeanNumber.has c

/-- Whether a label, without the marks at its end, keeps to the direction from
right to left; its digits have to be of one kind. -/
def keepsLeft (label : Text) : Bool :=
  label.all (fun c => !(isLeftToRight c || foreign.has c)) &&
    label.getLast?.all (fun c => isDirected c || europeanNumber.has c) &&
    !(label.any arabicNumber.has && label.any europeanNumber.has)

/-- Whether a label keeps to the direction of its first character. -/
def keepsDirection (label : Text) : Bool :=
  let body := (label.reverse.dropWhile mark.has).reverse
  match label with
  | [] => true
  | c :: _ =>
      if isLeftToRight c then keepsRight body
      else if rightToLeft.has c then keepsLeft body
      else false

/-- A label in ASCII. -/
def coded (label : Text) : Text :=
  if label.all (·.toNat < 128) then label else codedMark ++ Punycode.encode label

/-- The normal form of a name. -/
def normalName? (written : Text) : Option Text := do
  let name := Text.compose (← mapped? written)
  if name.any isDenied then none
  else
    let labels ← (CharSet.piecesAt (· == '.') name).mapM label?
    if labels.any (·.any isDirected) && !labels.all keepsDirection then none
    else some (['.'].intercalate (labels.map coded))

end Host

end Pinpoint
