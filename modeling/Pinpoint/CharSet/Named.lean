import Pinpoint.CharSet.Age
import Pinpoint.CharSet.Script
import Pinpoint.CharSet.Trait

/-!
# Sets of characters by name

A set is named by a property that its characters have, by a general category,
by a script, or by a property together with a value.
-/

namespace Pinpoint

namespace CharSet

/-- A name without its differences in spelling: case, spaces, hyphens,
underscores, characters outside ASCII and a leading "is" do not count. -/
def plainName (written : Text) : String :=
  let isIs (c d : Char) : Bool := c.toLower == 'i' && d.toLower == 's'
  let keep (text : Text) : Text :=
    (text.filter fun c =>
      c.toNat < 128 && c != ' ' && c != '-' && c != '_').map Char.toLower
  match written with
  | c :: d :: rest =>
      if isIs c d then
        if keep rest = ['c'] then "isc" else String.ofList (keep rest)
      else String.ofList (keep written)
  | _ => String.ofList (keep written)

/-- The set with a name of its own. -/
def named? (written : Text) : Option CharSet :=
  let name := plainName written
  match trait? name with
  | some set => some set
  | none =>
      match category? name with
      | some set => some set
      | none => script? name

/-- The set of the characters for which a property has a value. -/
def valued? (property value : Text) : Option CharSet :=
  let among (names : List String) : Bool := names.contains (plainName property)
  let value := plainName value
  if among ["gc", "generalcategory"] then category? value
  else if among ["sc", "script"] then script? value
  else if among ["scx", "scriptextensions"] then scriptUse? value
  else if among ["age"] then age? value
  else none

end CharSet

end Pinpoint
