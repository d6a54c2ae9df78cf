import Pinpoint.Host.Address
import Pinpoint.Host.Name
import Pinpoint.Text.Percent

/-!
# Hosts

The machine that an address names: by a name, or by a number.
-/

namespace Pinpoint

/-- A machine. -/
inductive Host where
  | name (text : Text)
  /-- An address of four bytes. -/
  | short (address : Nat)
  /-- An address of eight groups of sixteen bits. -/
  | long (groups : List Nat)
  deriving DecidableEq

namespace Host

/-- No machine. -/
def nowhere : Host :=
  name []

/-- A host as written. -/
def toText : Host → Text
  | name text => text
  | short address => shortText address
  | long groups => '[' :: longText groups ++ [']']

/-- The host in brackets that a text starts with. -/
def bracketed? (inner : Text) : Option Host :=
  match inner.reverse with
  | ']' :: address => (longAddress? address.reverse).map long
  | _ => none

/-- The host of a text, where names are those of the Internet. -/
def parse? (written : Text) : Option Host :=
  match written with
  | '[' :: inner => bracketed? inner
  | _ =>
      match normalName? (Text.unescape written).decodeLossy with
      | none => none
      | some text =>
          if text.isEmpty then none
          else if endsInNumber text then (shortAddress? text).map short
          else some (name text)

/-- Whether a character may not stand in a name of whatever kind. -/
def isForbidden (c : Char) : Bool :=
  [Char.ofNat 0, '\t', '\n', '\r', ' ', '#', '/', ':', '<', '>', '?', '@', '[', '\\', ']', '^',
    '|'].contains c

/-- The host of a text, where names are of whatever kind. -/
def parseAny? (written : Text) : Option Host :=
  match written with
  | '[' :: inner => bracketed? inner
  | _ => if written.any isForbidden then none else some (name (Text.escape [] written))

end Host

end Pinpoint
