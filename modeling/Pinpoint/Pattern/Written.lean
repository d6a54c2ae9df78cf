import Pinpoint.Pattern.Room
import Pinpoint.Pattern.Written.Brackets
import Pinpoint.Text.Letter

/-!
# Written patterns

Reading a pattern from its written form.  Signs are read one after the other
under the settings in force, and are assembled with a stack of the groups that
are still open.  A pattern is refused if it is not well formed, if its signs
are nested too deeply, or if it takes too much room.
-/

namespace Pinpoint

namespace Pattern

/-- A change of settings. -/
abbrev FlagChange := Flags → Flags

/-- A sign of a written pattern. -/
inductive Sign where
  /-- A pattern without further signs, and how deep it is nested. -/
  | atom (pattern : Pattern) (height : Nat)
  | bar
  /-- The start of a group that is told apart by its number. -/
  | openGroup (name : Option String)
  | openFlagged (change : FlagChange)
  | flagged (change : FlagChange)
  | close
  | repetition (least : Nat) (most : Option Nat) (eager : Bool)

/-- Some digits; blanks between them have no meaning. -/
def readDigits (flags : Flags) : Nat → Text → Text × Text
  | count + 1, c :: rest =>
      if c.isDigit then
        let (digits, rest) := readDigits flags count (flags.skip rest)
        (c :: digits, rest)
      else ([], c :: rest)
  | _, text => ([], text)

/-- A decimal number, with blanks around it. -/
def readDecimal? (flags : Flags) (text : Text) : Option (Nat × Text) :=
  let (digits, rest) := readDigits flags text.length (Text.trimStart text)
  let value := Text.decimalNumber digits
  if digits.isEmpty || Nat.pow 2 32 ≤ value then none
  else some (value, Text.trimStart rest)

/-- Whether a repetition prefers more rounds, by the mark after it. -/
def readGreed (text : Text) : Bool × Text :=
  match text with
  | '?' :: rest => (false, rest)
  | _ => (true, text)

/-- A repetition given by numbers, after its opening brace. -/
def readCounted? (flags : Flags) (text : Text) : Option (Sign × Text) :=
  let sign (least : Nat) (most : Option Nat) (rest : Text) : Option (Sign × Text) :=
    let (eager, rest) := readGreed (flags.skip rest)
    some (.repetition least most eager, rest)
  match readDecimal? flags (flags.skip text) with
  | some (least, '\x7d' :: rest) => sign least (some least) rest
  | some (least, ',' :: rest) =>
      match flags.skip rest with
      | '\x7d' :: rest => sign least none rest
      | rest =>
          match readDecimal? flags rest with
          | some (most, '\x7d' :: rest) =>
              if least ≤ most then sign least (some most) rest else none
          | _ => none
  | _ => none

/-- The settings with one of them changed, given its letter. -/
def withFlag? (flags : Flags) (letter : Char) (value : Bool) : Option Flags :=
  match letter with
  | 'i' => some { flags with ignoreCase := value }
  | 'm' => some { flags with multiLine := value }
  | 's' => some { flags with dotAll := value }
  | 'U' => some { flags with swapGreed := value }
  | 'R' => some { flags with carriageReturns := value }
  | 'x' => some { flags with verbose := value }
  | 'u' => some { flags with asciiOnly := !value }
  | _ => none

/-- The change of settings written as letters, those after a hyphen turned off.
No sign stands twice, and the hyphen not last. -/
def readFlags? (signs : Text) : Option FlagChange :=
  let known := signs.all fun c => c == '-' || (withFlag? .initial c true).isSome
  if !known || signs.getLast? == some '-' || signs.eraseDups.length < signs.length then none
  else
    let on := signs.takeWhile (· != '-')
    let off := (signs.dropWhile (· != '-')).drop 1
    some fun flags =>
      let turn (value : Bool) (flags : Flags) (c : Char) : Flags :=
        (withFlag? flags c value).getD flags
      off.foldl (turn false) (on.foldl (turn true) flags)

/-- Whether a character can be part of the name of a group. -/
def isGroupNameChar (first : Bool) (c : Char) : Bool :=
  c == '_' || Text.isLetter c ||
    (!first && (Text.isAlphanumeric c || c == '.' || c == '[' || c == ']'))

/-- The name of a group, up to the closing angle bracket. -/
def readGroupName? (text : Text) : Option (Sign × Text) :=
  match text.span (· != '>') with
  | (c :: name, '>' :: rest) =>
      if isGroupNameChar true c && name.all (isGroupNameChar false) then
        some (.openGroup (some (String.ofList (c :: name))), rest)
      else none
  | _ => none

/-- A group after its opening parenthesis. -/
def readGroup? (flags : Flags) (text : Text) : Option (Sign × Text) :=
  match flags.skip text with
  | '?' :: 'P' :: '<' :: rest => readGroupName? rest
  | '?' :: '<' :: rest => readGroupName? rest
  | '?' :: rest =>
      match rest.span fun c => c != ')' && c != ':' with
      | ([], ')' :: _) => none
      | (signs, ')' :: rest) => (readFlags? signs).map (.flagged ·, rest)
      | (signs, ':' :: rest) => (readFlags? signs).map (.openFlagged ·, rest)
      | _ => none
  | rest => some (.openGroup none, rest)

/-- The pattern of a character; over ASCII, a byte beyond it is refused. -/
def ofChar? (flags : Flags) (c : Char) (asByte : Bool) : Option Pattern :=
  if flags.asciiOnly && asByte && 128 ≤ c.toNat then none
  else some (ofSet (flags.fold (.only c)))

/-- The pattern of what an escape stands for. -/
def ofEscaped? (flags : Flags) (escaped : Escaped) : Option Pattern :=
  match escaped with
  | .char c asByte => ofChar? flags c asByte
  | .anchor condition => some (.assert condition)
  | .edge edge => some (.assert (if flags.asciiOnly then .asciiWord edge else .word edge))
  | escaped => (escaped.toSet? flags).map ofSet

/-- The characters that a dot stands for. -/
def dotSet? (flags : Flags) : Option CharSet :=
  if flags.asciiOnly then none
  else if flags.dotAll then some .everything
  else if flags.carriageReturns then
    some (CharSet.union (.only '\n') (.only '\r')).complement
  else some (CharSet.only '\n').complement

/-- The condition that a caret stands for. -/
def caret (flags : Flags) : Assertion :=
  if !flags.multiLine then .textStart
  else if flags.carriageReturns then .anyLineStart
  else .lineStart

/-- The condition that a dollar sign stands for. -/
def dollar (flags : Flags) : Assertion :=
  if !flags.multiLine then .textEnd
  else if flags.carriageReturns then .anyLineEnd
  else .lineEnd

/-- The first sign of a written pattern. -/
def readSign? (flags : Flags) : Text → Option (Sign × Text)
  | [] => none
  | c :: rest =>
      let atom (pattern : Pattern) (rest : Text) : Sign × Text := (.atom pattern 0, rest)
      let repetition (least : Nat) (most : Option Nat) : Sign × Text :=
        let (eager, rest) := readGreed rest
        (.repetition least most eager, rest)
      match c with
      | '\\' =>
          match readEscape? flags rest with
          | some (escaped, rest) => (ofEscaped? flags escaped).map (atom · rest)
          | none => none
      | '.' => (dotSet? flags).map fun set => atom (ofSet set) rest
      | '^' => some (atom (.assert (caret flags)) rest)
      | '$' => some (atom (.assert (dollar flags)) rest)
      | '|' => some (.bar, rest)
      | '(' => readGroup? flags rest
      | ')' => some (.close, rest)
      | '[' =>
          (readBrackets? flags rest).map fun (set, height, rest) =>
            (.atom (ofSet set) height, rest)
      | '*' => some (repetition 0 none)
      | '+' => some (repetition 1 none)
      | '?' => some (repetition 0 (some 1))
      | '\x7b' => readCounted? flags rest
      | c => (ofChar? flags c false).map (atom · rest)

/-- A part of a sequence that is being read, and how deep it is nested.  A
change of settings is a part that cannot be repeated. -/
structure Part where
  pattern : Pattern
  height : Nat
  repeatable : Bool

/-- Parts as one, given by what joins their patterns. -/
def joinParts (join : List Pattern → Pattern) : List Part → Part
  | [part] => part
  | parts =>
      let height := (parts.map Part.height).foldl max 0
      ⟨join (parts.map Part.pattern), if parts.isEmpty then 0 else height + 1, true⟩

/-- A group that is being read: what becomes of its pattern, the settings to
return to, its finished alternatives and the parts of the current one, latest
first. -/
structure OpenGroup where
  wrap : Pattern → Pattern
  outerFlags : Flags
  finished : List Part
  parts : List Part

namespace OpenGroup

/-- A group without content. -/
def start (wrap : Pattern → Pattern) (flags : Flags) : OpenGroup :=
  ⟨wrap, flags, [], []⟩

/-- The alternative being read. -/
def current (group : OpenGroup) : Part :=
  joinParts concat group.parts.reverse

/-- The content of a group. -/
def content (group : OpenGroup) : Part :=
  joinParts firstOf (group.current :: group.finished).reverse

/-- The group as a part of the one around it. -/
def toPart (group : OpenGroup) : Part :=
  ⟨group.wrap group.content.pattern, group.content.height + 1, true⟩

/-- The group with a further part. -/
def push (group : OpenGroup) (part : Part) : OpenGroup :=
  { group with parts := part :: group.parts }

end OpenGroup

/-- What is known between two signs: the settings, the number of groups so far
and their names, the innermost open group and those around it. -/
structure Assembly where
  flags : Flags
  groups : Nat
  names : List String
  inner : OpenGroup
  outer : List OpenGroup

namespace Assembly

/-- Nothing read yet. -/
def start : Assembly :=
  ⟨.initial, 0, [], .start id .initial, []⟩

/-- Add a part to the innermost group. -/
def push (assembly : Assembly) (part : Part) : Assembly :=
  { assembly with inner := assembly.inner.push part }

/-- Open a group. -/
def enter (assembly : Assembly) (wrap : Pattern → Pattern) : Assembly :=
  { assembly with
    inner := .start wrap assembly.flags
    outer := assembly.inner :: assembly.outer }

/-- Take in a sign. -/
def add? (assembly : Assembly) : Sign → Option Assembly
  | .atom pattern height => some (assembly.push ⟨pattern, height, true⟩)
  | .bar =>
      let inner := assembly.inner
      some { assembly with
        inner := { inner with finished := inner.current :: inner.finished, parts := [] } }
  | .openGroup name =>
      if name.any assembly.names.contains then none
      else
        let number := assembly.groups + 1
        let counted :=
          { assembly with groups := number, names := name.toList ++ assembly.names }
        some (counted.enter (.group number name))
  | .openFlagged change =>
      let entered := assembly.enter id
      some { entered with flags := change assembly.flags }
  | .flagged change =>
      let noted := assembly.push ⟨.empty, 0, false⟩
      some { noted with flags := change assembly.flags }
  | .close =>
      match assembly.outer with
      | [] => none
      | around :: outer =>
          some { assembly with
            flags := assembly.inner.outerFlags
            inner := around.push assembly.inner.toPart
            outer := outer }
  | .repetition least most eager =>
      match assembly.inner.parts with
      | ⟨pattern, height, true⟩ :: parts =>
          let greedy := eager != assembly.flags.swapGreed
          let repeated := ⟨rounds greedy least most pattern, height + 1, true⟩
          some { assembly with inner := { assembly.inner with parts := repeated :: parts } }
      | _ => none

/-- Take in the signs of a text, of which there are at most `count`. -/
def read? : Nat → Assembly → Text → Option Assembly
  | count, assembly, text =>
      match assembly.flags.skip text with
      | [] => some assembly
      | text =>
          match count with
          | 0 => none
          | count + 1 =>
              match readSign? assembly.flags text with
              | none => none
              | some (sign, rest) =>
                  match assembly.add? sign with
                  | none => none
                  | some assembly => assembly.read? count rest

end Assembly

/-- How deep the signs of a pattern may be nested. -/
def mostNesting : Nat :=
  250

/-- The pattern that a text writes, if it is well formed and not too large. -/
def parse? (text : Text) : Option Pattern :=
  match Assembly.start.read? text.length text with
  | none => none
  | some assembly =>
      let whole := assembly.inner.content
      if assembly.outer.isEmpty && whole.height ≤ mostNesting && whole.pattern.fits then
        some whole.pattern
      else none

end Pattern

end Pinpoint
