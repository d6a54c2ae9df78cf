import Pinpoint.Pattern.Written.Escape

/-!
# Bracket expressions

Sets of characters written in brackets: characters, intervals, named sets,
nested brackets, and the operators for the meet and the two differences of
sets.
-/

namespace Pinpoint

namespace Pattern

/-- The named sets of ASCII characters. -/
def asciiSet? (name : Text) : Option CharSet :=
  let lower := CharSet.interval 'a' 'z'
  let upper := CharSet.interval 'A' 'Z'
  let digit := CharSet.interval '0' '9'
  match String.ofList name with
  | "alnum" => some (.anyOf [digit, upper, lower])
  | "alpha" => some (.anyOf [upper, lower])
  | "ascii" => some (.interval (Char.ofNat 0) (Char.ofNat 127))
  | "blank" => some (.anyOf [.only '\t', .only ' '])
  | "cntrl" => some (.anyOf [.interval (Char.ofNat 0) (Char.ofNat 31), .only (Char.ofNat 127)])
  | "digit" => some digit
  | "graph" => some (.interval '!' '~')
  | "lower" => some lower
  | "print" => some (.interval ' ' '~')
  | "punct" =>
      some (.anyOf [.interval '!' '/', .interval ':' '@', .interval '[' (Char.ofNat 0x60),
        .interval '\x7b' '~'])
  | "space" => some (.anyOf [.interval '\t' '\r', .only ' '])
  | "upper" => some upper
  | "word" => some .asciiWord
  | "xdigit" => some (.anyOf [digit, .interval 'A' 'F', .interval 'a' 'f'])
  | _ => none

/-- A name between colons, after the first one, and whether it is negated. -/
def readAsciiName? (text : Text) : Option (CharSet × Bool × Text) :=
  let (negated, body) :=
    match text with
    | '^' :: rest => (true, rest)
    | _ => (false, text)
  match body.span (· != ':') with
  | (name, ':' :: ']' :: rest) => (asciiSet? name).map (·, negated, rest)
  | _ => none

/-- A character, or what an escape stands for, inside brackets. -/
def readClassItem? (flags : Flags) : Text → Option (Escaped × Text)
  | [] => none
  | '\\' :: rest => readEscape? flags rest
  | c :: rest => some (.char c false, rest)

/-- A character, an interval of characters, or a set written as an escape,
inside brackets.  A hyphen in front of another one or of the closing bracket
makes no interval. -/
def readClassRange? (flags : Flags) (text : Text) : Option (CharSet × Text) :=
  match readClassItem? flags text with
  | none => none
  | some (item, rest) =>
      match flags.skip rest with
      | [] => none
      | '-' :: after =>
          let next := flags.peek after
          if next = some ']' ∨ next = some '-' then
            (item.toSet? flags).map (·, '-' :: after)
          else
            match item, readClassItem? flags (flags.skip after) with
            | .char first _, some (.char last _, rest) =>
                if first ≤ last ∧ !(flags.asciiOnly && 128 ≤ last.toNat) then
                  some (.interval first last, rest)
                else none
            | _, _ => none
      | rest => (item.toSet? flags).map (·, rest)

/-- The hyphens that a bracket expression starts with. -/
def leadingHyphens (flags : Flags) : Nat → Text → Nat × Text
  | count + 1, '-' :: rest =>
      let (hyphens, rest) := leadingHyphens flags count (flags.skip rest)
      (hyphens + 1, rest)
  | _, text => (0, text)

/-- A set that is being read: its characters, how many items it has, and how
deep the deepest of them is nested. -/
structure Items where
  set : CharSet
  count : Nat
  height : Nat

namespace Items

/-- No items. -/
def none : Items :=
  ⟨.nothing, 0, 0⟩

/-- The items with a further one. -/
def add (items : Items) (set : CharSet) (height : Nat) : Items :=
  ⟨.union items.set set, items.count + 1, max items.height height⟩

/-- How deep the items are nested as an operand. -/
def depth (items : Items) : Nat :=
  if 2 ≤ items.count then items.height + 1 else items.height

end Items

/-- The start of a bracket expression after its opening bracket: whether it is
negated, and the hyphens or the closing bracket that stand for themselves. -/
def readClassStart (flags : Flags) (text : Text) : Bool × Items × Text :=
  let (negated, body) :=
    match flags.skip text with
    | '^' :: rest => (true, flags.skip rest)
    | text => (false, text)
  match leadingHyphens flags body.length body with
  | (0, ']' :: rest) => (negated, Items.none.add (.only ']') 0, rest)
  | (0, rest) => (negated, .none, rest)
  | (hyphens, rest) => (negated, ⟨.only '-', hyphens, 0⟩, rest)

/-- An operand of which the left-hand side and the operator are known. -/
abbrev Pending := CharSet → Nat → CharSet × Nat

/-- A left-hand side, how deep it is nested, and an operator. -/
def pending (left : CharSet × Nat) (join : CharSet → CharSet → CharSet) : Pending :=
  fun right height => (join left.1 right, max left.2 height + 1)

/-- A bracket expression up to its closing bracket, and how deep it is nested.
`wait` joins what stands in front of the last operator to the items after
it. -/
def readClass? (flags : Flags) : Nat → Pending → Items → Text →
    Option (CharSet × Nat × Text)
  | 0, _, _, _ => none
  | count + 1, wait, items, text =>
      let operand := wait (flags.fold items.set) items.depth
      match flags.skip text with
      | [] => none
      | ']' :: rest => some (operand.1, operand.2 + 1, rest)
      | '&' :: '&' :: rest => readClass? flags count (pending operand .meet) .none rest
      | '-' :: '-' :: rest => readClass? flags count (pending operand .without) .none rest
      | '~' :: '~' :: rest =>
          let join (left right : CharSet) : CharSet :=
            .union (left.without right) (right.without left)
          readClass? flags count (pending operand join) .none rest
      | '[' :: rest =>
          let named :=
            match rest with
            | ':' :: rest => readAsciiName? rest
            | _ => none
          match named with
          | some (set, negated, rest) =>
              match flags.negate? negated (flags.fold set) with
              | none => none
              | some set => readClass? flags count wait (items.add set 0) rest
          | none =>
              let (negated, start, body) := readClassStart flags rest
              match readClass? flags count (·, ·) start body with
              | none => none
              | some (set, height, rest) =>
                  match flags.negate? negated set with
                  | none => none
                  | some set => readClass? flags count wait (items.add set height) rest
      | text =>
          match readClassRange? flags text with
          | none => none
          | some (set, rest) => readClass? flags count wait (items.add set 0) rest

/-- A bracket expression after its opening bracket, and how deep it is
nested. -/
def readBrackets? (flags : Flags) (text : Text) : Option (CharSet × Nat × Text) :=
  let (negated, start, body) := readClassStart flags text
  match readClass? flags (text.length + 1) (·, ·) start body with
  | none => none
  | some (set, height, rest) => (flags.negate? negated set).map (·, height, rest)

end Pattern

end Pinpoint
