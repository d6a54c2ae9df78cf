import Pinpoint.Pattern

/-!
# Room for patterns

A pattern may not take more room than a limit once it is spelled out byte by
byte, with every repetition unrolled.  The room is computed, not used: a
character outside ASCII needs a state for each byte of its encoding, and the
encodings of a set are kept as a tree whose branches share their first bytes.
-/

namespace Pinpoint

namespace CharSet

/-- An interval cut in two after `last`, unless it lies on one side. -/
def cutAfter (bound : Nat) (interval : Nat × Nat) : List (Nat × Nat) :=
  if interval.1 ≤ bound ∧ bound < interval.2 then
    [(interval.1, bound), (bound + 1, interval.2)]
  else [interval]

/-- Intervals of which each holds characters encoded in equally many bytes. -/
def evenWidths (intervals : List (Nat × Nat)) : List (Nat × Nat) :=
  let cut := [0x7F, 0x7FF, 0xD7FF, 0xDFFF, 0xFFFF].foldl
    (fun pieces bound => pieces.flatMap (cutAfter bound)) intervals
  cut.filter fun (first, _) => first < 0xD800 || 0xDFFF < first

/-- The bytes of a code point: `trailing` of them carry six bits each. -/
def encoding (trailing code : Nat) : List Nat :=
  match trailing with
  | 0 => [code]
  | trailing + 1 => encoding trailing (code / 64) ++ [code % 64]

/-- An interval cut so that the encodings of each piece are a product of
intervals of bytes.  The pieces start and end with fuller last bytes at every
step. -/
def products : (fuel trailing : Nat) → Nat × Nat → List (Nat × Nat)
  | 0, _, interval => [interval]
  | _, 0, interval => [interval]
  | fuel + 1, trailing, (first, last) =>
      let uneven := (List.range trailing).find? fun k =>
        let unit := 64 ^ (k + 1)
        first / unit ≠ last / unit ∧ (first % unit ≠ 0 ∨ last % unit ≠ unit - 1)
      match uneven with
      | none => [(first, last)]
      | some k =>
          let unit := 64 ^ (k + 1)
          let bound :=
            if first % unit ≠ 0 then first / unit * unit + unit - 1
            else last / unit * unit - 1
          products fuel trailing (first, bound) ++ products fuel trailing (bound + 1, last)

/-- The number of bytes that carry six bits in the encoding of a code point. -/
def trailingBytes (code : Nat) : Nat :=
  if code < 0x80 then 0 else if code < 0x800 then 1 else if code < 0x10000 then 2 else 3

/-- The encodings of a set, as products of intervals of bytes. -/
def byteIntervals (set : CharSet) : List (List (Nat × Nat)) :=
  (evenWidths set.intervals).flatMap fun (first, last) =>
    let trailing := trailingBytes first
    (products 8 trailing (first, last)).map fun (first, last) =>
      (encoding trailing first).zip (encoding trailing last)

/-- The number of elements that two lists start with in common. -/
def agreement : List (Nat × Nat) → List (Nat × Nat) → Nat
  | left :: lefts, right :: rights =>
      if left = right then agreement lefts rights + 1 else 0
  | _, _ => 0

/-- The number of branches of a tree of encodings; each of them shares what it
can with the one before it. -/
def branches (last : List (Nat × Nat)) : List (List (Nat × Nat)) → Nat
  | [] => 0
  | encoding :: rest => encoding.length - agreement last encoding + branches encoding rest

/-- Room for a set. -/
def room (set : CharSet) : Nat :=
  if set.isAscii then 64 + 8 * set.intervals.length
  else
    let encodings := set.byteIntervals
    64 + 4 * encodings.length + 32 * branches [] encodings

end CharSet

namespace Pattern

/-- Room for a pattern; `amidst` says that it is one of several alternatives
behind the first. -/
def room (amidst : Bool) : Pattern → Nat
  | empty => 32
  | literal text => 32 * Text.width text
  | one set => set.room
  | assert _ => 32
  | seq first second => first.room false + second.room false
  | alt first second =>
      (if amidst then 4 else 72) + first.room false + second.room true
  | times _ least most body =>
      let once := body.room false
      match most with
      | none => max least 1 * once + if least = 0 ∧ body.canBeEmpty then 112 else 40
      | some most => least * once + (most - least) * (once + 40) + 32
  | group _ _ body => 64 + body.room false

/-- The most room that a pattern may take. -/
def mostRoom : Nat :=
  10 * Nat.pow 2 20

/-- Room around every pattern: for the loop over what stands in front of a
match, for the marks of its two ends, and for the state behind it. -/
def outerRoom : Nat :=
  112 + 64 + 32

/-- Whether a pattern and what stands around it take no more room than they
may. -/
def fits (pattern : Pattern) : Bool :=
  pattern.room false + outerRoom ≤ mostRoom

end Pattern

end Pinpoint
