import Pinpoint.Text

/-!
# Texts as bytes

UTF-8 decoding of bytes, either strict or with a replacement character for
every part that is malformed.
-/

namespace Pinpoint

/-- A sequence of bytes. -/
abbrev Bytes := List UInt8

namespace Bytes

/-- Whether a byte continues a character, within given bounds. -/
def continues (low high : Nat) (byte : UInt8) : Bool :=
  low ≤ byte.toNat && byte.toNat ≤ high

/-- The payload of a byte that continues a character. -/
def payload (byte : UInt8) : Nat :=
  byte.toNat % 64

/-- How a character starts: the payload of its first byte, the bounds of its
second byte, and how many bytes follow that one. -/
def lead? (byte : UInt8) : Option (Nat × Nat × Nat × Nat) :=
  let code := byte.toNat
  if 0xC2 ≤ code ∧ code ≤ 0xDF then some (code - 0xC0, 0x80, 0xBF, 0)
  else if code = 0xE0 then some (0, 0xA0, 0xBF, 1)
  else if code = 0xED then some (0xD, 0x80, 0x9F, 1)
  else if 0xE1 ≤ code ∧ code ≤ 0xEF then some (code - 0xE0, 0x80, 0xBF, 1)
  else if code = 0xF0 then some (0, 0x90, 0xBF, 2)
  else if code = 0xF4 then some (4, 0x80, 0x8F, 2)
  else if 0xF1 ≤ code ∧ code ≤ 0xF3 then some (code - 0xF0, 0x80, 0xBF, 2)
  else none

/-- Read the bytes that continue a character of which `code` is known: its
code, or nothing if a byte is missing, and what follows what was read. -/
def readTail (code : Nat) (low high : Nat) : Nat → Bytes → Option Nat × Bytes
  | _, [] => (none, [])
  | 0, byte :: rest =>
      if continues low high byte then (some (code * 64 + payload byte), rest)
      else (none, byte :: rest)
  | more + 1, byte :: rest =>
      if continues low high byte then
        readTail (code * 64 + payload byte) 0x80 0xBF more rest
      else (none, byte :: rest)

/-- The first character, or nothing if it is malformed, and what follows what
was read of it. -/
def readChar (byte : UInt8) (rest : Bytes) : Option Char × Bytes :=
  if byte.toNat < 0x80 then (some (Char.ofNat byte.toNat), rest)
  else
    match lead? byte with
    | none => (none, rest)
    | some (code, low, high, more) =>
        let (read, rest) := readTail code low high more rest
        (read.map Char.ofNat, rest)

/-- The characters of up to `count` bytes, with nothing for what is
malformed. -/
def readChars : Nat → Bytes → List (Option Char)
  | 0, _ => []
  | _ + 1, [] => []
  | count + 1, byte :: rest =>
      let (char, rest) := readChar byte rest
      char :: readChars count rest

/-- The characters of a sequence of bytes, with nothing for every part that is
malformed. -/
def chars (bytes : Bytes) : List (Option Char) :=
  readChars bytes.length bytes

/-- The text of a sequence of bytes, if all of it is well formed. -/
def decode? (bytes : Bytes) : Option Text :=
  bytes.chars.mapM id

/-- The text of a sequence of bytes, with a replacement character for every
part that is malformed. -/
def decodeLossy (bytes : Bytes) : Text :=
  bytes.chars.map fun char => char.getD (Char.ofNat 0xFFFD)

/-- The bytes of a character. -/
def ofChar (c : Char) : Bytes :=
  let code := c.toNat
  let tail (n : Nat) : UInt8 := UInt8.ofNat (0x80 + n % 64)
  if code < 0x80 then [UInt8.ofNat code]
  else if code < 0x800 then [UInt8.ofNat (0xC0 + code / 64), tail code]
  else if code < 0x10000 then
    [UInt8.ofNat (0xE0 + code / 4096), tail (code / 64), tail code]
  else
    [UInt8.ofNat (0xF0 + code / 262144), tail (code / 4096), tail (code / 64), tail code]

/-- The bytes of a text. -/
def ofText (text : Text) : Bytes :=
  text.flatMap ofChar

end Bytes

end Pinpoint
