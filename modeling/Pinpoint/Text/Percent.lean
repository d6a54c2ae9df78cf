import Pinpoint.Text.Bytes
import Pinpoint.Text.Digit

/-!
# Percent escapes

Characters that may not stand in an address are written as the bytes of their
encoding, each as a percent sign and two hexadecimal digits.
-/

namespace Pinpoint

namespace Text

/-- A hexadecimal digit, in capitals. -/
def capitalDigit (n : Nat) : Char :=
  Char.ofNat (if n < 10 then 48 + n else 55 + n)

/-- The escape of a byte. -/
def escapeByte (byte : UInt8) : Text :=
  ['%', capitalDigit (byte.toNat / 16), capitalDigit (byte.toNat % 16)]

/-- A text with escapes for the given characters, and for controls and all
characters outside ASCII. -/
def escape (reserved : Text) (text : Text) : Text :=
  text.flatMap fun c =>
    if 32 ≤ c.toNat ∧ c.toNat < 127 ∧ !reserved.contains c then [c]
    else (Bytes.ofChar c).flatMap escapeByte

/-- The bytes of a text in which escapes stand for single bytes. -/
def unescape : Text → Bytes
  | [] => []
  | '%' :: a :: b :: rest =>
      match hexValue? a, hexValue? b with
      | some high, some low => UInt8.ofNat (high * 16 + low) :: unescape rest
      | _, _ => Bytes.ofChar '%' ++ unescape (a :: b :: rest)
  | c :: rest => Bytes.ofChar c ++ unescape rest

end Text

end Pinpoint
