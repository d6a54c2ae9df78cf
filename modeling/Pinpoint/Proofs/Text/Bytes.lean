import Pinpoint.Text.Bytes

/-!
# Bytes of a text

Decoding the bytes of a text gives the text back.  The first byte of a character says how
many bytes follow, and bounds the second one so that no code has two encodings.
-/

namespace Pinpoint

namespace Bytes

/-- The byte that carries the lowest six bits of a number behind a first byte. -/
def continuation (n : Nat) : UInt8 :=
  UInt8.ofNat (0x80 + n % 64)

theorem toNat_continuation (n : Nat) : (continuation n).toNat = 0x80 + n % 64 :=
  UInt8.toNat_ofNat_of_lt' (by omega : 0x80 + n % 64 < 256)

theorem continues_continuation {low high n : Nat} (within : low ≤ 0x80 + n % 64)
    (below : 0x80 + n % 64 ≤ high) : continues low high (continuation n) = true := by
  simp [continues, toNat_continuation, within, below]

theorem payload_continuation (n : Nat) : payload (continuation n) = n % 64 := by
  rw [payload, toNat_continuation]
  omega

theorem readTail_last {code low high n : Nat} (within : low ≤ 0x80 + n % 64)
    (below : 0x80 + n % 64 ≤ high) (rest : Bytes) :
    readTail code low high 0 (continuation n :: rest) = (some (code * 64 + n % 64), rest) := by
  rw [readTail, if_pos (continues_continuation within below), payload_continuation]

theorem readTail_more {code low high n : Nat} (within : low ≤ 0x80 + n % 64)
    (below : 0x80 + n % 64 ≤ high) (more : Nat) (rest : Bytes) :
    readTail code low high (more + 1) (continuation n :: rest) =
      readTail (code * 64 + n % 64) 0x80 0xBF more rest := by
  rw [readTail, if_pos (continues_continuation within below), payload_continuation]

/-! ### The first byte -/

theorem lead?_two {n : Nat} (wide : 0x80 ≤ n) (narrow : n < 0x800) :
    lead? (UInt8.ofNat (0xC0 + n / 64)) = some (n / 64, 0x80, 0xBF, 0) := by
  rw [lead?, UInt8.toNat_ofNat_of_lt' (by omega : 0xC0 + n / 64 < 256)]
  rw [if_pos (by omega), Nat.add_sub_cancel_left]

theorem exists_lead?_three {n : Nat} (wide : 0x800 ≤ n) (narrow : n < 0x10000)
    (valid : n < 0xD800 ∨ 0xDFFF < n) :
    ∃ low high, lead? (UInt8.ofNat (0xE0 + n / 4096)) = some (n / 4096, low, high, 1) ∧
      low ≤ 0x80 + n / 64 % 64 ∧ 0x80 + n / 64 % 64 ≤ high := by
  rw [lead?, UInt8.toNat_ofNat_of_lt' (by omega : 0xE0 + n / 4096 < 256)]
  rw [if_neg (by omega)]
  -- the second byte is bounded below for codes of two bytes, and above for surrogates
  by_cases first : n / 4096 = 0
  · refine ⟨0xA0, 0xBF, ?_, by omega, by omega⟩
    rw [if_pos (by omega), first]
  · rw [if_neg (by omega)]
    by_cases surrogate : n / 4096 = 13
    · refine ⟨0x80, 0x9F, ?_, by omega, by omega⟩
      rw [if_pos (by omega), surrogate]
    · refine ⟨0x80, 0xBF, ?_, by omega, by omega⟩
      rw [if_neg (by omega), if_pos (by omega), Nat.add_sub_cancel_left]

theorem exists_lead?_four {n : Nat} (wide : 0x10000 ≤ n) (valid : n < 0x110000) :
    ∃ low high, lead? (UInt8.ofNat (0xF0 + n / 262144)) = some (n / 262144, low, high, 2) ∧
      low ≤ 0x80 + n / 4096 % 64 ∧ 0x80 + n / 4096 % 64 ≤ high := by
  rw [lead?, UInt8.toNat_ofNat_of_lt' (by omega : 0xF0 + n / 262144 < 256)]
  rw [if_neg (by omega), if_neg (by omega), if_neg (by omega), if_neg (by omega)]
  -- and here below for codes of three bytes, and above for what is no code
  by_cases first : n / 262144 = 0
  · refine ⟨0x90, 0xBF, ?_, by omega, by omega⟩
    rw [if_pos (by omega), first]
  · rw [if_neg (by omega)]
    by_cases last : n / 262144 = 4
    · refine ⟨0x80, 0x8F, ?_, by omega, by omega⟩
      rw [if_pos (by omega), last]
    · refine ⟨0x80, 0xBF, ?_, by omega, by omega⟩
      rw [if_neg (by omega), if_pos (by omega), Nat.add_sub_cancel_left]

/-! ### Characters and texts -/

theorem readChar_of_lead? {byte : UInt8} {code low high more : Nat} {rest following : Bytes}
    {c : Char} (leads : lead? byte = some (code, low, high, more))
    (tail : readTail code low high more rest = (some c.toNat, following)) :
    readChar byte rest = (some c, following) := by
  have wide : ¬ byte.toNat < 0x80 := by
    intro ascii
    rw [lead?] at leads
    rw [if_neg (by omega), if_neg (by omega), if_neg (by omega), if_neg (by omega),
      if_neg (by omega), if_neg (by omega), if_neg (by omega)] at leads
    cases leads
  rw [readChar, if_neg wide, leads]
  simp only [tail, Option.map_some, Char.ofNat_toNat]

/-- The bytes of a character are read as this character, whatever follows. -/
theorem exists_ofChar_cons (c : Char) :
    ∃ byte others, ofChar c = byte :: others ∧
      ∀ rest, readChar byte (others ++ rest) = (some c, rest) := by
  have valid : c.toNat < 0xD800 ∨ 0xDFFF < c.toNat ∧ c.toNat < 0x110000 := c.valid
  rw [ofChar]
  dsimp only
  by_cases one : c.toNat < 0x80
  · rw [if_pos one]
    refine ⟨_, [], rfl, fun rest => ?_⟩
    have code : (UInt8.ofNat c.toNat).toNat = c.toNat :=
      UInt8.toNat_ofNat_of_lt' (by omega : c.toNat < 256)
    rw [readChar, code, if_pos one, Char.ofNat_toNat]
    rfl
  rw [if_neg one]
  by_cases two : c.toNat < 0x800
  · rw [if_pos two]
    refine ⟨_, [continuation c.toNat], rfl, fun rest => ?_⟩
    refine readChar_of_lead? (lead?_two (by omega) two) ?_
    rw [List.singleton_append, readTail_last (by omega) (by omega)]
    congr 2
    omega
  rw [if_neg two]
  by_cases three : c.toNat < 0x10000
  · rw [if_pos three]
    refine ⟨_, [continuation (c.toNat / 64), continuation c.toNat], rfl, fun rest => ?_⟩
    obtain ⟨low, high, leads, within, below⟩ :=
      exists_lead?_three (n := c.toNat) (by omega) three (by omega)
    refine readChar_of_lead? leads ?_
    rw [List.cons_append, List.singleton_append, readTail_more within below,
      readTail_last (by omega) (by omega)]
    congr 2
    omega
  · rw [if_neg three]
    refine ⟨_, [continuation (c.toNat / 4096), continuation (c.toNat / 64),
      continuation c.toNat], rfl, fun rest => ?_⟩
    obtain ⟨low, high, leads, within, below⟩ :=
      exists_lead?_four (n := c.toNat) (by omega) (by omega)
    refine readChar_of_lead? leads ?_
    rw [List.cons_append, List.cons_append, List.singleton_append, readTail_more within below,
      readTail_more (by omega) (by omega), readTail_last (by omega) (by omega)]
    congr 2
    omega

theorem readChars_ofText {text : Text} {count : Nat} (enough : (ofText text).length ≤ count) :
    readChars count (ofText text) = text.map some := by
  induction text generalizing count with
  | nil => cases count <;> rfl
  | cons c text ih =>
      obtain ⟨byte, others, charEq, readEq⟩ := exists_ofChar_cons c
      have textEq : ofText (c :: text) = byte :: (others ++ ofText text) := by
        rw [ofText, List.flatMap_cons, charEq]
        rfl
      rw [textEq] at enough ⊢
      cases count with
      | zero => simp at enough
      | succ count =>
          simp only [List.length_cons, List.length_append] at enough
          rw [readChars, readEq]
          simp only [List.map_cons, ih (by omega : (ofText text).length ≤ count)]

/-- No character of a text is lost or replaced on the way through its bytes. -/
@[simp]
theorem decodeLossy_ofText (text : Text) : (ofText text).decodeLossy = text := by
  rw [decodeLossy, chars, readChars_ofText (Nat.le_refl _), List.map_map]
  exact List.map_id text

end Bytes

end Pinpoint
