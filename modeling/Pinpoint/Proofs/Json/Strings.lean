import Pinpoint.Json.Reader
import Pinpoint.Proofs.Json.Grammar

/-!
# Reading strings

The reader takes every string of the grammar up to its closing quote, and gives the text
that the string stands for.
-/

namespace Pinpoint

namespace Json

/-! ### Code units -/

theorem hexValue?_of_hexDigit {value : Nat} {c : Char} (digit : HexDigit value c) :
    Text.hexValue? c = some value := by
  have small : ∀ index : Fin 16, Text.hexValue? "0123456789abcdef".toList[index] = some index := by
    decide
  have large : ∀ index : Fin 16, Text.hexValue? "0123456789ABCDEF".toList[index] = some index := by
    decide
  rcases digit with isSmall | isLarge
  · obtain ⟨within, rfl⟩ := List.getElem?_eq_some_iff.mp isSmall
    exact small ⟨value, within⟩
  · obtain ⟨within, rfl⟩ := List.getElem?_eq_some_iff.mp isLarge
    exact large ⟨value, within⟩

/-- An escaped code unit as the reader sees it. -/
theorem UnitEscape.exists_hexUnit? {unit : Nat} {text : Text} (escape : UnitEscape unit text) :
    ∃ a b c d, text = ['\\', 'u', a, b, c, d] ∧ hexUnit? a b c d = some unit := by
  obtain ⟨firstIs, secondIs, thirdIs, fourthIs⟩ := escape
  refine ⟨_, _, _, _, rfl, ?_⟩
  rw [hexUnit?, hexValue?_of_hexDigit firstIs, hexValue?_of_hexDigit secondIs,
    hexValue?_of_hexDigit thirdIs, hexValue?_of_hexDigit fourthIs]
  simp only [Option.some.injEq]
  omega

theorem isHighSurrogate_iff {unit : Nat} :
    isHighSurrogate unit = true ↔ 0xD800 ≤ unit ∧ unit ≤ 0xDBFF := by
  rw [isHighSurrogate, Bool.and_eq_true, decide_eq_true_eq, decide_eq_true_eq]

theorem isLowSurrogate_iff {unit : Nat} :
    isLowSurrogate unit = true ↔ 0xDC00 ≤ unit ∧ unit ≤ 0xDFFF := by
  rw [isLowSurrogate, Bool.and_eq_true, decide_eq_true_eq, decide_eq_true_eq]

/-- A character is no half of a surrogate pair. -/
theorem not_surrogate (c : Char) :
    isHighSurrogate c.toNat = false ∧ isLowSurrogate c.toNat = false := by
  have valid : c.toNat < 0xD800 ∨ 0xDFFF < c.toNat ∧ c.toNat < 0x110000 := c.valid
  rw [← Bool.not_eq_true, ← Bool.not_eq_true, isHighSurrogate_iff, isLowSurrogate_iff]
  omega

/-- The code units of a character outside the first plane are a pair that stands for it. -/
theorem pairedChar_units {c : Char} (wide : ¬ c.toNat < 0x10000) :
    isHighSurrogate (0xD800 + (c.toNat - 0x10000) / 0x400) = true ∧
    isLowSurrogate (0xDC00 + (c.toNat - 0x10000) % 0x400) = true ∧
    pairedChar (0xD800 + (c.toNat - 0x10000) / 0x400)
      (0xDC00 + (c.toNat - 0x10000) % 0x400) = c := by
  have valid : c.toNat < 0xD800 ∨ 0xDFFF < c.toNat ∧ c.toNat < 0x110000 := c.valid
  rw [isHighSurrogate_iff, isLowSurrogate_iff]
  refine ⟨by omega, by omega, ?_⟩
  have code : 0x10000 + (0xD800 + (c.toNat - 0x10000) / 0x400 - 0xD800) * 0x400 +
      (0xDC00 + (c.toNat - 0x10000) % 0x400 - 0xDC00) = c.toNat := by omega
  rw [pairedChar, code, Char.ofNat_toNat]

/-! ### One piece at a time -/

theorem readString?_plain {c : Char} (plain : Plain c) (rest : Text) :
    readString? (c :: rest) = (readString? rest).map (prependChar (some c)) := by
  obtain ⟨printable, notQuote, notBackslash⟩ := plain
  rw [readString?]
  · have notControl : ¬ c.toNat < 32 := by omega
    simp [notControl, notBackslash]
  all_goals simp [notQuote, notBackslash]

theorem readString?_letter {letter c : Char} (escape : (letter, c) ∈ letterEscapes)
    (rest : Text) :
    readString? ('\\' :: letter :: rest) = (readString? rest).map (prependChar (some c)) := by
  have known : ∀ entry ∈ letterEscapes,
      entry.1 ≠ 'u' ∧ shortEscape? entry.1 = some entry.2 := by decide
  obtain ⟨notUnit, means⟩ := known _ escape
  rw [readString?]
  · simp only [means]
  all_goals simp [notUnit]

/-- What a code unit is read as if it is not one of a pair. -/
def charOfUnit (unit : Nat) : Option Char :=
  if isHighSurrogate unit || isLowSurrogate unit then none else some (Char.ofNat unit)

/-- A text that starts with an escaped code unit. -/
def StartsWithUnit (text : Text) : Prop :=
  ∃ a b c d later, text = '\\' :: 'u' :: a :: b :: c :: d :: later

theorem readString?_unit_of_not {a b c d : Char} {unit : Nat} {following : Text}
    (unitEq : hexUnit? a b c d = some unit) (ends : ¬ StartsWithUnit following) :
    readString? ('\\' :: 'u' :: a :: b :: c :: d :: following) =
      (readString? following).map (prependChar (charOfUnit unit)) := by
  rw [readString?]
  · simp only [unitEq]
    rfl
  · rintro e f g h later rfl
    exact ends ⟨e, f, g, h, later, rfl⟩

theorem readString?_units {a b c d e f g h : Char} {unit second : Nat} {later : Text}
    (unitEq : hexUnit? a b c d = some unit) (secondEq : hexUnit? e f g h = some second) :
    readString? ('\\' :: 'u' :: a :: b :: c :: d :: '\\' :: 'u' :: e :: f :: g :: h :: later) =
      if isHighSurrogate unit && isLowSurrogate second then
        (readString? later).map (prependChar (some (pairedChar unit second)))
      else (readString? ('\\' :: 'u' :: e :: f :: g :: h :: later)).map
        (prependChar (charOfUnit unit)) := by
  rw [readString?]
  simp only [unitEq, secondEq]
  rfl

/-- Only a well-formed escape is read. -/
theorem exists_hexUnit?_of_readString? {a b c d : Char} {later : Text}
    {result : Option Text × Text}
    (read : readString? ('\\' :: 'u' :: a :: b :: c :: d :: later) = some result) :
    ∃ unit, hexUnit? a b c d = some unit := by
  cases unitEq : hexUnit? a b c d with
  | some unit => exact ⟨unit, rfl⟩
  | none =>
      by_cases starts : StartsWithUnit later
      · obtain ⟨e, f, g, h, later, rfl⟩ := starts
        rw [readString?] at read
        simp [unitEq] at read
      · rw [readString?] at read
        · simp [unitEq] at read
        · rintro e f g h later rfl
          exact starts ⟨e, f, g, h, later, rfl⟩

theorem prependChar_eq (c : Option Char) (read : Option Text) (rest : Text) :
    prependChar c (read, rest) = (read.bind fun text => c.map (· :: text), rest) := by
  cases read <;> rfl

theorem exists_of_map_prependChar {c : Option Char} {result : Option (Option Text × Text)}
    {read : Option Text} {rest : Text}
    (mapped : result.map (prependChar c) = some (read, rest)) :
    ∃ read', result = some (read', rest) := by
  obtain ⟨⟨read', rest'⟩, rfl, prepended⟩ := Option.map_eq_some_iff.mp mapped
  rw [prependChar_eq] at prepended
  obtain rfl : rest' = rest := congrArg Prod.snd prepended
  exact ⟨read', rfl⟩

/-- Behind a code unit that is no first half, the rest of the string is read. -/
theorem exists_readString?_behind {a b c d : Char} {unit : Nat} {later rest : Text}
    {read : Option Text} (unitEq : hexUnit? a b c d = some unit)
    (notHigh : isHighSurrogate unit = false)
    (readEq : readString? ('\\' :: 'u' :: a :: b :: c :: d :: later) = some (read, rest)) :
    ∃ read', readString? later = some (read', rest) := by
  by_cases starts : StartsWithUnit later
  · obtain ⟨e, f, g, h, last, rfl⟩ := starts
    cases secondEq : hexUnit? e f g h with
    | none =>
        rw [readString?] at readEq
        simp [unitEq, secondEq] at readEq
    | some second =>
        rw [readString?_units unitEq secondEq, notHigh, Bool.false_and, if_neg (by simp)]
          at readEq
        exact exists_of_map_prependChar readEq
  · rw [readString?_unit_of_not unitEq starts] at readEq
    exact exists_of_map_prependChar readEq

theorem notHigh_of_isLow {unit : Nat} (isLow : isLowSurrogate unit = true) :
    isHighSurrogate unit = false := by
  rw [← Bool.not_eq_true, isHighSurrogate_iff]
  rw [isLowSurrogate_iff] at isLow
  omega

/-- A code unit in front of a text that can be read is read on its own, or it is the first
half of a pair and read with the second half, which follows. -/
theorem readString?_unit {unit : Nat} {escape following rest : Text} {read : Option Text}
    (escapes : UnitEscape unit escape) (followed : readString? following = some (read, rest)) :
    readString? (escape ++ following) = some (prependChar (charOfUnit unit) (read, rest)) ∨
      isHighSurrogate unit = true ∧
        ∃ read', readString? (escape ++ following) = some (read', rest) := by
  obtain ⟨a, b, c, d, rfl, unitEq⟩ := escapes.exists_hexUnit?
  simp only [List.cons_append, List.nil_append]
  by_cases starts : StartsWithUnit following
  · obtain ⟨e, f, g, h, later, rfl⟩ := starts
    obtain ⟨second, secondEq⟩ := exists_hexUnit?_of_readString? followed
    rw [readString?_units unitEq secondEq]
    split
    · rename_i pair
      rw [Bool.and_eq_true] at pair
      obtain ⟨read', laterEq⟩ :=
        exists_readString?_behind secondEq (notHigh_of_isLow pair.2) followed
      rw [laterEq, Option.map_some, prependChar_eq]
      exact Or.inr ⟨pair.1, _, rfl⟩
    · rw [followed]
      exact Or.inl rfl
  · rw [readString?_unit_of_not unitEq starts, followed]
    exact Or.inl rfl

/-- The two halves of a pair are read together. -/
theorem readString?_pair {high low : Nat} {first second following : Text}
    (firstEscapes : UnitEscape high first) (secondEscapes : UnitEscape low second)
    (isHigh : isHighSurrogate high = true) (isLow : isLowSurrogate low = true) :
    readString? (first ++ (second ++ following)) =
      (readString? following).map (prependChar (some (pairedChar high low))) := by
  obtain ⟨a, b, c, d, rfl, highEq⟩ := firstEscapes.exists_hexUnit?
  obtain ⟨e, f, g, h, rfl, lowEq⟩ := secondEscapes.exists_hexUnit?
  simp only [List.cons_append, List.nil_append]
  rw [readString?_units highEq lowEq, isHigh, isLow, Bool.and_self, if_pos rfl]

/-! ### Whole strings -/

theorem readString?_char {c : Char} {spelled following rest read : Text}
    (spells : SpellsChar c spelled)
    (followed : readString? following = some (some read, rest)) :
    readString? (spelled ++ following) = some (some (c :: read), rest) := by
  cases spells with
  | plain plain =>
      rw [List.singleton_append, readString?_plain plain, followed]
      rfl
  | letter escape =>
      rw [List.cons_append, List.singleton_append, readString?_letter escape, followed]
      rfl
  | units escapes =>
      rw [units] at escapes
      split at escapes
      · obtain ⟨escape, others, escapeEq, noneLeft, rfl⟩ := List.forall₂_cons_left_iff.mp escapes
        obtain rfl := List.forall₂_nil_left_iff.mp noneLeft
        have alone := (readString?_unit escapeEq followed).resolve_right
          fun paired => by simp [not_surrogate] at paired
        rw [charOfUnit, (not_surrogate c).1, (not_surrogate c).2, Char.ofNat_toNat] at alone
        rw [List.flatten_singleton]
        exact alone
      · rename_i wide
        obtain ⟨isHigh, isLow, pairedEq⟩ := pairedChar_units wide
        obtain ⟨first, others, firstEq, rest', rfl⟩ := List.forall₂_cons_left_iff.mp escapes
        obtain ⟨second, others, secondEq, noneLeft, rfl⟩ := List.forall₂_cons_left_iff.mp rest'
        obtain rfl := List.forall₂_nil_left_iff.mp noneLeft
        rw [List.flatten_cons, List.flatten_singleton, List.append_assoc,
          readString?_pair firstEq secondEq isHigh isLow, followed, pairedEq]
        rfl

/-- A string that stands for a text is read as that text. -/
theorem readString?_spells {value : Text} {parts : List Text}
    (spells : List.Forall₂ SpellsChar value parts) (rest : Text) :
    readString? (parts.flatten ++ '"' :: rest) = some (some value, rest) := by
  induction spells with
  | nil => exact readString?_quote rest
  | cons spellsChar _ ih =>
      rw [List.flatten_cons, List.append_assoc]
      exact readString?_char spellsChar ih

theorem exists_readString?_piece {piece following rest : Text} {read : Option Text}
    (isPiece : StringPiece piece) (followed : readString? following = some (read, rest)) :
    ∃ read', readString? (piece ++ following) = some (read', rest) := by
  cases isPiece with
  | plain plain =>
      rw [List.singleton_append, readString?_plain plain, followed, Option.map_some,
        prependChar_eq]
      exact ⟨_, rfl⟩
  | letter escape =>
      rw [List.cons_append, List.singleton_append, readString?_letter escape, followed,
        Option.map_some, prependChar_eq]
      exact ⟨_, rfl⟩
  | unit escape =>
      rcases readString?_unit escape followed with alone | ⟨-, paired⟩
      · rw [alone, prependChar_eq]
        exact ⟨_, rfl⟩
      · exact paired

/-- Every string is read up to its closing quote. -/
theorem exists_readString? {parts : List Text} (pieces : ∀ part ∈ parts, StringPiece part)
    (rest : Text) : ∃ read, readString? (parts.flatten ++ '"' :: rest) = some (read, rest) := by
  induction parts with
  | nil => exact ⟨_, readString?_quote rest⟩
  | cons part parts ih =>
      obtain ⟨read, followed⟩ := ih fun other member => pieces other (List.mem_cons_of_mem _ member)
      rw [List.flatten_cons, List.append_assoc]
      exact exists_readString?_piece (pieces part List.mem_cons_self) followed

end Json

end Pinpoint
