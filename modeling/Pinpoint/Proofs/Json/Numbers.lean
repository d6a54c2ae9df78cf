import Mathlib.Data.List.TakeDrop
import Pinpoint.Json.Reader
import Pinpoint.Proofs.Json.Grammar

/-!
# Reading numbers

The reader takes every number of the grammar as far as it goes, and gives the value of a
plain decimal integer.
-/

namespace Pinpoint

namespace Json

/-- A text in which no run of digits goes on. -/
def EndsDigits (text : Text) : Prop :=
  ∀ c ∈ text.head?, c.isDigit = false

/-- A text in which no number goes on. -/
structure Ends (text : Text) : Prop where
  digits : EndsDigits text
  point : text.head? ≠ some '.'
  mark : ∀ c ∈ text.head?, c ≠ 'e' ∧ c ≠ 'E'

theorem endsDigits_cons {c : Char} (other : c.isDigit = false) (text : Text) :
    EndsDigits (c :: text) := by
  intro d member
  obtain rfl := Option.mem_some.mp member
  exact other

theorem readDigits?_append {digits following : Text} (isDigits : Digits digits)
    (ends : EndsDigits following) :
    readDigits? (digits ++ following) = some (digits, following) := by
  obtain ⟨nonempty, allDigits⟩ := isDigits
  have spanEq : (digits ++ following).span Char.isDigit = (digits, following) := by
    rw [List.span_eq_takeWhile_dropWhile, List.takeWhile_append_of_pos allDigits,
      List.dropWhile_append_of_pos allDigits]
    cases following with
    | nil => simp
    | cons c rest =>
        have stops : c.isDigit = false := ends c rfl
        simp [stops]
  rw [readDigits?, spanEq]
  cases digits with
  | nil => exact absurd rfl nonempty
  | cons c digits => rfl

theorem readWhole?_append {whole following : Text} (isWhole : Whole whole)
    (ends : EndsDigits following) : readWhole? (whole ++ following) = some (whole, following) := by
  obtain ⟨isDigits, noLeadingZero⟩ := isWhole
  by_cases zero : whole.head? = some '0'
  · have noDigit : following.head?.any Char.isDigit = false := by
      rw [Option.any_eq_false]
      exact ends
    rw [noLeadingZero zero, List.singleton_append, readWhole?, noDigit, if_neg (by simp)]
  · rw [readWhole?]
    · exact readDigits?_append isDigits ends
    · -- The first digit is one of the whole number, so it is no zero.
      intro rest startsWithZero
      cases whole with
      | nil => exact isDigits.1 rfl
      | cons c digits =>
          obtain rfl : c = '0' := (List.cons.inj startsWithZero).1
          exact zero rfl

theorem readFraction?_append {fraction following : Text} (isFraction : Fraction fraction)
    (ends : EndsDigits following) (noPoint : following.head? ≠ some '.') :
    readFraction? (fraction ++ following) = some (fraction, following) := by
  cases isFraction with
  | none =>
      rw [List.nil_append, readFraction?]
      rintro rest rfl
      exact noPoint rfl
  | digits isDigits =>
      rw [List.cons_append, readFraction?, readDigits?_append isDigits ends]
      rfl

theorem readExponent?_append {exponent rest : Text} (isExponent : Exponent exponent)
    (ends : Ends rest) : readExponent? (exponent ++ rest) = some (exponent, rest) := by
  cases isExponent with
  | none =>
      cases rest with
      | nil => rfl
      | cons c rest =>
          have noMark := ends.mark c rfl
          simp only [List.nil_append, readExponent?]
          rw [if_neg (by simpa using noMark)]
  | @digits mark sign digits isMark isSign isDigits =>
      have digitsRead := readDigits?_append isDigits ends.digits
      simp only [List.cons_append, List.append_assoc, readExponent?]
      rw [if_pos (by simpa using isMark)]
      rcases isSign with rfl | rfl | rfl
      · obtain ⟨c, others, rfl⟩ := List.exists_cons_of_ne_nil isDigits.1
        have noSign : c ≠ '+' ∧ c ≠ '-' := by
          constructor <;>
          · rintro rfl
            exact absurd (isDigits.2 _ List.mem_cons_self) (by decide)
        rw [List.cons_append] at digitsRead
        simp [noSign, digitsRead]
      · simp [digitsRead]
      · simp [digitsRead]

/-! ### Whole numbers and parts -/

theorem Exponent.ends {exponent rest : Text} (isExponent : Exponent exponent)
    (ends : Ends rest) : EndsDigits (exponent ++ rest) ∧ (exponent ++ rest).head? ≠ some '.' := by
  cases isExponent with
  | none => exact ⟨ends.digits, ends.point⟩
  | digits isMark isSign isDigits =>
      rcases isMark with rfl | rfl
      · exact ⟨endsDigits_cons (by decide) _, by simp⟩
      · exact ⟨endsDigits_cons (by decide) _, by simp⟩

theorem Fraction.endsDigits {fraction following : Text} (isFraction : Fraction fraction)
    (ends : EndsDigits following) : EndsDigits (fraction ++ following) := by
  cases isFraction with
  | none => exact ends
  | digits isDigits => exact endsDigits_cons (by decide) _

/-- A number is read by its parts. -/
theorem readNumber?_append {whole fraction exponent rest : Text} (isWhole : Whole whole)
    (isFraction : Fraction fraction) (isExponent : Exponent exponent) (ends : Ends rest) :
    readNumber? (whole ++ (fraction ++ (exponent ++ rest))) =
        some (numberOf false whole fraction exponent, rest) ∧
      readNumber? ('-' :: (whole ++ (fraction ++ (exponent ++ rest)))) =
        some (numberOf true whole fraction exponent, rest) := by
  obtain ⟨exponentEnds, noPoint⟩ := isExponent.ends ends
  have wholeRead := readWhole?_append isWhole (isFraction.endsDigits exponentEnds)
  have fractionRead := readFraction?_append isFraction exponentEnds noPoint
  have exponentRead := readExponent?_append isExponent ends
  constructor
  · have noSign : ∀ others, whole ++ (fraction ++ (exponent ++ rest)) ≠ '-' :: others := by
      intro others signed
      obtain ⟨c, digits, rfl⟩ := List.exists_cons_of_ne_nil isWhole.1.1
      obtain rfl : c = '-' := (List.cons.inj signed).1
      exact absurd (isWhole.1.2 _ List.mem_cons_self) (by decide)
    rw [readNumber?]
    · simp only [wholeRead, fractionRead, exponentRead]
      rfl
    · exact noSign
  · simp only [readNumber?, wholeRead, fractionRead, exponentRead]
    rfl

theorem exists_readNumber? {text rest : Text} (isNumber : IsNumber text) (ends : Ends rest) :
    ∃ json, readNumber? (text ++ rest) = some (json, rest) := by
  obtain ⟨isSign, isWhole, isFraction, isExponent⟩ := isNumber
  have ⟨unsigned, signed⟩ := readNumber?_append isWhole isFraction isExponent ends
  rw [List.append_assoc, List.append_assoc, List.append_assoc]
  rcases isSign with rfl | rfl
  · exact ⟨_, unsigned⟩
  · exact ⟨_, signed⟩

/-- A plain decimal integer is read as its value, if this fits into 64 bits. -/
theorem readNumber?_spellsNat {n : Nat} {text rest : Text} (spells : SpellsNat n text)
    (fits : n < Nat.pow 2 64) (ends : Ends rest) :
    readNumber? (text ++ rest) = some (nat n, rest) := by
  obtain ⟨isWhole, valueEq⟩ := spells
  have numberEq : numberOf false text [] [] = nat n := by
    have value : Text.decimalNumber text = n := valueEq
    rw [numberOf, value, if_pos ⟨rfl, rfl, fits⟩]
    rfl
  rw [← numberEq]
  exact (readNumber?_append isWhole .none .none ends).1

end Json

end Pinpoint
