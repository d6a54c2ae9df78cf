import Mathlib.Data.List.DropRight
import Mathlib.Data.List.TakeWhile
import Pinpoint.Proofs.Json.Reading

/-!
# What stands behind a value

The reader stops at the end of a value.  Of what follows it only the next character
matters, and this only behind a number, which might go on there.
-/

namespace Pinpoint

namespace Json

/-! ### Strings -/

theorem readString?_cut {tail : Text} (short : tail.length < 4) :
    readString? ('\\' :: 'u' :: tail) = none := by
  match tail, short with
  | [], _ | [_], _ | [_, _], _ | [_, _, _], _ => simp [readString?, shortEscape?]

/-- What follows a string does not complete an escape in it. -/
theorem startsWithUnit_of_append {text more : Text} {result : Option Text × Text}
    (read : readString? text = some result) (starts : StartsWithUnit (text ++ more)) :
    StartsWithUnit text := by
  obtain ⟨a, b, c, d, later, textEq⟩ := starts
  cases text with
  | nil => simp [readString?] at read
  | cons first rest =>
      obtain ⟨rfl, restEq⟩ := List.cons.inj textEq
      cases rest with
      | nil => simp [readString?] at read
      | cons second tail =>
          obtain ⟨rfl, -⟩ := List.cons.inj restEq
          by_cases short : tail.length < 4
          · rw [readString?_cut short] at read
            cases read
          · obtain _ | ⟨a, _ | ⟨b, _ | ⟨c, _ | ⟨d, later⟩⟩⟩⟩ := tail
            on_goal 5 => exact ⟨a, b, c, d, later, rfl⟩
            all_goals simp at short

theorem map_prependChar_extend {text rest more : Text}
    (extend : ∀ {read}, readString? text = some (read, rest) →
      readString? (text ++ more) = some (read, rest ++ more)) {c : Option Char}
    {read : Option Text} (readEq : (readString? text).map (prependChar c) = some (read, rest)) :
    (readString? (text ++ more)).map (prependChar c) = some (read, rest ++ more) := by
  obtain ⟨⟨read', rest'⟩, textEq, prepended⟩ := Option.map_eq_some_iff.mp readEq
  rw [prependChar_eq, Prod.mk.injEq] at prepended
  obtain ⟨rfl, rfl⟩ := prepended
  rw [extend textEq, Option.map_some, prependChar_eq]

/-- What follows a string is left alone. -/
theorem readString?_extend {text rest : Text} {read : Option Text}
    (readEq : readString? text = some (read, rest)) (more : Text) :
    readString? (text ++ more) = some (read, rest ++ more) := by
  fun_induction readString? text generalizing read with
  | case1 => cases readEq
  | case2 text =>
      obtain ⟨rfl, rfl⟩ := Prod.mk.inj (Option.some.inj readEq)
      exact readString?_quote _
  | case3 a b c d e f g h text unit second secondEq unitEq pair ih =>
      simp only [List.cons_append]
      rw [readString?_units unitEq secondEq, if_pos pair]
      exact map_prependChar_extend ih readEq
  | case4 a b c d e f g h text unit second secondEq unitEq unpaired =>
      rename_i ih
      simp only [List.cons_append]
      rw [readString?_units unitEq secondEq, if_neg unpaired]
      exact map_prependChar_extend ih readEq
  | case5 => cases readEq
  | case6 a b c d text alone unit unitEq =>
      rename_i ih
      obtain ⟨⟨read', rest'⟩, textEq, -⟩ := Option.map_eq_some_iff.mp readEq
      simp only [List.cons_append]
      rw [readString?_unit_of_not unitEq]
      · exact map_prependChar_extend ih readEq
      · -- a half of a pair could find its other half only in what is appended
        intro starts
        obtain ⟨e, f, g, h, later, rfl⟩ := startsWithUnit_of_append textEq starts
        exact alone e f g h later rfl
  | case7 => cases readEq
  | case8 c text _ _ char escapeEq ih =>
      have notUnit : c ≠ 'u' := by
        rintro rfl
        cases escapeEq
      simp only [List.cons_append]
      rw [readString?]
      · simp only [escapeEq]
        exact map_prependChar_extend ih readEq
      all_goals simp [notUnit]
  | case9 => cases readEq
  | case10 => cases readEq
  | case11 c text notQuote _ _ _ printable ih =>
      simp only [Bool.or_eq_true, decide_eq_true_eq, beq_iff_eq, not_or] at printable
      have plain : Plain c := ⟨by omega, notQuote, printable.2⟩
      rw [List.cons_append, readString?_plain plain]
      exact map_prependChar_extend ih readEq

/-! ### Numbers -/

/-- A reader that sees no more than the next character of what follows, and that takes
nothing back. -/
structure LooksAhead {α : Type} (reader : Text → Option (α × Text)) : Prop where
  nil : ∀ {value rest}, reader [] = some (value, rest) → rest = []
  extend : ∀ {text value rest}, reader text = some (value, rest) → rest ≠ [] →
    ∀ more, reader (text ++ more) = some (value, rest ++ more)

section LooksAhead

variable {α β : Type} {reader : Text → Option (α × Text)}

/-- One reader after the other. -/
def inTurn? (reader : Text → Option (α × Text)) (next : α → Text → Option (β × Text))
    (text : Text) : Option (β × Text) :=
  match reader text with
  | none => none
  | some (value, rest) => next value rest

variable {next : α → Text → Option (β × Text)}

theorem exists_of_inTurn? {text rest : Text} {value : β}
    (readEq : inTurn? reader next text = some (value, rest)) :
    ∃ before behind, reader text = some (before, behind) ∧
      next before behind = some (value, rest) := by
  rw [inTurn?] at readEq
  split at readEq
  · cases readEq
  · exact ⟨_, _, ‹_›, readEq⟩

theorem LooksAhead.inTurn (first : LooksAhead reader) (second : ∀ value, LooksAhead (next value)) :
    LooksAhead (inTurn? reader next) := by
  constructor
  · intro value rest readEq
    obtain ⟨before, behind, firstEq, secondEq⟩ := exists_of_inTurn? readEq
    obtain rfl := first.nil firstEq
    exact (second before).nil secondEq
  · intro text value rest readEq nonempty more
    obtain ⟨before, behind, firstEq, secondEq⟩ := exists_of_inTurn? readEq
    have behindNonempty : behind ≠ [] := by
      rintro rfl
      exact nonempty ((second before).nil secondEq)
    rw [inTurn?, first.extend firstEq behindNonempty more]
    exact (second before).extend secondEq nonempty more

theorem LooksAhead.map (looks : LooksAhead reader) (f : α → β) :
    LooksAhead fun text => (reader text).map fun (value, rest) => (f value, rest) := by
  constructor
  · intro value rest readEq
    obtain ⟨⟨value', rest'⟩, firstEq, mapped⟩ := Option.map_eq_some_iff.mp readEq
    obtain ⟨-, rfl⟩ := Prod.mk.inj mapped
    exact looks.nil firstEq
  · intro text value rest readEq nonempty more
    obtain ⟨⟨value', rest'⟩, firstEq, mapped⟩ := Option.map_eq_some_iff.mp readEq
    obtain ⟨rfl, rfl⟩ := Prod.mk.inj mapped
    rw [looks.extend firstEq nonempty more, Option.map_some]

end LooksAhead

theorem eq_append_of_readDigits? {text digits rest : Text}
    (readEq : readDigits? text = some (digits, rest)) :
    text = digits ++ rest ∧ Digits digits ∧ EndsDigits rest := by
  rw [readDigits?, List.span_eq_takeWhile_dropWhile] at readEq
  split at readEq
  · cases readEq
  · rename_i notNil
    obtain ⟨rfl, rfl⟩ := Prod.mk.inj (Option.some.inj readEq)
    refine ⟨List.takeWhile_append_dropWhile.symm, ⟨?_, ?_⟩, ?_⟩
    · intro noDigits
      exact notNil _ (by rw [noDigits])
    · exact fun c member => List.mem_takeWhile_imp member
    · intro c isHead
      have stops := List.head?_dropWhile_not Char.isDigit text
      rw [Option.mem_def.mp isHead] at stops
      exact stops

theorem looksAhead_readDigits? : LooksAhead readDigits? := by
  constructor
  · intro digits rest readEq
    cases readEq
  · intro text digits rest readEq nonempty more
    obtain ⟨rfl, isDigits, ends⟩ := eq_append_of_readDigits? readEq
    obtain ⟨c, others, rfl⟩ := List.exists_cons_of_ne_nil nonempty
    rw [List.append_assoc]
    exact readDigits?_append isDigits ends

/-- What is appended to a text does not change its first character. -/
theorem not_startsWith_append {c : Char} {text : Text} (nonempty : text ≠ [])
    (starts : ∀ others, text ≠ c :: others) (more others : Text) :
    text ++ more ≠ c :: others := by
  obtain ⟨first, text, rfl⟩ := List.exists_cons_of_ne_nil nonempty
  intro appendEq
  exact starts text (by rw [(List.cons.inj appendEq).1])

theorem looksAhead_readWhole? : LooksAhead readWhole? := by
  constructor
  · intro whole rest readEq
    cases readEq
  · intro text whole rest readEq nonempty more
    fun_cases readWhole? text with
    | case1 others digit =>
        rw [readWhole?, if_pos digit] at readEq
        cases readEq
    | case2 others noDigit =>
        rw [readWhole?, if_neg noDigit] at readEq
        obtain ⟨rfl, rfl⟩ := Prod.mk.inj (Option.some.inj readEq)
        obtain ⟨c, others, rfl⟩ := List.exists_cons_of_ne_nil nonempty
        rw [List.cons_append, readWhole?]
        exact if_neg noDigit
    | case3 =>
        rename_i notZero
        have textNonempty : text ≠ [] := by
          rintro rfl
          cases readEq
        rw [readWhole?.eq_2 _ notZero] at readEq
        rw [readWhole?.eq_2 _ (not_startsWith_append textNonempty notZero more)]
        exact looksAhead_readDigits?.extend readEq nonempty more

theorem looksAhead_readFraction? : LooksAhead readFraction? := by
  constructor
  · intro fraction rest readEq
    obtain ⟨-, rfl⟩ := Prod.mk.inj (Option.some.inj readEq)
    rfl
  · intro text fraction rest readEq nonempty more
    fun_cases readFraction? text with
    | case1 others => exact (looksAhead_readDigits?.map ('.' :: ·)).extend readEq nonempty more
    | case2 =>
        rename_i noPoint
        rw [readFraction?.eq_2 _ noPoint] at readEq
        obtain ⟨rfl, rfl⟩ := Prod.mk.inj (Option.some.inj readEq)
        rw [readFraction?.eq_2 _ (not_startsWith_append nonempty noPoint more)]

theorem readExponent?_unsigned {mark c : Char} (isMark : (mark == 'e' || mark == 'E') = true)
    (noPlus : c ≠ '+') (noMinus : c ≠ '-') (others : Text) :
    readExponent? (mark :: c :: others) =
      (readDigits? (c :: others)).map fun (digits, rest) => (mark :: [] ++ digits, rest) := by
  simp [readExponent?, isMark, noPlus, noMinus]

theorem looksAhead_readExponent? : LooksAhead readExponent? := by
  have behind : ∀ front, LooksAhead fun text =>
      (readDigits? text).map fun (digits, rest) => (front ++ digits, rest) :=
    fun front => looksAhead_readDigits?.map (front ++ ·)
  constructor
  · intro exponent rest readEq
    obtain ⟨-, rfl⟩ := Prod.mk.inj (Option.some.inj readEq)
    rfl
  · intro text exponent rest readEq nonempty more
    cases text with
    | nil =>
        obtain ⟨-, rfl⟩ := Prod.mk.inj (Option.some.inj readEq)
        exact absurd rfl nonempty
    | cons mark others =>
        rw [List.cons_append]
        by_cases isMark : (mark == 'e' || mark == 'E') = true
        · cases others with
          | nil =>
              simp only [readExponent?] at readEq
              rw [if_pos isMark] at readEq
              cases readEq
          | cons c others =>
              rw [List.cons_append]
              by_cases plus : c = '+'
              · subst plus
                rw [readExponent?, if_pos isMark] at readEq ⊢
                exact (behind (mark :: ['+'])).extend readEq nonempty more
              by_cases minus : c = '-'
              · subst minus
                rw [readExponent?, if_pos isMark] at readEq ⊢
                exact (behind (mark :: ['-'])).extend readEq nonempty more
              · rw [readExponent?_unsigned isMark plus minus] at readEq ⊢
                exact (behind (mark :: [])).extend readEq nonempty more
        · simp only [readExponent?] at readEq ⊢
          rw [if_neg isMark] at readEq ⊢
          obtain ⟨rfl, rfl⟩ := Prod.mk.inj (Option.some.inj readEq)
          rfl

/-- A number behind its sign. -/
def unsigned? (negative : Bool) : Text → Option (Json × Text) :=
  inTurn? readWhole? fun whole => inTurn? readFraction? fun fraction rest =>
    (readExponent? rest).map fun (exponent, rest) =>
      (numberOf negative whole fraction exponent, rest)

theorem looksAhead_unsigned? (negative : Bool) : LooksAhead (unsigned? negative) :=
  looksAhead_readWhole?.inTurn fun _ => looksAhead_readFraction?.inTurn fun _ =>
    looksAhead_readExponent?.map _

theorem readNumber?_minus (rest : Text) : readNumber? ('-' :: rest) = unsigned? true rest := by
  rw [readNumber?, unsigned?, inTurn?]
  cases readWhole? rest with
  | none => rfl
  | some found =>
      simp only [inTurn?]
      cases readFraction? found.2 <;> rfl

theorem readNumber?_unsigned {text : Text} (noSign : ∀ others, text ≠ '-' :: others) :
    readNumber? text = unsigned? false text := by
  rw [readNumber?, unsigned?, inTurn?]
  · simp only
    cases readWhole? text with
    | none => rfl
    | some found =>
        simp only [inTurn?]
        cases readFraction? found.2 <;> rfl
  · exact noSign

theorem looksAhead_readNumber? : LooksAhead readNumber? := by
  constructor
  · intro number rest readEq
    cases readEq
  · intro text number rest readEq nonempty more
    by_cases signed : ∃ others, text = '-' :: others
    · obtain ⟨others, rfl⟩ := signed
      rw [readNumber?_minus] at readEq
      rw [List.cons_append, readNumber?_minus]
      exact (looksAhead_unsigned? true).extend readEq nonempty more
    · have noSign : ∀ others, text ≠ '-' :: others := fun others textEq => signed ⟨others, textEq⟩
      have textNonempty : text ≠ [] := by
        rintro rfl
        cases readEq
      rw [readNumber?_unsigned noSign] at readEq
      rw [readNumber?_unsigned (not_startsWith_append textNonempty noSign more)]
      exact (looksAhead_unsigned? false).extend readEq nonempty more

/-- A number starts with a digit or a minus sign. -/
theorem exists_cons_of_readNumber? {text rest : Text} {json : Json}
    (readEq : readNumber? text = some (json, rest)) :
    ∃ c others, text = c :: others ∧ (c.isDigit = true ∨ c = '-') := by
  cases text with
  | nil => cases readEq
  | cons c others =>
      refine ⟨c, others, rfl, ?_⟩
      by_cases minus : c = '-'
      · exact Or.inr minus
      by_cases zero : c = '0'
      · exact Or.inl (zero ▸ rfl)
      left
      rw [readNumber?_unsigned (by simp [minus]), unsigned?, inTurn?,
        readWhole?.eq_2 _ (by simp [zero])] at readEq
      cases digitsEq : readDigits? (c :: others) with
      | none =>
          rw [digitsEq] at readEq
          cases readEq
      | some found =>
          obtain ⟨textEq, isDigits, -⟩ := eq_append_of_readDigits? digitsEq
          obtain ⟨d, digits, found1⟩ := List.exists_cons_of_ne_nil isDigits.1
          rw [found1, List.cons_append] at textEq
          rw [(List.cons.inj textEq).1]
          exact isDigits.2 d (found1 ▸ List.mem_cons_self)

/-! ### Values -/

theorem skipSpace_extend {c : Char} {text rest : Text} (skipped : skipSpace text = c :: rest)
    (more : Text) : skipSpace (text ++ more) = c :: (rest ++ more) := by
  rw [skipSpace] at skipped
  rw [skipSpace, List.dropWhile_append, skipped]
  rfl

theorem readValue?_skipSpace (depth : Nat) (text : Text) :
    readValue? depth (skipSpace text) = readValue? depth text := by
  cases depth with
  | zero => rw [readValue?_zero, readValue?_zero]
  | succ depth =>
      have again : skipSpace (skipSpace text) = skipSpace text :=
        List.dropWhile_idempotent isSpace text
      rw [readValue?, readValue?, again]

/-- Numbers are the values that might go on behind their end. -/
def IsNumeric : Json → Prop
  | int _ | float _ => True
  | _ => False

theorem isNumeric_numberOf (negative : Bool) (whole fraction exponent : Text) :
    (numberOf negative whole fraction exponent).IsNumeric := by
  rw [numberOf]
  dsimp only
  split <;> split <;> trivial

theorem isNumeric_of_unsigned? {negative : Bool} {text rest : Text} {json : Json}
    (readEq : unsigned? negative text = some (json, rest)) : json.IsNumeric := by
  obtain ⟨whole, _, -, behindWhole⟩ := exists_of_inTurn? readEq
  obtain ⟨fraction, _, -, behindFraction⟩ := exists_of_inTurn? behindWhole
  obtain ⟨⟨exponent, _⟩, -, built⟩ := Option.map_eq_some_iff.mp behindFraction
  rw [← (Prod.mk.inj built).1]
  exact isNumeric_numberOf negative whole fraction exponent

theorem isNumeric_of_readNumber? {text rest : Text} {json : Json}
    (readEq : readNumber? text = some (json, rest)) : json.IsNumeric := by
  by_cases signed : ∃ others, text = '-' :: others
  · obtain ⟨others, rfl⟩ := signed
    exact isNumeric_of_unsigned? (readNumber?_minus others ▸ readEq)
  · rw [readNumber?_unsigned fun others textEq => signed ⟨others, textEq⟩] at readEq
    exact isNumeric_of_unsigned? readEq

/-- A reader goes on to read what another one reads, whatever is appended behind its end. -/
def Extends {α : Type} (reader wider : Text → Option (α × Text)) : Prop :=
  ∀ text value rest, reader text = some (value, rest) →
    ∀ more, wider (text ++ more) = some (value, rest ++ more)

/-- The same for values, of which a number must not end with the text. -/
def ValuesExtend (depth deeper : Nat) : Prop :=
  ∀ text json rest, readValue? depth text = some (json, rest) → (json.IsNumeric → rest ≠ []) →
    ∀ more, readValue? deeper (text ++ more) = some (json, rest ++ more)

section Levels

variable {depth deeper : Nat}

theorem valuesExtend_succ (items : Extends (readItems? depth) (readItems? deeper))
    (members : Extends (readMembers? depth) (readMembers? deeper)) :
    ValuesExtend (depth + 1) (deeper + 1) := by
  intro text json rest readEq ends more
  rw [readValue?] at readEq
  split at readEq
  case h_1 others skipped =>
    obtain ⟨rfl, rfl⟩ := Prod.mk.inj (Option.some.inj readEq)
    rw [readValue?, skipSpace_extend skipped]
    rfl
  case h_2 others skipped =>
    obtain ⟨rfl, rfl⟩ := Prod.mk.inj (Option.some.inj readEq)
    rw [readValue?, skipSpace_extend skipped]
    rfl
  case h_3 others skipped =>
    obtain ⟨rfl, rfl⟩ := Prod.mk.inj (Option.some.inj readEq)
    rw [readValue?, skipSpace_extend skipped]
    rfl
  case h_4 others skipped =>
    obtain ⟨⟨read, rest'⟩, stringEq, built⟩ := Option.map_eq_some_iff.mp readEq
    obtain ⟨rfl, rfl⟩ := Prod.mk.inj built
    rw [readValue?, skipSpace_extend skipped]
    simp only [readString?_extend stringEq more, Option.map_some]
  case h_5 others skipped =>
    rw [readValue?, skipSpace_extend skipped]
    simp only
    split at readEq
    case h_1 behind closed =>
      obtain ⟨rfl, rfl⟩ := Prod.mk.inj (Option.some.inj readEq)
      simp only [skipSpace_extend closed]
    case h_2 =>
      obtain ⟨⟨read, rest'⟩, itemsEq, built⟩ := Option.map_eq_some_iff.mp readEq
      obtain ⟨rfl, rfl⟩ := Prod.mk.inj built
      have extended := items _ _ _ itemsEq more
      split
      · rename_i closes
        rw [readItems?_bracket closes] at extended
        cases extended
      · rw [extended]
        rfl
  case h_6 others skipped =>
    rw [readValue?, skipSpace_extend skipped]
    simp only
    split at readEq
    case h_1 behind closed =>
      obtain ⟨rfl, rfl⟩ := Prod.mk.inj (Option.some.inj readEq)
      simp only [skipSpace_extend closed]
    case h_2 =>
      obtain ⟨⟨read, rest'⟩, membersEq, built⟩ := Option.map_eq_some_iff.mp readEq
      obtain ⟨rfl, rfl⟩ := Prod.mk.inj built
      have extended := members _ _ _ membersEq more
      split
      · rename_i closes
        rw [readMembers?_brace closes] at extended
        cases extended
      · rw [extended]
        rfl
  case h_7 =>
    obtain ⟨c, others, skipped, starts⟩ := exists_cons_of_readNumber? readEq
    rw [← readValue?_skipSpace, skipSpace_extend skipped, readValue?_number starts,
      ← List.cons_append, ← skipped]
    exact looksAhead_readNumber?.extend readEq (ends (isNumeric_of_readNumber? readEq)) more

/-- Behind an item there is a comma or a bracket. -/
theorem itemsExtend_succ (values : ValuesExtend depth deeper)
    (items : Extends (readItems? depth) (readItems? deeper)) :
    Extends (readItems? (depth + 1)) (readItems? (deeper + 1)) := by
  intro text read rest readEq more
  rw [readItems?] at readEq
  split at readEq
  · cases readEq
  rename_i item behind itemEq
  have extended : behind ≠ [] → readValue? deeper (text ++ more) = some (item, behind ++ more) :=
    fun nonempty => values _ _ _ itemEq (fun _ => nonempty) more
  split at readEq
  case h_1 following closed =>
    obtain ⟨rfl, rfl⟩ := Prod.mk.inj (Option.some.inj readEq)
    have nonempty : behind ≠ [] := by
      rintro rfl
      cases closed
    rw [readItems?, extended nonempty]
    simp only [skipSpace_extend closed]
  case h_2 following goesOn =>
    obtain ⟨⟨others, rest'⟩, othersEq, built⟩ := Option.map_eq_some_iff.mp readEq
    obtain ⟨rfl, rfl⟩ := Prod.mk.inj built
    have nonempty : behind ≠ [] := by
      rintro rfl
      cases goesOn
    rw [readItems?, extended nonempty]
    simp only [skipSpace_extend goesOn, items _ _ _ othersEq more, Option.map_some]
  case h_3 => cases readEq

/-- Behind a member there is a comma or a brace. -/
theorem membersExtend_succ (values : ValuesExtend depth deeper)
    (members : Extends (readMembers? depth) (readMembers? deeper)) :
    Extends (readMembers? (depth + 1)) (readMembers? (deeper + 1)) := by
  intro text read rest readEq more
  rw [readMembers?] at readEq
  split at readEq
  case h_2 => cases readEq
  case h_1 others quoted =>
  rw [readMembers?]
  simp only [skipSpace_extend quoted]
  split at readEq
  · cases readEq
  rename_i name behindName nameEq
  simp only [readString?_extend nameEq more]
  split at readEq
  case h_2 => cases readEq
  case h_1 valueText colon =>
  simp only [skipSpace_extend colon]
  split at readEq
  · cases readEq
  rename_i value behind valueEq
  have extended : behind ≠ [] →
      readValue? deeper (valueText ++ more) = some (value, behind ++ more) :=
    fun nonempty => values _ _ _ valueEq (fun _ => nonempty) more
  split at readEq
  case h_1 following closed =>
    obtain ⟨rfl, rfl⟩ := Prod.mk.inj (Option.some.inj readEq)
    have nonempty : behind ≠ [] := by
      rintro rfl
      cases closed
    simp only [extended nonempty, skipSpace_extend closed]
  case h_2 following goesOn =>
    obtain ⟨⟨others, rest'⟩, othersEq, built⟩ := Option.map_eq_some_iff.mp readEq
    obtain ⟨rfl, rfl⟩ := Prod.mk.inj built
    have nonempty : behind ≠ [] := by
      rintro rfl
      cases goesOn
    simp only [extended nonempty, skipSpace_extend goesOn, members _ _ _ othersEq more,
      Option.map_some]
  case h_3 => cases readEq

end Levels

theorem valuesExtend {depth deeper : Nat} (deep : depth ≤ deeper) : ValuesExtend depth deeper := by
  suffices all : ∀ more, ValuesExtend depth (depth + more) ∧
      Extends (readItems? depth) (readItems? (depth + more)) ∧
      Extends (readMembers? depth) (readMembers? (depth + more)) by
    obtain ⟨more, rfl⟩ := Nat.exists_eq_add_of_le deep
    exact (all more).1
  intro more
  induction depth with
  | zero =>
      refine ⟨?_, ?_, ?_⟩
      · intro text json rest readEq
        rw [readValue?_zero] at readEq
        cases readEq
      · intro text json rest readEq
        rw [readItems?_zero] at readEq
        cases readEq
      · intro text json rest readEq
        rw [readMembers?_zero] at readEq
        cases readEq
  | succ depth ih =>
      obtain ⟨values, items, members⟩ := ih (Nat.le_of_succ_le deep)
      rw [Nat.add_right_comm]
      exact ⟨valuesExtend_succ items members, itemsExtend_succ values items,
        membersExtend_succ values members⟩

/-- The reader stops at the end of a value that is no number, whatever follows it. -/
theorem read?_append {text rest : Text} {json : Json} (readEq : read? text = some (json, rest))
    (notNumeric : ¬ json.IsNumeric) (more : Text) :
    read? (text ++ more) = some (json, rest ++ more) :=
  valuesExtend (by simp) _ _ _ readEq (fun isNumeric => absurd isNumeric notNumeric) more

end Json

end Pinpoint
