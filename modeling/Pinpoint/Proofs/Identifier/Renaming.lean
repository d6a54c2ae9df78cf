import Mathlib.Order.CompletePartialOrder
import Pinpoint.Proofs.Identifier.Recasing

/-!
# Renamed identifiers

A rename fix puts the recased name in the place of the name.  In small letters an identifier
stays an identifier, with or without dots.  In the other cases the underscores in front of the
first word are dropped, so what comes first is the first letter or digit of the name, and the
new name is an identifier exactly if that is a letter.
-/

namespace Pinpoint

namespace Identifier

open scoped Computability

/-! ### The language of identifiers -/

/-- A character of `[A-Za-z_]`. -/
def isStart (c : Char) : Bool :=
  c.isAlpha || c == '_'

/-- A character of `[A-Za-z0-9_]`. -/
def isPart (c : Char) : Bool :=
  c.isAlphanum || c == '_'

/-- The identifiers, `[A-Za-z_][A-Za-z0-9_]*`. -/
def plain : Language Char :=
  one isStart * (one isPart)∗

/-- Identifiers with dots between them. -/
def dotted : Language Char :=
  plain * (one (· == '.') * plain)∗

/-- Whether the first letter or digit of a name is a digit. -/
def leadsWithDigit (name : Text) : Bool :=
  (name.find? Char.isAlphanum).any Char.isDigit

section Languages

variable {c : Char} {holds : Char → Bool} {text : Text} {language : Language Char}

theorem isPart_of_isStart (start : isStart c = true) : isPart c = true := by
  simp only [isStart, isPart, Char.isAlphanum, Bool.or_eq_true] at start ⊢
  tauto

theorem toNat_lt_of_isPart (part : isPart c = true) : c.toNat < 128 := by
  rw [isPart, Bool.or_eq_true, beq_iff_eq] at part
  rcases part with alphanumeric | rfl
  · exact Text.toNat_lt_of_isAlphanum alphanumeric
  · decide

theorem isStart_of_isAlphanum (alphanumeric : c.isAlphanum = true) : isStart c = !c.isDigit := by
  have notUnderscore : (c == '_') = false := by
    rw [beq_eq_false_iff_ne]
    rintro rfl
    exact absurd alphanumeric (by decide)
  rw [isStart, notUnderscore, Bool.or_false]
  rw [Char.isAlphanum, Bool.or_eq_true] at alphanumeric
  rcases alphanumeric with letter | digit
  · rw [letter, Text.isDigit_eq_false_of_isAlpha letter, Bool.not_false]
  · have notLetter : c.isAlpha = false := by
      by_contra letter
      rw [Bool.not_eq_false] at letter
      simp [Text.isDigit_eq_false_of_isAlpha letter] at digit
    rw [digit, notLetter, Bool.not_true]

theorem mem_plain : text ∈ plain ↔ ∃ c rest, text = c :: rest ∧ isStart c = true ∧
    ∀ d ∈ rest, isPart d = true := by
  simp only [plain, mem_one_mul, mem_star_one]

theorem plain_le_dotted : plain ≤ dotted := by
  intro name member
  rw [← List.append_nil name]
  exact Language.append_mem_mul member (Language.nil_mem_kstar _)

/-- Letters, digits, underscores and dots. -/
theorem isAscii_of_mem_dotted (member : text ∈ dotted) : text.IsAscii := by
  let ascii : Language Char := (one fun c => c.toNat < 128)∗
  have characters : ∀ {holds : Char → Bool}, (∀ c, holds c = true → c.toNat < 128) →
      one holds ≤ ascii := by
    rintro holds inAscii _ ⟨c, holdsC, rfl⟩
    exact mem_star_one.mpr (by simpa using inAscii c holdsC)
  have dot : one (· == '.') ≤ ascii := by
    refine characters fun c isDot => ?_
    rw [beq_iff_eq.mp isDot]
    decide
  have again : ascii∗ = ascii := kstar_idem _
  have twice : ascii * ascii = ascii := kstar_mul_kstar _
  have name : plain ≤ ascii :=
    calc plain ≤ ascii * ascii∗ := mul_le_mul'
          (characters fun c start => toNat_lt_of_isPart (isPart_of_isStart start))
          (kstar_mono (characters fun c => toNat_lt_of_isPart))
      _ = ascii := by rw [again, twice]
  have names : dotted ≤ ascii :=
    calc dotted ≤ ascii * (ascii * ascii)∗ := mul_le_mul' name (kstar_mono (mul_le_mul' dot name))
      _ = ascii := by rw [twice, again, twice]
  intro c inText
  simpa using mem_star_one.mp (names member) c inText

/-! ### Small letters -/

theorem map_one_le {change : Char → Char} (keeps : ∀ c, holds (change c) = holds c) :
    Language.map change (one holds) ≤ one holds := by
  rintro _ ⟨_, ⟨c, holdsC, rfl⟩, rfl⟩
  exact ⟨change c, (keeps c).trans holdsC, rfl⟩

/-- What is not a letter comes from itself only. -/
theorem toLower_beq {d : Char} (noLetter : d.isAlpha = false) (c : Char) :
    (c.toLower == d) = (c == d) := by
  by_cases letter : c.isAlpha = true
  · have lowered : c.toLower.isAlpha = true := by rwa [Text.isAlpha_toLower]
    have different : ∀ e : Char, e.isAlpha = true → (e == d) = false := by
      rintro e isLetter
      rw [beq_eq_false_iff_ne]
      rintro rfl
      rw [isLetter] at noLetter
      contradiction
    rw [different _ lowered, different _ letter]
  · have notCapital : ¬ c.isUpper = true := fun capital =>
      letter (Text.isAlpha_iff.2 (.inl capital))
    rw [Text.toLower_of_not_isUpper notCapital]

theorem isStart_toLower (c : Char) : isStart c.toLower = isStart c := by
  rw [isStart, isStart, Text.isAlpha_toLower, toLower_beq (by decide)]

theorem isPart_toLower (c : Char) : isPart c.toLower = isPart c := by
  rw [isPart, isPart, Text.isAlphanum_toLower, toLower_beq (by decide)]

/-- Identifiers with dots between them keep this form in small letters. -/
theorem toLower_mem_dotted (member : text ∈ dotted) : Text.toLower text ∈ dotted := by
  have name : Language.map Char.toLower plain ≤ plain := by
    rw [plain, map_mul, Language.map_kstar]
    exact mul_le_mul' (map_one_le isStart_toLower) (kstar_mono (map_one_le isPart_toLower))
  have names : Language.map Char.toLower dotted ≤ dotted := by
    rw [dotted, map_mul, Language.map_kstar, map_mul]
    exact mul_le_mul' name (kstar_mono (mul_le_mul' (map_one_le (toLower_beq (by decide))) name))
  rw [(isAscii_of_mem_dotted member).toLower_eq]
  exact names ⟨text, member, rfl⟩

end Languages

/-! ### The other cases -/

section Words

variable {text : Text} {letters : LetterCase}

/-- The first word starts with the first letter or digit. -/
theorem exists_words_cons (ascii : text.IsAscii) {c : Char}
    (first : text.find? Char.isAlphanum = some c) :
    ∃ word others, words text = (c :: word) :: others := by
  have kept : text.filter Char.isAlphanum = (words text).flatten := by
    rw [flatten_words]
    apply List.filter_congr
    intro d member
    exact (Text.isAlphanumeric_of_ascii (ascii d member)).symm
  rw [← List.head?_filter, kept] at first
  cases cut : words text with
  | nil => simp [cut] at first
  | cons head others =>
      obtain ⟨d, word, rfl⟩ := List.exists_cons_of_ne_nil
        (ne_nil_of_mem_words (cut ▸ List.mem_cons_self : head ∈ words text))
      obtain rfl : d = c := by simpa [cut] using first
      exact ⟨word, others, rfl⟩

/-- A recased name starts with its first letter or digit. -/
theorem exists_recase_cons (ascii : text.IsAscii) (other : letters ≠ .lower) {c : Char}
    (first : text.find? Char.isAlphanum = some c) :
    ∃ d rest, letters.recase text = d :: rest ∧ d.isAlphanum = true ∧
      d.isDigit = c.isDigit := by
  obtain ⟨word, others, cut⟩ := exists_words_cons ascii first
  have alphanumeric := List.find?_some first
  have isWord : IsWord (c :: word) := isWord_of_mem_words ascii (cut ▸ List.mem_cons_self)
  cases letters with
  | upperSnake =>
      rw [LetterCase.recase, upperSnake, cut, List.map_cons, joined_cons, isWord.ascii.toUpper_eq]
      exact ⟨_, _, rfl, (Text.isAlphanum_toUpper c).trans alphanumeric, Text.isDigit_toUpper c⟩
  | lowerSnake =>
      rw [LetterCase.recase, lowerSnake, cut, List.map_cons, joined_cons, isWord.ascii.toLower_eq]
      exact ⟨_, _, rfl, (Text.isAlphanum_toLower c).trans alphanumeric, Text.isDigit_toLower c⟩
  | upperCamel =>
      rw [LetterCase.recase, upperCamel, cut, List.flatMap_cons, capitalised_cons isWord.ascii]
      exact ⟨_, _, rfl, (Text.isAlphanum_toUpper c).trans alphanumeric, Text.isDigit_toUpper c⟩
  | lower => contradiction

/-- A name in a case has no other characters than identifiers. -/
theorem isPart_of_mem_shape (other : letters ≠ .lower) (member : text ∈ letters.shape) :
    ∀ c ∈ text, isPart c = true := by
  have part : ∀ c, c = '_' ∨ c.isAlphanum = true → isPart c = true := by
    rintro c (rfl | alphanumeric)
    · rfl
    · rw [isPart, alphanumeric, Bool.true_or]
  intro c inText
  apply part
  cases letters with
  | upperSnake =>
      exact (underscore_or_holds_of_mem_snake member c inText).imp_right
        isAlphanum_of_isCapitalOrDigit
  | lowerSnake =>
      exact (underscore_or_holds_of_mem_snake member c inText).imp_right
        isAlphanum_of_isSmallOrDigit
  | upperCamel => exact Or.inr (isAlphanum_of_mem_camel member c inText)
  | lower => exact absurd rfl other

/-- A name with a letter or a digit is recased into an identifier unless a digit comes first. -/
theorem recase_mem_plain_iff (ascii : text.IsAscii) (other : letters ≠ .lower) {c : Char}
    (first : text.find? Char.isAlphanum = some c) :
    letters.recase text ∈ plain ↔ leadsWithDigit text = false := by
  obtain ⟨d, rest, recased, alphanumeric, digit⟩ := exists_recase_cons ascii other first
  obtain ⟨word, others, cut⟩ := exists_words_cons ascii first
  have inShape : letters.recase text ∈ letters.shape :=
    LetterCase.recase_mem_shape ascii (by simp [cut])
  have parts := isPart_of_mem_shape other inShape
  rw [recased] at parts
  have start : isStart d = !c.isDigit := by
    rw [isStart_of_isAlphanum alphanumeric, digit]
  rw [leadsWithDigit, first, Option.any_some, ← Bool.not_eq_true', ← start, recased, mem_plain]
  constructor
  · rintro ⟨_, _, same, isStart, -⟩
    rw [(List.cons.inj same).1]
    exact isStart
  · intro isStart
    exact ⟨d, rest, rfl, isStart, fun e member => parts e (List.mem_cons_of_mem d member)⟩

/-- A name without letters and digits is recased into nothing. -/
theorem recase_eq_nil (ascii : text.IsAscii) (other : letters ≠ .lower)
    (none : text.find? Char.isAlphanum = none) : letters.recase text = [] := by
  apply LetterCase.recase_of_words_eq_nil other
  rw [words_eq_nil_iff]
  intro c member
  rw [Text.isAlphanumeric_of_ascii (ascii c member)]
  simpa using List.find?_eq_none.mp none c member

end Words

end Identifier

/-! ### Rename fixes -/

open Identifier

/-- The names that the tokens of a rule have: a package has dots in its name. -/
def Rule.names (rule : Rule) : Language Char :=
  if rule.name = "PACKAGE_NAME_LOWER_CASE" then dotted else plain

namespace Fix

variable {rule : Rule} {letters : LetterCase} {resolved : ResolvedRange} {fix : Fix}

/-- The packages are what is renamed to small letters. -/
theorem names_of_mem_table (member : rule ∈ Rule.table) (renames : rule.fix = .rename letters) :
    rule.names = if letters = .lower then dotted else plain := by
  have packages : ∀ rule ∈ Rule.table, ∀ letters, rule.fix = .rename letters →
      (rule.name = "PACKAGE_NAME_LOWER_CASE" ↔ letters = .lower) := by
    simp [Rule.table]
  rw [Rule.names]
  exact if_congr (packages rule member letters renames) rfl rfl

theorem edits_of_ofRule (renames : rule.fix = .rename letters) {document : IndexedText}
    {captures : Captures} (offered : ofRule document rule captures resolved = some fix) :
    fix.edits = [⟨resolved.range, letters.recase resolved.text⟩] ∧
      letters.recase resolved.text ≠ [] := by
  rw [ofRule] at offered
  split at offered
  · simp only [ofPrecise, renames, replacing] at offered
    split at offered
    · contradiction
    · rename_i changes
      obtain rfl := Option.some.inj offered
      refine ⟨rfl, ?_⟩
      intro empty
      simp [empty] at changes
  · contradiction

/-- The new name of a rename fix is an identifier, as the old one is, exactly if it is written
in small letters with its underscores kept, or a letter comes first in the old name but for
underscores.  Where a digit does, a fix is always offered. -/
theorem renamed_identifier (member : rule ∈ Rule.table) (renames : rule.fix = .rename letters)
    (named : resolved.text ∈ rule.names) (document : IndexedText) (captures : Captures) :
    (∀ fix, ofRule document rule captures resolved = some fix →
      fix.edits = [⟨resolved.range, letters.recase resolved.text⟩] ∧
        (letters.recase resolved.text ∈ rule.names ↔
          letters = .lower ∨ leadsWithDigit resolved.text = false)) ∧
    (resolved.precise = true → letters ≠ .lower → leadsWithDigit resolved.text = true →
      ∃ fix, ofRule document rule captures resolved = some fix) := by
  have namesEq := names_of_mem_table member renames
  rw [namesEq] at named ⊢
  by_cases small : letters = .lower
  · subst small
    rw [if_pos rfl] at named ⊢
    refine ⟨fun fix offered => ⟨(edits_of_ofRule renames offered).1, ?_⟩,
      fun _ other => absurd rfl other⟩
    exact iff_of_true (toLower_mem_dotted named) (Or.inl rfl)
  · rw [if_neg small] at named ⊢
    have ascii := isAscii_of_mem_dotted (plain_le_dotted named)
    refine ⟨fun fix offered => ?_, fun precise _ digit => ?_⟩
    · obtain ⟨edits, nonempty⟩ := edits_of_ofRule renames offered
      refine ⟨edits, ?_⟩
      cases first : resolved.text.find? Char.isAlphanum with
      | none => exact absurd (recase_eq_nil ascii small first) nonempty
      | some c =>
          rw [recase_mem_plain_iff ascii small first]
          exact (or_iff_right small).symm
    · rw [← Option.ne_none_iff_exists', Ne, ofRule_rename_eq_none_iff renames precise]
      cases first : resolved.text.find? Char.isAlphanum with
      | none => simp [leadsWithDigit, first] at digit
      | some c =>
          have broken := mt (recase_mem_plain_iff ascii small first).mp (by simp [digit])
          obtain ⟨d, rest, recased, -⟩ := exists_recase_cons ascii small first
          rintro (same | vanishes)
          · exact broken (same.symm ▸ named)
          · simp [recased] at vanishes

/-- Underscores in front and a digit at the end. -/
theorem renamed_identifier_of_underscores :
    let rule : Rule := ⟨"FIELD_NAMES_LOWER_SNAKE_CASE", .token .fieldName, .rename .lowerSnake,
      some Rule.namesToken⟩
    let resolved : ResolvedRange := ⟨.onLine 1 9 18, .token, "__userId2".toList⟩
    rule ∈ Rule.table ∧ resolved.text ∈ rule.names ∧
      ∃ fix, ofRule (.ofText resolved.text) rule ⟨none, none⟩ resolved = some fix ∧
        fix.edits = [⟨resolved.range, "user_id2".toList⟩] ∧ "user_id2".toList ∈ rule.names := by
  intro rule resolved
  have member : rule ∈ Rule.table := by simp [rule, Rule.table]
  have named : resolved.text ∈ rule.names :=
    mem_plain.mpr ⟨'_', "_userId2".toList, rfl, rfl,
      List.all_eq_true.mp (by decide : ("_userId2".toList).all isPart = true)⟩
  have offered : ofRule (.ofText resolved.text) rule ⟨none, none⟩ resolved =
      some (single (renameTitle resolved.text "user_id2".toList) resolved.range
        "user_id2".toList) := rfl
  obtain ⟨edits, keeps⟩ :=
    (renamed_identifier member rfl named (.ofText resolved.text) ⟨none, none⟩).1 _ offered
  have recased : LetterCase.lowerSnake.recase resolved.text = "user_id2".toList := by decide
  rw [recased] at edits keeps
  exact ⟨member, named, _, offered, edits, keeps.mpr (Or.inr (by decide))⟩

/-- Without its underscore the name `_1` is a number. -/
theorem renamed_to_number :
    let rule : Rule := ⟨"ENUM_FIELD_NAMES_UPPER_SNAKE_CASE", .token .enumValueName,
      .rename .upperSnake, some Rule.namesToken⟩
    let resolved : ResolvedRange := ⟨.onLine 1 2 4, .token, "_1".toList⟩
    rule ∈ Rule.table ∧ "_1".toList ∈ rule.names ∧
      ofRule (.ofText "enum E \x7b\n  _1 = 0;\n\x7d\n".toList) rule ⟨none, none⟩ resolved =
        some (single (renameTitle "_1".toList "1".toList) resolved.range "1".toList) ∧
      "1".toList ∉ rule.names ∧
      ¬ ∀ rule ∈ Rule.table, ∀ (letters : LetterCase) (document : IndexedText)
          (captures : Captures) (resolved : ResolvedRange) (fix : Fix),
        rule.fix = .rename letters → resolved.text ∈ rule.names →
          ofRule document rule captures resolved = some fix →
            ∀ edit ∈ fix.edits, edit.newText ∈ rule.names := by
  intro rule resolved
  have member : rule ∈ Rule.table := by simp [rule, Rule.table]
  have named : "_1".toList ∈ rule.names := mem_plain.mpr ⟨'_', ['1'], rfl, rfl, by simp [isPart]⟩
  have offered : ofRule (.ofText "enum E \x7b\n  _1 = 0;\n\x7d\n".toList) rule ⟨none, none⟩
      resolved = some (single (renameTitle "_1".toList "1".toList) resolved.range
        "1".toList) := rfl
  have number : "1".toList ∉ rule.names := by
    intro isName
    obtain ⟨c, rest, same, start, -⟩ := mem_plain.mp isName
    obtain ⟨rfl, -⟩ := List.cons.inj same
    exact absurd start (by decide)
  refine ⟨member, named, offered, number, ?_⟩
  intro keeps
  exact number (keeps rule member _ _ _ resolved _ rfl named offered _ List.mem_cons_self)

end Fix

end Pinpoint
