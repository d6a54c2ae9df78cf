import Mathlib.Computability.Language
import Pinpoint.Proofs.Identifier.Casing

/-!
# Shapes of recased identifiers

The cases are regular languages: runs of letters and digits with single underscores between
them, or one run that starts with a capital or a digit.  An ASCII text with a letter or digit
is recased into the language of the case, and only the case of its letters is lost.
-/

namespace Pinpoint

namespace Identifier

open scoped Computability

/-! ### Languages -/

/-- The texts of one character of a class. -/
def one (holds : Char → Bool) : Language Char :=
  {text | ∃ c, holds c = true ∧ text = [c]}

/-- One or more characters of a class, as in `[a-z0-9]+`. -/
def run (holds : Char → Bool) : Language Char :=
  one holds * (one holds)∗

/-- Runs with underscores between them, as in `[a-z0-9]+(_[a-z0-9]+)*`. -/
def snake (holds : Char → Bool) : Language Char :=
  run holds * (one (· == '_') * run holds)∗

/-- A character of `[A-Z0-9]`. -/
def isCapitalOrDigit (c : Char) : Bool :=
  c.isUpper || c.isDigit

/-- A character of `[a-z0-9]`. -/
def isSmallOrDigit (c : Char) : Bool :=
  c.isLower || c.isDigit

/-- The language `[A-Z0-9][A-Za-z0-9]*`. -/
def camel : Language Char :=
  one isCapitalOrDigit * (one Char.isAlphanum)∗

section Characters

variable {c : Char}

theorem isAlphanum_of_isCapitalOrDigit (member : isCapitalOrDigit c = true) :
    c.isAlphanum = true := by
  rw [isCapitalOrDigit, Bool.or_eq_true] at member
  rw [Text.isAlphanum_iff, Text.isAlpha_iff]
  tauto

theorem isAlphanum_of_isSmallOrDigit (member : isSmallOrDigit c = true) :
    c.isAlphanum = true := by
  rw [isSmallOrDigit, Bool.or_eq_true] at member
  rw [Text.isAlphanum_iff, Text.isAlpha_iff]
  tauto

theorem isLower_eq_false_of_isCapitalOrDigit (member : isCapitalOrDigit c = true) :
    c.isLower = false := by
  rw [isCapitalOrDigit, Bool.or_eq_true, Text.isUpper_iff_toNat, Text.isDigit_iff_toNat] at member
  rw [← Bool.not_eq_true, Text.isLower_iff_toNat]
  omega

theorem isUpper_eq_false_of_isSmallOrDigit (member : isSmallOrDigit c = true) :
    c.isUpper = false := by
  rw [isSmallOrDigit, Bool.or_eq_true, Text.isLower_iff_toNat, Text.isDigit_iff_toNat] at member
  rw [← Bool.not_eq_true, Text.isUpper_iff_toNat]
  omega

end Characters

section Languages

variable {holds : Char → Bool} {language : Language Char} {text : Text}

/-- A character of a class in front of a text of another language. -/
theorem mem_one_mul : text ∈ one holds * language ↔
    ∃ c rest, text = c :: rest ∧ holds c = true ∧ rest ∈ language := by
  rw [Language.mem_mul]
  constructor
  · rintro ⟨first, ⟨c, holdsC, rfl⟩, rest, member, rfl⟩
    exact ⟨c, rest, rfl, holdsC, member⟩
  · rintro ⟨c, rest, rfl, holdsC, member⟩
    exact ⟨[c], ⟨c, holdsC, rfl⟩, rest, member, rfl⟩

theorem mem_star_one : text ∈ (one holds)∗ ↔ ∀ c ∈ text, holds c = true := by
  rw [Language.mem_kstar]
  constructor
  · rintro ⟨pieces, rfl, ones⟩ c member
    obtain ⟨piece, inPieces, inPiece⟩ := List.mem_flatten.mp member
    obtain ⟨d, holdsD, rfl⟩ := ones piece inPieces
    obtain rfl := List.mem_singleton.mp inPiece
    exact holdsD
  · intro all
    refine ⟨text.map ([·]), (List.flatMap_singleton' text).symm, ?_⟩
    intro piece member
    obtain ⟨c, inText, rfl⟩ := List.mem_map.mp member
    exact ⟨c, all c inText, rfl⟩

theorem mem_run : text ∈ run holds ↔ text ≠ [] ∧ ∀ c ∈ text, holds c = true := by
  rw [run, mem_one_mul]
  constructor
  · rintro ⟨c, rest, rfl, holdsC, others⟩
    exact ⟨by simp, List.forall_mem_cons.mpr ⟨holdsC, mem_star_one.mp others⟩⟩
  · rintro ⟨nonempty, all⟩
    obtain ⟨c, rest, rfl⟩ := List.exists_cons_of_ne_nil nonempty
    obtain ⟨holdsC, others⟩ := List.forall_mem_cons.mp all
    exact ⟨c, rest, rfl, holdsC, mem_star_one.mpr others⟩

theorem isWord_of_mem_run (alphanumeric : ∀ c, holds c = true → c.isAlphanum = true)
    (member : text ∈ run holds) : IsWord text := by
  obtain ⟨nonempty, all⟩ := mem_run.mp member
  exact ⟨nonempty, fun c inText => alphanumeric c (all c inText)⟩

theorem mem_run_of_mem_splitChunk {piece : Text} (member : text ∈ run holds)
    (inSplit : piece ∈ splitChunk text) : piece ∈ run holds := by
  refine mem_run.mpr ⟨?_, ?_⟩
  · rintro rfl
    exact nil_notMem_splitChunk text inSplit
  · intro c inPiece
    apply (mem_run.mp member).2
    rw [← flatten_splitChunk text]
    exact List.mem_flatten_of_mem inSplit inPiece

/-- Texts of a language, each behind an underscore. -/
theorem mem_star_underscore : text ∈ (one (· == '_') * language)∗ ↔
    ∃ parts : List Text, (∀ part ∈ parts, part ∈ language) ∧
      text = parts.flatMap ('_' :: ·) := by
  rw [Language.mem_kstar]
  constructor
  · rintro ⟨pieces, rfl, led⟩
    induction pieces with
    | nil => exact ⟨[], by simp, rfl⟩
    | cons piece pieces ih =>
        obtain ⟨pieceLed, laterLed⟩ := List.forall_mem_cons.mp led
        obtain ⟨c, part, rfl, isUnderscore, member⟩ := mem_one_mul.mp pieceLed
        obtain rfl : c = '_' := by simpa using isUnderscore
        obtain ⟨parts, members, piecesEq⟩ := ih laterLed
        refine ⟨part :: parts, List.forall_mem_cons.mpr ⟨member, members⟩, ?_⟩
        rw [List.flatten_cons, piecesEq, List.flatMap_cons]
  · rintro ⟨parts, members, rfl⟩
    refine ⟨parts.map ('_' :: ·), rfl, ?_⟩
    intro piece inPieces
    obtain ⟨part, inParts, rfl⟩ := List.mem_map.mp inPieces
    exact mem_one_mul.mpr ⟨'_', part, rfl, by simp, members part inParts⟩

/-- A text has the shape of runs between underscores exactly if it is joined of runs. -/
theorem mem_snake : text ∈ snake holds ↔
    ∃ parts, parts ≠ [] ∧ (∀ part ∈ parts, part ∈ run holds) ∧ text = joined parts := by
  rw [snake, Language.mem_mul]
  constructor
  · rintro ⟨first, firstRun, rest, others, rfl⟩
    obtain ⟨parts, runs, rfl⟩ := mem_star_underscore.mp others
    exact ⟨first :: parts, by simp, List.forall_mem_cons.mpr ⟨firstRun, runs⟩,
      (joined_cons first parts).symm⟩
  · rintro ⟨parts, nonempty, runs, rfl⟩
    obtain ⟨first, others, rfl⟩ := List.exists_cons_of_ne_nil nonempty
    obtain ⟨firstRun, otherRuns⟩ := List.forall_mem_cons.mp runs
    exact ⟨first, firstRun, _, mem_star_underscore.mpr ⟨others, otherRuns, rfl⟩,
      (joined_cons first others).symm⟩

theorem underscore_or_holds_of_mem_snake (member : text ∈ snake holds) :
    ∀ c ∈ text, c = '_' ∨ holds c = true := by
  obtain ⟨parts, -, runs, rfl⟩ := mem_snake.mp member
  intro c inText
  rcases mem_joined inText with isUnderscore | ⟨part, inParts, inPart⟩
  · exact Or.inl isUnderscore
  · exact Or.inr ((mem_run.mp (runs part inParts)).2 c inPart)

theorem exists_holds_of_mem_snake (member : text ∈ snake holds) :
    ∃ c ∈ text, holds c = true := by
  obtain ⟨first, firstRun, rest, -, rfl⟩ := Language.mem_mul.mp member
  obtain ⟨nonempty, all⟩ := mem_run.mp firstRun
  obtain ⟨c, inFirst⟩ := List.exists_mem_of_ne_nil first nonempty
  exact ⟨c, List.mem_append_left rest inFirst, all c inFirst⟩

theorem mem_camel : text ∈ camel ↔ ∃ c rest, text = c :: rest ∧
    isCapitalOrDigit c = true ∧ ∀ d ∈ rest, d.isAlphanum = true := by
  simp only [camel, mem_one_mul, mem_star_one]

theorem isAlphanum_of_mem_camel (member : text ∈ camel) : ∀ c ∈ text, c.isAlphanum = true := by
  obtain ⟨c, rest, rfl, first, others⟩ := mem_camel.mp member
  exact List.forall_mem_cons.mpr ⟨isAlphanum_of_isCapitalOrDigit first, others⟩

end Languages

/-! ### Recased words -/

theorem isCapitalOrDigit_toUpper (c : Char) : isCapitalOrDigit c.toUpper = c.isAlphanum := by
  rw [isCapitalOrDigit, Text.isUpper_toUpper, Text.isDigit_toUpper]
  rfl

theorem isSmallOrDigit_toLower (c : Char) : isSmallOrDigit c.toLower = c.isAlphanum := by
  rw [isSmallOrDigit, Text.isLower_toLower, Text.isDigit_toLower]
  rfl

namespace IsWord

variable {word : Text}

theorem toUpper_mem_run (isWord : IsWord word) : Text.toUpper word ∈ run isCapitalOrDigit := by
  refine mem_run.mpr ⟨isWord.toUpper.ne_nil, ?_⟩
  rw [isWord.ascii.toUpper_eq, List.forall_mem_map]
  intro c member
  rw [isCapitalOrDigit_toUpper]
  exact isWord.alphanumeric c member

theorem toLower_mem_run (isWord : IsWord word) : Text.toLower word ∈ run isSmallOrDigit := by
  refine mem_run.mpr ⟨isWord.toLower.ne_nil, ?_⟩
  rw [isWord.ascii.toLower_eq, List.forall_mem_map]
  intro c member
  rw [isSmallOrDigit_toLower]
  exact isWord.alphanumeric c member

theorem capitalised_mem_camel (isWord : IsWord word) : capitalised word ∈ camel := by
  obtain ⟨c, rest, rfl⟩ := List.exists_cons_of_ne_nil isWord.ne_nil
  obtain ⟨first, others⟩ := List.forall_mem_cons.mp isWord.alphanumeric
  rw [capitalised_cons isWord.ascii, mem_camel]
  refine ⟨c.toUpper, rest.map Char.toLower, rfl, ?_, ?_⟩
  · rwa [isCapitalOrDigit_toUpper]
  · rw [List.forall_mem_map]
    intro d member
    rw [Text.isAlphanum_toLower]
    exact others d member

/-! Apart from the case of its letters a word stays as it is. -/

theorem map_toLower_toUpper (isWord : IsWord word) :
    (Text.toUpper word).map Char.toLower = word.map Char.toLower := by
  rw [isWord.ascii.toUpper_eq, List.map_map]
  exact List.map_congr_left fun c _ => Text.toLower_toUpper c

theorem map_toLower_toLower (isWord : IsWord word) :
    (Text.toLower word).map Char.toLower = word.map Char.toLower := by
  rw [isWord.ascii.toLower_eq, List.map_map]
  exact List.map_congr_left fun c _ => Text.toLower_toLower c

theorem map_toLower_capitalised (isWord : IsWord word) :
    (capitalised word).map Char.toLower = word.map Char.toLower := by
  obtain ⟨c, rest, rfl⟩ := List.exists_cons_of_ne_nil isWord.ne_nil
  rw [capitalised_cons isWord.ascii, List.map_cons, List.map_cons, List.map_map,
    Text.toLower_toUpper]
  exact congrArg (c.toLower :: ·) (List.map_congr_left fun d _ => Text.toLower_toLower d)

end IsWord

/-! ### Recased texts -/

section RecasedTexts

variable {text : Text} {change : Text → Text} {holds : Char → Bool}

theorem joined_words_mem_snake (some : words text ≠ [])
    (runs : ∀ word ∈ words text, change word ∈ run holds) :
    joined ((words text).map change) ∈ snake holds :=
  mem_snake.mpr ⟨_, mt List.map_eq_nil_iff.mp some, List.forall_mem_map.mpr runs, rfl⟩

/-- Words behind each other start as the first one does. -/
theorem flatMap_words_mem_camel (some : words text ≠ [])
    (camels : ∀ word ∈ words text, change word ∈ camel) :
    (words text).flatMap change ∈ camel := by
  obtain ⟨word, others, wordsEq⟩ := List.exists_cons_of_ne_nil some
  rw [wordsEq] at camels ⊢
  obtain ⟨first, later⟩ := List.forall_mem_cons.mp camels
  obtain ⟨c, rest, changed, holdsC, restAll⟩ := mem_camel.mp first
  rw [List.flatMap_cons, changed, List.cons_append, mem_camel]
  refine ⟨c, _, rfl, holdsC, List.forall_mem_append.mpr ⟨restAll, ?_⟩⟩
  intro d member
  obtain ⟨next, inOthers, inNext⟩ := List.mem_flatMap.mp member
  exact isAlphanum_of_mem_camel (later next inOthers) d inNext

/-- Words that keep their letters up to their case hold all letters and digits of the text. -/
theorem map_toLower_flatMap_words (ascii : text.IsAscii)
    (same : ∀ word ∈ words text,
      (change word).map Char.toLower = word.map Char.toLower) :
    ((words text).flatMap change).map Char.toLower =
      (text.filter Char.isAlphanum).map Char.toLower := by
  have kept : text.filter Char.isAlphanum = (words text).flatten := by
    rw [flatten_words]
    apply List.filter_congr
    intro c member
    exact (Text.isAlphanumeric_of_ascii (ascii c member)).symm
  rw [kept, List.map_flatMap, List.map_flatten, ← List.flatMap_def]
  exact List.flatMap_congr same

theorem map_toLower_joined_words (ascii : text.IsAscii)
    (isWord : ∀ word ∈ words text, IsWord (change word))
    (same : ∀ word ∈ words text,
      (change word).map Char.toLower = word.map Char.toLower) :
    ((joined ((words text).map change)).filter (· ≠ '_')).map Char.toLower =
      (text.filter Char.isAlphanum).map Char.toLower := by
  have plain : ∀ part ∈ (words text).map change, '_' ∉ part :=
    List.forall_mem_map.mpr fun word member => (isWord word member).underscore_notMem
  rw [filter_joined plain, ← List.flatMap_def]
  exact map_toLower_flatMap_words ascii same

/-- A recased ASCII text has the shape of the case, unless it has no letter or digit and is
recased into nothing.  Without its underscores and up to the case of its letters it is the
letters and digits of the text. -/
theorem recased_shapes (ascii : text.IsAscii) :
    ((∃ c ∈ text, c.isAlphanum = true) →
      upperSnake text ∈ snake isCapitalOrDigit ∧ lowerSnake text ∈ snake isSmallOrDigit ∧
        upperCamel text ∈ camel) ∧
    (∀ recased ∈ [upperSnake text, lowerSnake text, upperCamel text],
      (recased.filter (· ≠ '_')).map Char.toLower =
        (text.filter Char.isAlphanum).map Char.toLower) ∧
    ((∀ c ∈ text, c.isAlphanum = false) →
      upperSnake text = [] ∧ lowerSnake text = [] ∧ upperCamel text = []) := by
  have isWord : ∀ word ∈ words text, IsWord word := fun _ => isWord_of_mem_words ascii
  have noWords : words text = [] ↔ ∀ c ∈ text, c.isAlphanum = false := by
    rw [words_eq_nil_iff]
    apply forall₂_congr
    intro c member
    rw [Text.isAlphanumeric_of_ascii (ascii c member)]
  refine ⟨?shape, ?letters, ?empty⟩
  case shape =>
    rintro ⟨c, member, alphanumeric⟩
    have some : words text ≠ [] := by
      intro none
      simp [noWords.mp none c member] at alphanumeric
    exact ⟨joined_words_mem_snake some fun word inText => (isWord word inText).toUpper_mem_run,
      joined_words_mem_snake some fun word inText => (isWord word inText).toLower_mem_run,
      flatMap_words_mem_camel some fun word inText => (isWord word inText).capitalised_mem_camel⟩
  case letters =>
    simp only [List.forall_mem_cons, List.not_mem_nil, false_imp_iff, implies_true, and_true]
    refine ⟨?_, ?_, ?_⟩
    · exact map_toLower_joined_words ascii (fun word member => (isWord word member).toUpper)
        fun word member => (isWord word member).map_toLower_toUpper
    · exact map_toLower_joined_words ascii (fun word member => (isWord word member).toLower)
        fun word member => (isWord word member).map_toLower_toLower
    · have plain : (upperCamel text).filter (· ≠ '_') = upperCamel text := by
        rw [List.filter_eq_self]
        intro c member
        obtain ⟨word, inWords, inWord⟩ := List.mem_flatMap.mp member
        have alphanumeric := isAlphanum_of_mem_camel
          (isWord word inWords).capitalised_mem_camel c inWord
        simp only [ne_eq, decide_not, Bool.not_eq_true', decide_eq_false_iff_not]
        rintro rfl
        exact absurd alphanumeric (by decide)
      rw [plain]
      exact map_toLower_flatMap_words ascii
        fun word member => (isWord word member).map_toLower_capitalised
  case empty =>
    intro none
    rw [upperSnake, lowerSnake, upperCamel, noWords.mpr none]
    exact ⟨rfl, rfl, rfl⟩

/-- Separators at both ends and in a row. -/
theorem recased_shapes_of_separators :
    Text.IsAscii "__a.-B2cD_".toList ∧ upperSnake "__a.-B2cD_".toList = "A_B2C_D".toList ∧
      upperSnake "__a.-B2cD_".toList ∈ snake isCapitalOrDigit := by
  have ascii : Text.IsAscii "__a.-B2cD_".toList := by decide
  exact ⟨ascii, by decide, ((recased_shapes ascii).1 ⟨'a', by decide, by decide⟩).1⟩

end RecasedTexts

end Identifier

end Pinpoint
