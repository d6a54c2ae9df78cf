import Pinpoint.Fix
import Pinpoint.Proofs.Identifier.Shapes

/-!
# Recasing twice

A name in small letters is left alone when it is recased again.  The other two cases change a
name once more where the words of the result are not those that it was put together of: a
capital behind a digit starts a word in upper snake case, and letters in a row, each a word of
its own, read as an acronym in upper camel case.  There are no other exceptions.
-/

namespace Pinpoint

open Identifier

/-- Whether two neighbours are not both capitals, or a small letter behind them shows that the
second one starts a word. -/
def Identifier.toldApart (previous current : Char) (next : Option Char) : Bool :=
  !(previous.isUpper && current.isUpper) || next.any Char.isLower

namespace LetterCase

open scoped Computability

/-- The names that are written in a case. -/
def shape : LetterCase → Language Char
  | .upperSnake => snake isCapitalOrDigit
  | .lowerSnake => snake isSmallOrDigit
  | .upperCamel => camel
  | .lower => (one fun c => c.toNat < 128 && !c.isUpper)∗

/-- The texts that recasing can give: the names in the case, and nothing for a text without
letters and digits. -/
def Writes (letters : LetterCase) (name : Text) : Prop :=
  name = [] ∨ name ∈ letters.shape

/-- Whether a name in a case is made of words that are found in it again: no digit right in
front of a capital in upper snake case, and no capital right behind another one in upper camel
case, unless a small letter follows. -/
def steady : LetterCase → Text → Bool
  | .upperSnake, name =>
      neighbours (fun previous current _ => !(previous.isDigit && current.isUpper)) name
  | .upperCamel, name => neighbours toldApart name
  | .lowerSnake, _ | .lower, _ => true

end LetterCase

namespace Identifier

variable {name : Text} {holds : Char → Bool} {change : Text → Text}

/-! ### Runs between underscores -/

/-- A change that leaves runs of a class alone leaves a name of such runs alone exactly if
none of them falls apart. -/
theorem joined_words_eq_self_iff (member : name ∈ snake holds)
    (alphanumeric : ∀ c, holds c = true → c.isAlphanum = true)
    (fixed : ∀ piece ∈ run holds, change piece = piece) :
    joined ((words name).map change) = name ↔ unbroken name = true := by
  obtain ⟨parts, nonempty, runs, rfl⟩ := mem_snake.mp member
  have isWord : ∀ part ∈ run holds, IsWord part := fun _ => isWord_of_mem_run alphanumeric
  have wordsEq : words (joined parts) = parts.flatMap splitChunk :=
    words_joined fun part inParts => (isWord part (runs part inParts)).isAlphanumeric
  have pieces : ∀ piece ∈ parts.flatMap splitChunk, piece ∈ run holds := by
    intro piece inPieces
    obtain ⟨part, inParts, inSplit⟩ := List.mem_flatMap.mp inPieces
    exact mem_run_of_mem_splitChunk (runs part inParts) inSplit
  have unchanged : (parts.flatMap splitChunk).map change = parts.flatMap splitChunk := by
    rw [List.map_congr_left (g := id) fun piece inPieces => fixed piece (pieces piece inPieces),
      List.map_id]
  have nilNotMem : [] ∉ parts := fun inParts => (isWord [] (runs [] inParts)).ne_nil rfl
  have some : parts.flatMap splitChunk ≠ [] := by
    obtain ⟨part, inParts⟩ := List.exists_mem_of_ne_nil parts nonempty
    intro none
    exact splitChunk_ne_nil (isWord part (runs part inParts)).ne_nil
      (List.flatMap_eq_nil_iff.mp none part inParts)
  rw [wordsEq, unchanged, unbroken_joined, ← flatMap_splitChunk_eq_self_iff nilNotMem]
  constructor
  · apply joined_injective some nonempty
    · exact fun piece inPieces => (isWord piece (pieces piece inPieces)).underscore_notMem
    · exact fun part inParts => (isWord part (runs part inParts)).underscore_notMem
  · intro same
    rw [same]

theorem toUpper_eq_self {text : Text} (member : text ∈ run isCapitalOrDigit) :
    Text.toUpper text = text := by
  have isWord : IsWord text := isWord_of_mem_run (fun _ => isAlphanum_of_isCapitalOrDigit) member
  rw [isWord.ascii.toUpper_eq, List.map_congr_left (g := id), List.map_id]
  intro c inText
  apply Text.toUpper_of_not_isLower
  rw [isLower_eq_false_of_isCapitalOrDigit ((mem_run.mp member).2 c inText)]
  exact Bool.false_ne_true

theorem toLower_eq_self {text : Text} (member : ∀ c ∈ text, c.toNat < 128 ∧ c.isUpper = false) :
    Text.toLower text = text := by
  have ascii : text.IsAscii := fun c inText => (member c inText).1
  rw [ascii.toLower_eq, List.map_congr_left (g := id), List.map_id]
  intro c inText
  apply Text.toLower_of_not_isUpper
  rw [(member c inText).2]
  exact Bool.false_ne_true

/-- Between capitals, digits and underscores a word starts at a capital behind a digit. -/
theorem unbroken_eq_steady (member : name ∈ snake isCapitalOrDigit) :
    unbroken name = LetterCase.upperSnake.steady name := by
  apply neighbours_congr (underscore_or_holds_of_mem_snake member)
  have classes : ∀ c, c = '_' ∨ isCapitalOrDigit c = true →
      Text.isUpper c = c.isUpper ∧ Text.isLower c = false := by
    rintro c (rfl | capitalOrDigit)
    · decide
    · have ascii := Text.toNat_lt_of_isAlphanum (isAlphanum_of_isCapitalOrDigit capitalOrDigit)
      rw [Text.isUpper_of_ascii ascii, Text.isLower_of_ascii ascii]
      exact ⟨rfl, isLower_eq_false_of_isCapitalOrDigit capitalOrDigit⟩
  intro previous current next previousClass currentClass nextClass
  have notSmall : next.any Text.isLower = false := by
    cases next with
    | none => rfl
    | some c => exact (classes c (nextClass c rfl)).2
  rw [startsWord, (classes current currentClass).1, (classes previous previousClass).2, notSmall,
    Bool.and_false, Bool.or_false, Bool.false_or, Bool.and_comm]

theorem upperSnake_eq_self_iff (member : name ∈ snake isCapitalOrDigit) :
    upperSnake name = name ↔ LetterCase.upperSnake.steady name = true := by
  rw [← unbroken_eq_steady member]
  exact joined_words_eq_self_iff member (fun _ => isAlphanum_of_isCapitalOrDigit)
    fun _ => toUpper_eq_self

theorem lowerSnake_eq_self (member : name ∈ snake isSmallOrDigit) : lowerSnake name = name := by
  have small : ∀ c ∈ name, Text.isUpper c = false := by
    intro c inName
    rcases underscore_or_holds_of_mem_snake member c inName with rfl | smallOrDigit
    · decide
    · rw [Text.isUpper_of_ascii
        (Text.toNat_lt_of_isAlphanum (isAlphanum_of_isSmallOrDigit smallOrDigit))]
      exact isUpper_eq_false_of_isSmallOrDigit smallOrDigit
  refine (joined_words_eq_self_iff member (fun _ => isAlphanum_of_isSmallOrDigit) ?_).mpr
    (unbroken_of_forall small)
  intro piece inRun
  apply toLower_eq_self
  intro c inPiece
  have smallOrDigit := (mem_run.mp inRun).2 c inPiece
  exact ⟨Text.toNat_lt_of_isAlphanum (isAlphanum_of_isSmallOrDigit smallOrDigit),
    isUpper_eq_false_of_isSmallOrDigit smallOrDigit⟩

/-! ### Words without anything between them -/

/-- Behind a letter or a digit a word starts at each capital that is told apart. -/
theorem startsWord_eq_toldApart {previous current : Char} {next : Option Char}
    (previousAll : previous.isAlphanum = true) (currentAscii : current.toNat < 128)
    (nextAscii : ∀ c ∈ next, c.toNat < 128) :
    startsWord previous current next =
      (current.isUpper && toldApart previous current next) := by
  have previousAscii := Text.toNat_lt_of_isAlphanum previousAll
  have nextEq : next.any Text.isLower = next.any Char.isLower := by
    cases next with
    | none => rfl
    | some c => exact Text.isLower_of_ascii (nextAscii c rfl)
  have lowerOrDigit : (previous.isLower || previous.isDigit) = !previous.isUpper := by
    rw [Bool.eq_iff_iff]
    rw [Text.isAlphanum_iff, Text.isAlpha_iff] at previousAll
    rw [Bool.or_eq_true, Bool.not_eq_true', ← Bool.not_eq_true]
    rw [Text.isUpper_iff_toNat, Text.isLower_iff_toNat, Text.isDigit_iff_toNat] at previousAll ⊢
    omega
  rw [startsWord, toldApart, Text.isUpper_of_ascii currentAscii,
    Text.isLower_of_ascii previousAscii, Text.isUpper_of_ascii previousAscii, nextEq, lowerOrDigit]
  cases current.isUpper <;> cases previous.isUpper <;> rfl

section Camel

variable {c next : Char} {rest : Text}

theorem flatMap_capitalised_of_starts (ascii : c.toNat < 128)
    (starts : startsWord c next rest.head? = true) :
    (splitChunk (c :: next :: rest)).flatMap capitalised =
      c.toUpper :: (splitChunk (next :: rest)).flatMap capitalised := by
  rw [splitChunk_cons_cons, if_pos starts, List.flatMap_cons, capitalised,
    Text.upperOfChar_of_ascii ascii]
  rfl

/-- A character inside a word loses its capital, and the rest stays as it is. -/
theorem flatMap_capitalised_of_continues (ascii : Text.IsAscii (c :: next :: rest))
    (continues : startsWord c next rest.head? = false) :
    ∃ others, (splitChunk (next :: rest)).flatMap capitalised = next.toUpper :: others ∧
      (splitChunk (c :: next :: rest)).flatMap capitalised =
        c.toUpper :: next.toLower :: others := by
  obtain ⟨word, more, splits⟩ := exists_splitChunk_cons next rest
  have wordAscii : Text.IsAscii (c :: next :: word) := by
    have inRest : ∀ d ∈ next :: word, d ∈ next :: rest := by
      intro d member
      rw [← flatten_splitChunk (next :: rest), splits]
      exact List.mem_append_left _ member
    intro d member
    rcases List.mem_cons.mp member with rfl | inWord
    · exact ascii d List.mem_cons_self
    · exact ascii d (List.mem_cons_of_mem c (inRest d inWord))
  refine ⟨word.map Char.toLower ++ more.flatMap capitalised, ?_, ?_⟩
  · rw [splits, List.flatMap_cons, capitalised_cons (List.forall_mem_cons.mp wordAscii).2]
    rfl
  · rw [splitChunk_cons_cons, if_neg (by simp [continues]), splits, extendFirst,
      List.flatMap_cons, capitalised_cons wordAscii]
    rfl

theorem flatMap_capitalised_eq_iff (alphanumeric : ∀ d ∈ c :: rest, d.isAlphanum = true) :
    (splitChunk (c :: rest)).flatMap capitalised = c.toUpper :: rest ↔
      neighbours toldApart (c :: rest) = true := by
  induction rest generalizing c with
  | nil =>
      have ascii := Text.toNat_lt_of_isAlphanum (alphanumeric c List.mem_cons_self)
      refine iff_of_true ?_ rfl
      rw [splitChunk, List.flatMap_singleton, capitalised, Text.upperOfChar_of_ascii ascii]
      rfl
  | cons next rest ih =>
      obtain ⟨first, later⟩ := List.forall_mem_cons.mp alphanumeric
      have ascii : Text.IsAscii (c :: next :: rest) := fun d member =>
        Text.toNat_lt_of_isAlphanum (alphanumeric d member)
      have tail := ih later
      have starts : startsWord c next rest.head? =
          (next.isUpper && toldApart c next rest.head?) := by
        apply startsWord_eq_toldApart first (ascii next (by simp))
        intro d isHead
        exact ascii d (by simp [List.mem_of_mem_head? isHead])
      rw [neighbours_cons_cons, Bool.and_eq_true, ← tail]
      by_cases capital : next.isUpper = true
      · have same : next.toUpper = next := Text.toUpper_of_isUpper next capital
        rw [capital, Bool.true_and] at starts
        cases apart : toldApart c next rest.head? with
        | true =>
            rw [flatMap_capitalised_of_starts (ascii c (by simp)) (starts.trans apart), same]
            simp
        | false =>
            -- The capital becomes a small letter.
            obtain ⟨others, -, recased⟩ :=
              flatMap_capitalised_of_continues ascii (starts.trans apart)
            have other : next.toLower ≠ next := by
              intro kept
              have small := Text.isUpper_toLower next
              rw [kept, capital] at small
              contradiction
            rw [recased]
            simp [other]
      · rw [Bool.not_eq_true] at capital
        have apart : toldApart c next rest.head? = true := by
          rw [toldApart, capital, Bool.and_false]
          rfl
        rw [capital, Bool.false_and] at starts
        obtain ⟨others, tailRecased, recased⟩ := flatMap_capitalised_of_continues ascii starts
        have same : next.toLower = next := Text.toLower_of_not_isUpper (by simp [capital])
        rw [recased, tailRecased, apart, same]
        simp

end Camel

theorem upperCamel_eq_self_iff (member : name ∈ camel) :
    upperCamel name = name ↔ LetterCase.upperCamel.steady name = true := by
  obtain ⟨c, rest, rfl, first, others⟩ := mem_camel.mp member
  have alphanumeric := isAlphanum_of_mem_camel member
  have wordsEq : words (c :: rest) = splitChunk (c :: rest) := by
    apply words_of_alphanumeric
    intro d inName
    rw [Text.isAlphanumeric_of_ascii (Text.toNat_lt_of_isAlphanum (alphanumeric d inName))]
    exact alphanumeric d inName
  have same : c.toUpper = c := by
    apply Text.toUpper_of_not_isLower
    rw [isLower_eq_false_of_isCapitalOrDigit first]
    exact Bool.false_ne_true
  have capitals := flatMap_capitalised_eq_iff alphanumeric
  rw [same] at capitals
  rw [upperCamel, wordsEq, capitals]
  rfl

end Identifier

namespace LetterCase

variable {letters : LetterCase} {name text : Text}

/-- A name in a case stays as it is exactly if it is steady. -/
theorem recase_eq_self_iff (written : letters.Writes name) :
    letters.recase name = name ↔ letters.steady name = true := by
  rcases written with rfl | member
  · cases letters <;> exact iff_of_true rfl rfl
  · cases letters with
    | upperSnake => exact upperSnake_eq_self_iff member
    | lowerSnake => exact iff_of_true (lowerSnake_eq_self member) rfl
    | upperCamel => exact upperCamel_eq_self_iff member
    | lower =>
        refine iff_of_true (toLower_eq_self ?_) rfl
        intro c inName
        simpa using mem_star_one.mp member c inName

theorem recase_lower_mem_shape (ascii : text.IsAscii) :
    LetterCase.lower.recase text ∈ LetterCase.lower.shape := by
  apply mem_star_one.mpr
  rw [recase, ascii.toLower_eq, List.forall_mem_map]
  intro c member
  simpa [Text.isUpper_toLower] using Text.toNat_toLower_lt (ascii c member)

theorem recase_mem_shape (ascii : text.IsAscii) (some : words text ≠ []) :
    letters.recase text ∈ letters.shape := by
  have isWord : ∀ word ∈ words text, IsWord word := fun _ => isWord_of_mem_words ascii
  cases letters with
  | upperSnake =>
      exact joined_words_mem_snake some fun word inText => (isWord word inText).toUpper_mem_run
  | lowerSnake =>
      exact joined_words_mem_snake some fun word inText => (isWord word inText).toLower_mem_run
  | upperCamel =>
      exact flatMap_words_mem_camel some
        fun word inText => (isWord word inText).capitalised_mem_camel
  | lower => exact recase_lower_mem_shape ascii

theorem recase_of_words_eq_nil (other : letters ≠ .lower) (none : words text = []) :
    letters.recase text = [] := by
  cases letters with
  | upperSnake => rw [recase, Identifier.upperSnake, none]; rfl
  | lowerSnake => rw [recase, Identifier.lowerSnake, none]; rfl
  | upperCamel => rw [recase, Identifier.upperCamel, none]; rfl
  | lower => contradiction

/-- An ASCII text is recased into a name of the case, or into nothing. -/
theorem writes_recase (ascii : text.IsAscii) : letters.Writes (letters.recase text) := by
  rcases eq_or_ne letters .lower with rfl | other
  · exact Or.inr (recase_lower_mem_shape ascii)
  · rcases eq_or_ne (words text) [] with none | some
    · exact Or.inl (recase_of_words_eq_nil other none)
    · exact Or.inr (recase_mem_shape ascii some)

/-- A name in a case with words has a letter or a digit, so it does not vanish. -/
theorem exists_alphanum_of_mem_shape (other : letters ≠ .lower) (member : name ∈ letters.shape) :
    ∃ c ∈ name, c.isAlphanum = true := by
  cases letters with
  | upperSnake =>
      obtain ⟨c, inName, holds⟩ := exists_holds_of_mem_snake member
      exact ⟨c, inName, isAlphanum_of_isCapitalOrDigit holds⟩
  | lowerSnake =>
      obtain ⟨c, inName, holds⟩ := exists_holds_of_mem_snake member
      exact ⟨c, inName, isAlphanum_of_isSmallOrDigit holds⟩
  | upperCamel =>
      obtain ⟨c, rest, rfl, -⟩ := mem_camel.mp member
      exact ⟨c, List.mem_cons_self, isAlphanum_of_mem_camel member c List.mem_cons_self⟩
  | lower => contradiction

theorem isAscii_of_mem_shape (member : name ∈ letters.shape) : name.IsAscii := by
  intro c inName
  cases letters with
  | upperSnake =>
      rcases underscore_or_holds_of_mem_snake member c inName with rfl | holds
      · decide
      · exact Text.toNat_lt_of_isAlphanum (isAlphanum_of_isCapitalOrDigit holds)
  | lowerSnake =>
      rcases underscore_or_holds_of_mem_snake member c inName with rfl | holds
      · decide
      · exact Text.toNat_lt_of_isAlphanum (isAlphanum_of_isSmallOrDigit holds)
  | upperCamel => exact Text.toNat_lt_of_isAlphanum (isAlphanum_of_mem_camel member c inName)
  | lower =>
      have holds := mem_star_one.mp member c inName
      simp only [Bool.and_eq_true, decide_eq_true_eq] at holds
      exact holds.1

/-- A name in a case does not vanish. -/
theorem eq_nil_of_recase_eq_nil (written : letters.Writes name)
    (vanishes : letters.recase name = []) :
    name = [] := by
  rcases written with empty | member
  · exact empty
  · have ascii := isAscii_of_mem_shape member
    rcases eq_or_ne letters .lower with rfl | other
    · rw [recase, ascii.toLower_eq] at vanishes
      exact List.map_eq_nil_iff.mp vanishes
    · obtain ⟨c, inName, alphanumeric⟩ := exists_alphanum_of_mem_shape other member
      have some : words name ≠ [] := by
        rw [Ne, words_eq_nil_iff]
        intro none
        have separates := none c inName
        rw [Text.isAlphanumeric_of_ascii (ascii c inName), alphanumeric] at separates
        contradiction
      have again : letters.recase name ∈ letters.shape := recase_mem_shape ascii some
      rw [vanishes] at again
      obtain ⟨d, inNothing, -⟩ := exists_alphanum_of_mem_shape other again
      contradiction

end LetterCase

/-! ### Renamed names -/

theorem Fix.ofRule_rename_eq_none_iff {rule : Rule} {letters : LetterCase}
    {resolved : ResolvedRange} (renames : rule.fix = .rename letters)
    (precise : resolved.precise = true) (document : IndexedText) (captures : Captures) :
    Fix.ofRule document rule captures resolved = none ↔
      letters.recase resolved.text = resolved.text ∨ letters.recase resolved.text = [] := by
  rw [Fix.ofRule, if_pos precise, Fix.ofPrecise, renames]
  simp [Fix.replacing, or_iff_not_imp_left]

namespace LetterCase

variable {letters : LetterCase} {name text : Text}

/-- A name in a case gets no other name exactly if it is steady. -/
theorem ofRule_eq_none_iff (written : letters.Writes name) {rule : Rule}
    {resolved : ResolvedRange} (renames : rule.fix = .rename letters)
    (precise : resolved.precise = true) (textEq : resolved.text = name)
    (document : IndexedText) (captures : Captures) :
    Fix.ofRule document rule captures resolved = none ↔ letters.steady name = true := by
  rw [Fix.ofRule_rename_eq_none_iff renames precise, textEq, ← recase_eq_self_iff written]
  constructor
  · rintro (same | vanishes)
    · exact same
    · rw [vanishes, eq_nil_of_recase_eq_nil written vanishes]
  · exact Or.inl

/-- Recasing an ASCII text once more changes nothing exactly if the recased name is steady,
and so it is for any name in the case.  Steady names, and no other ones in the case, get no
fix from a rule that renames to it. -/
theorem recase_again (ascii : text.IsAscii) (letters : LetterCase) :
    (letters.recase (letters.recase text) = letters.recase text ↔
      letters.steady (letters.recase text) = true) ∧
    (text ∈ letters.shape → (letters.recase text = text ↔ letters.steady text = true)) ∧
    ∀ name, name = letters.recase text ∨ name = text ∧ text ∈ letters.shape →
      ∀ (document : IndexedText) (rule : Rule) (captures : Captures) (resolved : ResolvedRange),
        rule.fix = .rename letters → resolved.precise = true → resolved.text = name →
        (Fix.ofRule document rule captures resolved = none ↔ letters.steady name = true) := by
  have written : letters.Writes (letters.recase text) := writes_recase ascii
  refine ⟨recase_eq_self_iff written, fun member => recase_eq_self_iff (Or.inr member), ?_⟩
  rintro name (rfl | ⟨rfl, member⟩) document rule captures resolved renames precise textEq
  · exact ofRule_eq_none_iff written renames precise textEq document captures
  · exact ofRule_eq_none_iff (Or.inr member) renames precise textEq document captures

/-- Digits that end a word, and an acronym in front of a word. -/
theorem recase_again_of_acronym :
    let name : Text := "HTTP2_Server".toList
    let rule : Rule := ⟨"MESSAGE_NAMES_UPPER_CAMEL_CASE", .token .messageName,
      .rename .upperCamel, none⟩
    let resolved : ResolvedRange := ⟨.onLine 0 0 11, .token, "Http2Server".toList⟩
    name.IsAscii ∧ LetterCase.upperCamel.recase name = resolved.text ∧
      LetterCase.upperCamel.recase resolved.text = resolved.text ∧
      Fix.ofRule (.ofText resolved.text) rule ⟨none, none⟩ resolved = none := by
  intro name rule resolved
  have ascii : name.IsAscii := by decide
  have recased : LetterCase.upperCamel.recase name = resolved.text := by decide
  have steady : LetterCase.upperCamel.steady resolved.text = true := by decide
  obtain ⟨again, -, fixes⟩ := recase_again ascii .upperCamel
  rw [recased] at again
  exact ⟨ascii, recased, again.mpr steady,
    (fixes _ (Or.inl recased.symm) _ rule _ resolved rfl rfl rfl).mpr steady⟩

/-- A digit in front of a small letter, and two words of one letter. -/
theorem recase_changes_again :
    LetterCase.upperSnake.recase "x2y".toList = "X2Y".toList ∧
      LetterCase.upperSnake.recase "X2Y".toList = "X2_Y".toList ∧
      LetterCase.upperCamel.recase "a_b".toList = "AB".toList ∧
      LetterCase.upperCamel.recase "AB".toList = "Ab".toList ∧
      ¬ ∀ letters : LetterCase, letters.recase (letters.recase "x2y".toList) =
        letters.recase "x2y".toList := by
  refine ⟨by decide, by decide, by decide, by decide, ?_⟩
  intro settled
  exact absurd (settled .upperSnake) (by decide)

end LetterCase

end Pinpoint
