import Pinpoint.Proofs.Identifier.Words
import Pinpoint.Proofs.Text.Ascii

/-!
# Words in other cases

The words of an ASCII identifier stay words when their case is changed.  In small letters no
word can fall apart, so an identifier in lower snake case has the same words as before, and
nothing is lost for the other cases.
-/

namespace Pinpoint

namespace Identifier

/-- ASCII letters and digits, at least one. -/
structure IsWord (word : Text) : Prop where
  ne_nil : word ≠ []
  alphanumeric : ∀ c ∈ word, c.isAlphanum = true

namespace IsWord

variable {word : Text}

theorem ascii (isWord : IsWord word) : word.IsAscii :=
  fun c member => Text.toNat_lt_of_isAlphanum (isWord.alphanumeric c member)

theorem isAlphanumeric (isWord : IsWord word) : ∀ c ∈ word, Text.isAlphanumeric c = true := by
  intro c member
  rw [Text.isAlphanumeric_of_ascii (isWord.ascii c member)]
  exact isWord.alphanumeric c member

theorem underscore_notMem (isWord : IsWord word) : '_' ∉ word := by
  intro member
  exact absurd (isWord.alphanumeric '_' member) (by decide)

theorem map {change : Char → Char}
    (keeps : ∀ c, (change c).isAlphanum = c.isAlphanum) (isWord : IsWord word) :
    IsWord (word.map change) := by
  refine ⟨by simpa using isWord.ne_nil, List.forall_mem_map.mpr ?_⟩
  intro c member
  rw [keeps]
  exact isWord.alphanumeric c member

theorem toUpper (isWord : IsWord word) : IsWord (Text.toUpper word) := by
  rw [isWord.ascii.toUpper_eq]
  exact isWord.map Text.isAlphanum_toUpper

theorem toLower (isWord : IsWord word) : IsWord (Text.toLower word) := by
  rw [isWord.ascii.toLower_eq]
  exact isWord.map Text.isAlphanum_toLower

theorem toUpper_toLower (isWord : IsWord word) :
    Text.toUpper (Text.toLower word) = Text.toUpper word := by
  rw [isWord.toLower.ascii.toUpper_eq, isWord.ascii.toLower_eq, isWord.ascii.toUpper_eq,
    List.map_map]
  exact List.map_congr_left fun c _ => Text.toUpper_toLower c

theorem toLower_toLower (isWord : IsWord word) :
    Text.toLower (Text.toLower word) = Text.toLower word := by
  rw [isWord.toLower.ascii.toLower_eq, isWord.ascii.toLower_eq, List.map_map]
  exact List.map_congr_left fun c _ => Text.toLower_toLower c

theorem unbroken_toLower (isWord : IsWord word) : unbroken (Text.toLower word) = true := by
  apply unbroken_of_forall
  intro c member
  rw [Text.isUpper_of_ascii (isWord.toLower.ascii c member)]
  rw [isWord.ascii.toLower_eq] at member
  obtain ⟨d, -, rfl⟩ := List.mem_map.mp member
  exact Text.isUpper_toLower d

end IsWord

theorem capitalised_cons {c : Char} {rest : Text} (ascii : Text.IsAscii (c :: rest)) :
    capitalised (c :: rest) = c.toUpper :: rest.map Char.toLower := by
  obtain ⟨first, others⟩ := List.forall_mem_cons.mp ascii
  have lower : Text.toLower rest = rest.map Char.toLower := Text.IsAscii.toLower_eq others
  rw [capitalised, Text.upperOfChar_of_ascii first, lower]
  rfl

theorem IsWord.capitalised_toLower {word : Text} (isWord : IsWord word) :
    capitalised (Text.toLower word) = capitalised word := by
  have lowerAscii := isWord.toLower.ascii
  rw [isWord.ascii.toLower_eq] at lowerAscii ⊢
  cases word with
  | nil => rfl
  | cons c rest =>
      rw [List.map_cons] at lowerAscii ⊢
      rw [capitalised_cons lowerAscii, capitalised_cons isWord.ascii, Text.toUpper_toLower,
        List.map_map]
      exact congrArg (c.toUpper :: ·) (List.map_congr_left fun d _ => Text.toLower_toLower d)

/-! ### The words of an ASCII text -/

section AsciiTexts

variable {text word : Text}

theorem isWord_of_mem_words (ascii : text.IsAscii) (member : word ∈ words text) :
    IsWord word := by
  refine ⟨ne_nil_of_mem_words member, ?_⟩
  intro c inWord
  obtain ⟨inText, alphanumeric⟩ := List.mem_filter.mp (mem_filter_of_mem_words member inWord)
  rwa [Text.isAlphanumeric_of_ascii (ascii c inText)] at alphanumeric

/-- Words in small letters are read back as they are. -/
theorem words_lowerSnake (ascii : text.IsAscii) :
    words (lowerSnake text) = (words text).map Text.toLower := by
  have isWord : ∀ word ∈ words text, IsWord word := fun _ => isWord_of_mem_words ascii
  rw [lowerSnake, words_joined, flatMap_splitChunk_eq_self_iff]
  · simpa using fun word member => (isWord word member).unbroken_toLower
  · simpa using fun word member => (isWord word member).toLower.ne_nil
  · simpa using fun word member => (isWord word member).toLower.isAlphanumeric

/-- An identifier in lower snake case has the words of the identifier that it comes from, in
small letters, and comes out the same in every case. -/
theorem lowerSnake_keeps_words (ascii : text.IsAscii) :
    words (lowerSnake text) = (words text).map Text.toLower ∧
      lowerSnake (lowerSnake text) = lowerSnake text ∧
      upperSnake (lowerSnake text) = upperSnake text ∧
      upperCamel (lowerSnake text) = upperCamel text := by
  have isWord : ∀ word ∈ words text, IsWord word := fun _ => isWord_of_mem_words ascii
  have same := words_lowerSnake ascii
  refine ⟨same, ?lower, ?upper, ?camel⟩
  case lower =>
    rw [lowerSnake, same, List.map_map, lowerSnake]
    congr 1
    apply List.map_congr_left
    intro word member
    exact (isWord word member).toLower_toLower
  case upper =>
    rw [upperSnake, same, List.map_map, upperSnake]
    congr 1
    apply List.map_congr_left
    intro word member
    exact (isWord word member).toUpper_toLower
  case camel =>
    rw [upperCamel, same, List.flatMap_map, upperCamel]
    apply List.flatMap_congr
    intro word member
    exact (isWord word member).capitalised_toLower

/-- Acronyms, digits and lone letters. -/
theorem lowerSnake_keeps_words_of_acronym :
    Text.IsAscii "__HTTPServer2Go.x".toList ∧
      words (lowerSnake "__HTTPServer2Go.x".toList) =
        ["http".toList, "server2".toList, "go".toList, "x".toList] := by
  have ascii : Text.IsAscii "__HTTPServer2Go.x".toList := by decide
  have cut : words "__HTTPServer2Go.x".toList =
      ["HTTP".toList, "Server2".toList, "Go".toList, "x".toList] := by decide
  refine ⟨ascii, ?_⟩
  rw [(lowerSnake_keeps_words ascii).1, cut]
  decide

end AsciiTexts

end Identifier

end Pinpoint
