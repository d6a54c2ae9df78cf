import Mathlib.Data.List.Basic
import Pinpoint.Proofs.Identifier.Words

/-!
# Where an identifier is cut

The words of a text partition its letters and digits.  Every stretch of letters and digits is
cut into words by itself, right in front of the characters that start a word behind another
one, and nowhere else.
-/

namespace Pinpoint

namespace Identifier

/-- Pieces of a text are cut at the number of characters in front of some of them. -/
def CutAt (pieces : List Text) (index : Nat) : Prop :=
  ∃ left right, pieces = left ++ right ∧ left ≠ [] ∧ right ≠ [] ∧ left.flatten.length = index

/-- The character at an index is a capital, and the one before it is a small letter, or a
digit, or a capital as well if a small letter follows. -/
def CapitalStartsAt (text : Text) (index : Nat) : Prop :=
  0 < index ∧ ∃ previous current, text[index - 1]? = some previous ∧
    text[index]? = some current ∧ Text.isUpper current = true ∧
    (Text.isLower previous = true ∨ previous.isDigit = true ∨
      Text.isUpper previous = true ∧
        ∃ next, text[index + 1]? = some next ∧ Text.isLower next = true)

/-- Letters and digits between two texts, none of which goes on with letters or digits. -/
structure IsStretch (before stretch behind : Text) : Prop where
  nonempty : stretch ≠ []
  alphanumeric : ∀ c ∈ stretch, Text.isAlphanumeric c = true
  front : ∀ c ∈ before.getLast?, Text.isAlphanumeric c = false
  back : ∀ c ∈ behind.head?, Text.isAlphanumeric c = false

/-! ### Cuts of a stretch -/

section Stretches

variable {pieces others : List Text} {text : Text} {index : Nat}

theorem not_cutAt_singleton (piece : Text) (index : Nat) : ¬ CutAt [piece] index := by
  rintro ⟨left, right, equal, leftNonempty, rightNonempty, -⟩
  have lengths := congrArg List.length equal
  have leftPos := List.length_pos_iff.mpr leftNonempty
  have rightPos := List.length_pos_iff.mpr rightNonempty
  rw [List.length_singleton, List.length_append] at lengths
  omega

/-- Pieces are cut behind the first one, and where the others are. -/
theorem cutAt_cons (piece : Text) (others : List Text) (index : Nat) :
    CutAt (piece :: others) index ↔
      others ≠ [] ∧ index = piece.length ∨
        ∃ later, CutAt others later ∧ index = piece.length + later := by
  constructor
  · rintro ⟨left, right, equal, leftNonempty, rightNonempty, rfl⟩
    obtain ⟨first, left, rfl⟩ := List.exists_cons_of_ne_nil leftNonempty
    obtain ⟨rfl, rfl⟩ := List.cons.inj equal
    rw [List.flatten_cons, List.length_append]
    by_cases alone : left = []
    · subst alone
      exact Or.inl ⟨rightNonempty, rfl⟩
    · exact Or.inr ⟨_, ⟨left, right, rfl, alone, rightNonempty, rfl⟩, rfl⟩
  · rintro (⟨some, rfl⟩ | ⟨later, ⟨left, right, rfl, -, rightNonempty, rfl⟩, rfl⟩)
    · exact ⟨[piece], others, rfl, List.cons_ne_nil _ _, some, by simp⟩
    · exact ⟨piece :: left, right, rfl, List.cons_ne_nil _ _, rightNonempty, by simp⟩

/-- A character in front of the first piece moves the cuts. -/
theorem cutAt_extendFirst (c : Char) (nonempty : pieces ≠ []) (index : Nat) :
    CutAt (extendFirst c pieces) index ↔ ∃ later, CutAt pieces later ∧ index = later + 1 := by
  obtain ⟨first, others, rfl⟩ := List.exists_cons_of_ne_nil nonempty
  rw [extendFirst, cutAt_cons, List.length_cons]
  simp only [cutAt_cons]
  constructor
  · rintro (⟨some, rfl⟩ | ⟨later, cut, rfl⟩)
    · exact ⟨first.length, Or.inl ⟨some, rfl⟩, rfl⟩
    · exact ⟨first.length + later, Or.inr ⟨later, cut, rfl⟩, by omega⟩
  · rintro ⟨-, ⟨some, rfl⟩ | ⟨later, cut, rfl⟩, rfl⟩
    · exact Or.inl ⟨some, rfl⟩
    · exact Or.inr ⟨later, cut, by omega⟩

theorem startsWord_iff {previous current : Char} {next : Option Char} :
    startsWord previous current next = true ↔
      Text.isUpper current = true ∧ (Text.isLower previous = true ∨ previous.isDigit = true ∨
        Text.isUpper previous = true ∧ ∃ c, next = some c ∧ Text.isLower c = true) := by
  simp [startsWord, or_assoc, Option.any_eq_true]

/-- Behind the second character of a text the first one does not count. -/
theorem capitalStartsAt_cons_cons (c next : Char) (rest : Text) (index : Nat) :
    CapitalStartsAt (c :: next :: rest) index ↔
      index = 1 ∧ startsWord c next rest.head? = true ∨
        ∃ later, CapitalStartsAt (next :: rest) later ∧ index = later + 1 := by
  match index with
  | 0 => simp [CapitalStartsAt]
  | 1 => simp [CapitalStartsAt, startsWord_iff, List.head?_eq_getElem?]
  | index + 2 => simp [CapitalStartsAt]

theorem cutAt_splitChunk (text : Text) (index : Nat) :
    CutAt (splitChunk text) index ↔ CapitalStartsAt text index := by
  -- By induction on the text: its first character is a word, or goes to the first word of the
  -- rest, whose cuts stand one character further on.
  induction text generalizing index with
  | nil => simp [splitChunk, CutAt, CapitalStartsAt]
  | cons c rest ih =>
      cases rest with
      | nil =>
          rw [splitChunk]
          refine iff_of_false (not_cutAt_singleton _ _) ?_
          rintro ⟨positive, previous, current, -, currentAt, -⟩
          rw [List.getElem?_eq_none (by simp; omega)] at currentAt
          simp at currentAt
      | cons next rest =>
          have nonempty : splitChunk (next :: rest) ≠ [] := splitChunk_ne_nil (List.cons_ne_nil _ _)
          rw [splitChunk_cons_cons, capitalStartsAt_cons_cons]
          simp only [← ih]
          split
          · rename_i starts
            rw [cutAt_cons]
            simp [nonempty, starts, Nat.add_comm]
          · rename_i goesOn
            rw [cutAt_extendFirst c nonempty]
            simp [goesOn]

end Stretches

/-! ### Stretches of a text -/

section Texts

variable {left right : Text}

theorem words_nil : words [] = [] := rfl

theorem words_append_of_getLast? (front : ∀ c ∈ left.getLast?, Text.isAlphanumeric c = false)
    (right : Text) : words (left ++ right) = words left ++ words right := by
  rcases List.eq_nil_or_concat' left with rfl | ⟨others, c, rfl⟩
  · rfl
  · have separates := front c (by simp)
    rw [List.append_assoc, List.singleton_append, words_append_cons separates,
      words_append_cons separates, words_nil, List.append_nil]

theorem words_append_of_head? (left : Text)
    (back : ∀ c ∈ right.head?, Text.isAlphanumeric c = false) :
    words (left ++ right) = words left ++ words right := by
  cases right with
  | nil => rw [words_nil, List.append_nil, List.append_nil]
  | cons c rest =>
      have separates := back c (by simp)
      have alone : words (c :: rest) = words rest := words_append_cons separates [] rest
      rw [words_append_cons separates, alone]

theorem IsStretch.words_eq {before stretch behind : Text}
    (isStretch : IsStretch before stretch behind) :
    words (before ++ (stretch ++ behind)) =
      words before ++ (splitChunk stretch ++ words behind) := by
  rw [words_append_of_getLast? isStretch.front, words_append_of_head? stretch isStretch.back,
    words_of_alphanumeric isStretch.alphanumeric]

end Texts

/-- The words of a text partition its letters and digits.  No word is empty or holds another
character, and a stretch of letters and digits is cut exactly in front of the capitals that
start a word. -/
theorem words_partition (text : Text) :
    [] ∉ words text ∧ (words text).flatten = text.filter Text.isAlphanumeric ∧
      (∀ word ∈ words text, ∀ c ∈ word, Text.isAlphanumeric c = true) ∧
      ∀ before stretch behind, text = before ++ (stretch ++ behind) →
        IsStretch before stretch behind →
          ∃ pieces, words text = words before ++ (pieces ++ words behind) ∧
            pieces.flatten = stretch ∧
            ∀ index, CutAt pieces index ↔ CapitalStartsAt stretch index := by
  refine ⟨?_, flatten_words text, ?_, ?_⟩
  · intro member
    exact ne_nil_of_mem_words member rfl
  · intro word member c inWord
    exact (List.mem_filter.mp (mem_filter_of_mem_words member inWord)).2
  · rintro before stretch behind rfl isStretch
    exact ⟨splitChunk stretch, isStretch.words_eq, flatten_splitChunk stretch,
      cutAt_splitChunk stretch⟩

/-- Capitals behind a small letter, behind a digit and at the end of an acronym, with letters
outside ASCII. -/
theorem words_partition_of_accents :
    IsStretch "_".toList "ÉTÉRéÀ1B".toList ".x".toList ∧
      words "_ÉTÉRéÀ1B.x".toList =
        ["ÉTÉ".toList, "Ré".toList, "À1".toList, "B".toList, "x".toList] ∧
      ∃ pieces, words "_ÉTÉRéÀ1B.x".toList =
          words "_".toList ++ (pieces ++ words ".x".toList) ∧
        ∀ index, CutAt pieces index ↔ CapitalStartsAt "ÉTÉRéÀ1B".toList index := by
  have isStretch : IsStretch "_".toList "ÉTÉRéÀ1B".toList ".x".toList := by
    refine ⟨by decide, List.all_eq_true.mp (by decide +kernel), ?_, ?_⟩
    · rintro c ⟨⟩
      decide
    · rintro c ⟨⟩
      decide
  refine ⟨isStretch, by decide +kernel, ?_⟩
  obtain ⟨pieces, wordsEq, -, cuts⟩ :=
    (words_partition "_ÉTÉRéÀ1B.x".toList).2.2.2 _ _ _ (by decide) isStretch
  exact ⟨pieces, wordsEq, cuts⟩

end Identifier

end Pinpoint
