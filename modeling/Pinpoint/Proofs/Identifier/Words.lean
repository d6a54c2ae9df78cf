import Mathlib.Data.List.Basic
import Pinpoint.LetterCase

/-!
# Words of an identifier

The words of an identifier are made of its letters and digits, in their order, and none is
empty.  A text falls apart into words at every other character, so words joined by underscores
can be read back one by one.  A word that has been read on its own is one word exactly if no
character behind its first one starts another.
-/

namespace Pinpoint

namespace Identifier

/-! ### Words of a text without separators -/

section Chunks

variable {text : Text}

theorem splitChunk_cons_cons (c next : Char) (rest : Text) :
    splitChunk (c :: next :: rest) =
      if startsWord c next rest.head? then [c] :: splitChunk (next :: rest)
      else extendFirst c (splitChunk (next :: rest)) :=
  rfl

theorem flatten_extendFirst (c : Char) (words : List Text) :
    (extendFirst c words).flatten = c :: words.flatten := by
  cases words <;> rfl

theorem nil_notMem_extendFirst {words : List Text} (nonempty : [] ∉ words) (c : Char) :
    [] ∉ extendFirst c words := by
  cases words with
  | nil => simp [extendFirst]
  | cons first others =>
      have later : [] ∉ others := fun member => nonempty (List.mem_cons_of_mem first member)
      simpa [extendFirst] using later

/-- The first character of a text starts the first word. -/
theorem exists_splitChunk_cons (c : Char) (rest : Text) :
    ∃ word others, splitChunk (c :: rest) = (c :: word) :: others := by
  cases rest with
  | nil => exact ⟨[], [], rfl⟩
  | cons next rest =>
      rw [splitChunk_cons_cons]
      split
      · exact ⟨[], _, rfl⟩
      · cases splitChunk (next :: rest) with
        | nil => exact ⟨[], [], rfl⟩
        | cons first others => exact ⟨first, others, rfl⟩

theorem splitChunk_ne_nil (nonempty : text ≠ []) : splitChunk text ≠ [] := by
  obtain ⟨c, rest, rfl⟩ := List.exists_cons_of_ne_nil nonempty
  obtain ⟨word, others, splits⟩ := exists_splitChunk_cons c rest
  rw [splits]
  exact List.cons_ne_nil _ _

@[simp]
theorem flatten_splitChunk (text : Text) : (splitChunk text).flatten = text := by
  induction text with
  | nil => rfl
  | cons c rest ih =>
      cases rest with
      | nil => rfl
      | cons next rest =>
          rw [splitChunk_cons_cons]
          split
          · rw [List.flatten_cons, ih]
            rfl
          · rw [flatten_extendFirst, ih]

theorem nil_notMem_splitChunk (text : Text) : [] ∉ splitChunk text := by
  induction text with
  | nil => simp [splitChunk]
  | cons c rest ih =>
      cases rest with
      | nil => simp [splitChunk]
      | cons next rest =>
          rw [splitChunk_cons_cons]
          split
          · simpa using ih
          · exact nil_notMem_extendFirst ih c

/-- A text whose first word is the whole text has no other words. -/
theorem eq_nil_of_splitChunk_eq_cons {more : List Text} (splits : splitChunk text = text :: more) :
    more = [] := by
  have whole := flatten_splitChunk text
  rw [splits, List.flatten_cons, List.append_right_eq_self, List.flatten_eq_nil_iff] at whole
  rw [List.eq_nil_iff_forall_not_mem]
  intro word member
  have inWords : word ∈ splitChunk text := splits ▸ List.mem_cons_of_mem text member
  rw [whole word member] at inWords
  exact nil_notMem_splitChunk text inWords

end Chunks

/-! ### Tests of neighbouring characters -/

/-- Whether any two neighbours in a text pass a test, which also sees the character behind
them. -/
def neighbours (test : Char → Char → Option Char → Bool) : Text → Bool
  | previous :: current :: rest =>
      test previous current rest.head? && neighbours test (current :: rest)
  | _ => true

/-- Whether no word starts behind the first character of a text. -/
def unbroken (text : Text) : Bool :=
  neighbours (fun previous current next => !startsWord previous current next) text

section Neighbours

variable {test other : Char → Char → Option Char → Bool} {text : Text}

@[simp]
theorem neighbours_nil : neighbours test [] = true := rfl

@[simp]
theorem neighbours_singleton (c : Char) : neighbours test [c] = true := rfl

theorem neighbours_cons_cons (previous current : Char) (rest : Text) :
    neighbours test (previous :: current :: rest) =
      (test previous current rest.head? && neighbours test (current :: rest)) :=
  rfl

/-- Two tests that agree on the characters of a text agree on its neighbours. -/
theorem neighbours_congr {holds : Char → Prop} (all : ∀ c ∈ text, holds c)
    (agree : ∀ previous current next, holds previous → holds current →
      (∀ c ∈ next, holds c) → test previous current next = other previous current next) :
    neighbours test text = neighbours other text := by
  induction text with
  | nil => rfl
  | cons previous rest ih =>
      obtain ⟨first, others⟩ := List.forall_mem_cons.mp all
      cases rest with
      | nil => rfl
      | cons current rest =>
          obtain ⟨second, later⟩ := List.forall_mem_cons.mp others
          rw [neighbours_cons_cons, neighbours_cons_cons, ih others]
          congr 1
          apply agree previous current rest.head? first second
          intro c isHead
          exact later c (List.mem_of_mem_head? isHead)

theorem neighbours_of_forall {holds : Char → Prop} (all : ∀ c ∈ text, holds c)
    (passes : ∀ previous current next, holds previous → holds current →
      test previous current next = true) : neighbours test text = true := by
  have always : neighbours (fun _ _ _ => true) text = true := by
    induction text with
    | nil => rfl
    | cons c rest ih =>
        cases rest with
        | nil => rfl
        | cons next rest => exact ih (List.forall_mem_cons.mp all).2
  rw [← always]
  apply neighbours_congr all
  intro previous current next holdsPrevious holdsCurrent _
  exact passes previous current next holdsPrevious holdsCurrent

/-- A separator that takes no part in the test cuts it in two. -/
theorem neighbours_append_cons {separator : Char} (left : Text)
    (front : ∀ c next, test c separator next = true)
    (behind : ∀ c next, test separator c next = true)
    (last : ∀ previous current, test previous current (some separator) =
      test previous current none) (right : Text) :
    neighbours test (left ++ separator :: right) =
      (neighbours test left && neighbours test right) := by
  have tail : neighbours test (separator :: right) = neighbours test right := by
    cases right with
    | nil => rfl
    | cons c rest => rw [neighbours_cons_cons, behind, Bool.true_and]
  induction left with
  | nil => exact tail
  | cons previous left ih =>
      cases left with
      | nil =>
          rw [List.singleton_append, neighbours_cons_cons, front, Bool.true_and, tail]
          rfl
      | cons current left =>
          rw [List.cons_append] at ih
          rw [List.cons_append, List.cons_append, neighbours_cons_cons, ih,
            neighbours_cons_cons, Bool.and_assoc]
          cases left with
          | nil => rw [List.nil_append, List.head?_cons, last, List.head?_nil]
          | cons next left => rfl

theorem splitChunk_eq_singleton_iff (nonempty : text ≠ []) :
    splitChunk text = [text] ↔ unbroken text = true := by
  induction text with
  | nil => contradiction
  | cons c rest ih =>
      cases rest with
      | nil => exact iff_of_true rfl rfl
      | cons next rest =>
          rw [splitChunk_cons_cons, unbroken, neighbours_cons_cons]
          cases starts : startsWord c next rest.head? with
          | true => simp
          | false =>
              obtain ⟨word, others, splits⟩ := exists_splitChunk_cons next rest
              rw [if_neg (by simp), Bool.not_false, Bool.true_and,
                ← unbroken, ← ih (List.cons_ne_nil _ _), splits]
              simp [extendFirst]

theorem flatMap_splitChunk_eq_self_iff {parts : List Text} (nonempty : [] ∉ parts) :
    parts.flatMap splitChunk = parts ↔ ∀ part ∈ parts, unbroken part = true := by
  induction parts with
  | nil => simp
  | cons part others ih =>
      obtain ⟨first, later⟩ := not_or.mp (mt List.mem_cons.mpr nonempty)
      have partNonempty : part ≠ [] := fun empty => first empty.symm
      rw [List.flatMap_cons, List.forall_mem_cons, ← ih later,
        ← splitChunk_eq_singleton_iff partNonempty]
      constructor
      · intro same
        obtain ⟨c, rest, rfl⟩ := List.exists_cons_of_ne_nil partNonempty
        obtain ⟨word, more, splits⟩ := exists_splitChunk_cons c rest
        rw [splits, List.cons_append, List.cons.injEq] at same
        obtain ⟨wordEq, sameLater⟩ := same
        rw [wordEq] at splits
        obtain rfl := eq_nil_of_splitChunk_eq_cons splits
        exact ⟨splits, sameLater⟩
      · rintro ⟨firstEq, laterEq⟩
        rw [firstEq, laterEq, List.singleton_append]

/-- A text without capitals is one word. -/
theorem unbroken_of_forall (small : ∀ c ∈ text, Text.isUpper c = false) :
    unbroken text = true := by
  apply neighbours_of_forall small
  intro previous current next _ currentSmall
  rw [startsWord, currentSmall]
  rfl

end Neighbours

/-! ### Words between separators -/

theorem chunks_eq_splitOnP (text : Text) :
    chunks text = text.splitOnP fun c => !Text.isAlphanumeric c := by
  induction text with
  | nil => rfl
  | cons c rest ih =>
      rw [List.splitOnP_cons_eq_if_modifyHead, ← ih, chunks]
      cases Text.isAlphanumeric c with
      | false => rfl
      | true =>
          have pieces : chunks rest ≠ [] := by
            rw [ih]
            exact List.splitOnP_ne_nil _ _
          cases chunked : chunks rest with
          | nil => contradiction
          | cons first others => rfl

/-- A character that is neither letter nor digit separates words. -/
theorem words_append_cons {c : Char} (separates : Text.isAlphanumeric c = false)
    (left right : Text) : words (left ++ c :: right) = words left ++ words right := by
  rw [words, chunks_eq_splitOnP, List.splitOnP_append_cons _ _ (by simp [separates]),
    List.flatMap_append, ← chunks_eq_splitOnP, ← chunks_eq_splitOnP, words, words]

theorem words_of_alphanumeric {text : Text}
    (alphanumeric : ∀ c ∈ text, Text.isAlphanumeric c = true) :
    words text = splitChunk text := by
  have whole : chunks text = [text] := by
    rw [chunks_eq_splitOnP]
    apply List.splitOnP_eq_singleton
    intro c member
    rw [alphanumeric c member]
    rfl
  rw [words, whole, List.flatMap_singleton]

/-- The words of a text are its letters and digits, in their order. -/
@[simp]
theorem flatten_words (text : Text) :
    (words text).flatten = text.filter Text.isAlphanumeric := by
  have flattened : (words text).flatten = (chunks text).flatten := by
    rw [words]
    induction chunks text with
    | nil => rfl
    | cons chunk others ih =>
        rw [List.flatMap_cons, List.flatten_append, flatten_splitChunk, ih, List.flatten_cons]
  rw [flattened]
  clear flattened
  induction text with
  | nil => rfl
  | cons c rest ih =>
      rw [chunks]
      cases alphanumeric : Text.isAlphanumeric c with
      | true =>
          rw [if_pos rfl, flatten_extendFirst, ih, List.filter_cons_of_pos alphanumeric]
      | false =>
          rw [if_neg (by simp), List.flatten_cons, List.nil_append, ih,
            List.filter_cons_of_neg (by simp [alphanumeric])]

section Members

variable {text word : Text}

theorem ne_nil_of_mem_words (member : word ∈ words text) : word ≠ [] := by
  obtain ⟨chunk, -, inChunk⟩ := List.mem_flatMap.mp member
  rintro rfl
  exact nil_notMem_splitChunk chunk inChunk

theorem mem_filter_of_mem_words (member : word ∈ words text) {c : Char} (inWord : c ∈ word) :
    c ∈ text.filter Text.isAlphanumeric := by
  rw [← flatten_words]
  exact List.mem_flatten_of_mem member inWord

theorem words_eq_nil_iff : words text = [] ↔ ∀ c ∈ text, Text.isAlphanumeric c = false := by
  constructor
  · intro none
    have empty : text.filter Text.isAlphanumeric = [] := by rw [← flatten_words, none]; rfl
    simpa using empty
  · intro none
    rw [List.eq_nil_iff_forall_not_mem]
    intro word member
    obtain ⟨c, inWord⟩ := List.exists_mem_of_ne_nil word (ne_nil_of_mem_words member)
    obtain ⟨inText, alphanumeric⟩ := List.mem_filter.mp (mem_filter_of_mem_words member inWord)
    simp [none c inText] at alphanumeric

end Members

/-! ### Joined words -/

@[simp]
theorem joined_nil : joined [] = [] := rfl

@[simp]
theorem joined_singleton (word : Text) : joined [word] = word :=
  List.intercalate_singleton

theorem joined_cons_cons (word next : Text) (others : List Text) :
    joined (word :: next :: others) = word ++ '_' :: joined (next :: others) := by
  simp [joined, List.intercalate_cons_cons]

theorem joined_cons (word : Text) (others : List Text) :
    joined (word :: others) = word ++ others.flatMap ('_' :: ·) := by
  induction others generalizing word with
  | nil => simp
  | cons next others ih => rw [joined_cons_cons, ih next, List.flatMap_cons, List.cons_append]

/-- Words that are joined are taken apart again one by one. -/
theorem words_joined {parts : List Text}
    (alphanumeric : ∀ part ∈ parts, ∀ c ∈ part, Text.isAlphanumeric c = true) :
    words (joined parts) = parts.flatMap splitChunk := by
  induction parts with
  | nil => rfl
  | cons part others ih =>
      obtain ⟨first, later⟩ := List.forall_mem_cons.mp alphanumeric
      cases others with
      | nil => rw [joined_singleton, words_of_alphanumeric first, List.flatMap_singleton]
      | cons next others =>
          rw [joined_cons_cons, words_append_cons (by decide), words_of_alphanumeric first,
            ih later]
          exact List.flatMap_cons.symm

theorem mem_joined {parts : List Text} {c : Char} (member : c ∈ joined parts) :
    c = '_' ∨ ∃ part ∈ parts, c ∈ part := by
  cases parts with
  | nil => simp at member
  | cons part others =>
      rw [joined_cons, List.mem_append, List.mem_flatMap] at member
      rcases member with inFirst | ⟨other, inOthers, inOther⟩
      · exact Or.inr ⟨part, List.mem_cons_self, inFirst⟩
      · rcases List.mem_cons.mp inOther with isUnderscore | inOther
        · exact Or.inl isUnderscore
        · exact Or.inr ⟨other, List.mem_cons_of_mem part inOthers, inOther⟩

/-- No word starts at an underscore or right behind one. -/
theorem unbroken_joined (parts : List Text) :
    unbroken (joined parts) = true ↔ ∀ part ∈ parts, unbroken part = true := by
  induction parts with
  | nil => simp [unbroken]
  | cons part others ih =>
      cases others with
      | nil => simp
      | cons next others =>
          have cut : unbroken (part ++ '_' :: joined (next :: others)) =
              (unbroken part && unbroken (joined (next :: others))) := by
            apply neighbours_append_cons
            · intro c following
              have notCapital : Text.isUpper '_' = false := by decide
              rw [startsWord, notCapital]
              rfl
            · intro c following
              have notCased : Text.isLower '_' = false ∧ ('_').isDigit = false ∧
                  Text.isUpper '_' = false := by decide
              rw [startsWord, notCased.1, notCased.2.1, notCased.2.2, Bool.false_and,
                Bool.or_self, Bool.or_self, Bool.and_false]
              rfl
            · intro previous current
              have notSmall : Text.isLower '_' = false := by decide
              rw [startsWord, startsWord, Option.any_some, notSmall, Option.any_none]
          rw [joined_cons_cons, cut, Bool.and_eq_true, ih, List.forall_mem_cons (a := part)]

/-- Parts without underscores can be told apart when they are joined. -/
theorem joined_injective {parts parts' : List Text} (nonempty : parts ≠ [])
    (nonempty' : parts' ≠ []) (plain : ∀ part ∈ parts, '_' ∉ part)
    (plain' : ∀ part ∈ parts', '_' ∉ part) (same : joined parts = joined parts') :
    parts = parts' := by
  rw [← List.splitOn_intercalate '_' plain nonempty, ← joined, same, joined,
    List.splitOn_intercalate '_' plain' nonempty']

theorem filter_joined {parts : List Text} (plain : ∀ part ∈ parts, '_' ∉ part) :
    (joined parts).filter (· ≠ '_') = parts.flatten := by
  induction parts with
  | nil => rfl
  | cons part others ih =>
      obtain ⟨first, later⟩ := List.forall_mem_cons.mp plain
      have kept : part.filter (· ≠ '_') = part := by
        rw [List.filter_eq_self]
        intro c member
        simpa using ne_of_mem_of_not_mem member first
      cases others with
      | nil => rw [joined_singleton, kept, List.flatten_singleton]
      | cons next others =>
          rw [joined_cons_cons, List.filter_append, kept, List.filter_cons_of_neg (by simp),
            ih later]
          exact List.flatten_cons.symm

end Identifier

end Pinpoint
