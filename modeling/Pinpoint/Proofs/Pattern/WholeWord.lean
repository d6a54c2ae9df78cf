import Pinpoint.Pattern.Literal
import Pinpoint.Pattern.Written
import Pinpoint.Proofs.Pattern.Occurrences

/-!
# Patterns for given texts

The written pattern for a text is read back as the pattern of that text, whatever
characters the text has, and is only refused if the pattern takes too much room.  All that
this pattern matches is the text itself.
-/

namespace Pinpoint

namespace Pattern

/-- The condition that a word starts or ends, for a limit of a text where one can. -/
def edge (limit : Option Char) : List Pattern :=
  if limit.any isWordLimit then [assert .wordEdge] else []

/-- The signs for a text as a whole word, one for each character and one for each limit
where a word can start or end. -/
def signs (text : Text) : List Pattern :=
  edge text.head? ++ (text.map char ++ edge text.getLast?)

/-- The pattern of a text as a whole word. -/
def exactly (text : Text) : Pattern :=
  concat (signs text)

/-- The written form of `edge`. -/
def writtenEdge (limit : Option Char) : Text :=
  if limit.any isWordLimit then ['\\', 'b'] else []

theorem wholeWord_eq (text : Text) :
    wholeWord text = writtenEdge text.head? ++ (escape text ++ writtenEdge text.getLast?) := by
  rw [wholeWord, List.append_assoc]
  rfl

/-! ### Reading the written form -/

theorem ofChar?_initial (c : Char) : ofChar? .initial c false = some (char c) := by
  have single : (CharSet.only c).single? = some c := by
    have valid : c.toNat.isValidChar := c.valid
    simp only [CharSet.only, CharSet.single?, valid, and_self, if_true, Char.ofNat_toNat]
  have set : ofSet (Flags.initial.fold (.only c)) = char c := by
    change ofSet (.only c) = char c
    rw [ofSet, single]
    rfl
  rw [ofChar?, set]
  rfl

theorem readSign?_escaped {c : Char} (member : c ∈ metaCharacters) (rest : Text) :
    readSign? .initial ('\\' :: c :: rest) = some (.atom (char c) 0, rest) := by
  simp only [metaCharacters, List.mem_cons, List.not_mem_nil, or_false] at member
  rcases member with rfl | rfl | rfl | rfl | rfl | rfl | rfl | rfl | rfl | rfl | rfl | rfl |
    rfl | rfl | rfl | rfl | rfl | rfl <;> rfl

theorem readSign?_plain {c : Char} (plain : c ∉ metaCharacters) (rest : Text) :
    readSign? .initial (c :: rest) = some (.atom (char c) 0, rest) := by
  simp only [metaCharacters, List.mem_cons, List.not_mem_nil, or_false, not_or] at plain
  rw [readSign?]
  · rw [ofChar?_initial]
    rfl
  all_goals simp_all

theorem readSign?_edge {rest : Text} (noBrace : rest.head? ≠ some '\x7b') :
    readSign? .initial ('\\' :: 'b' :: rest) = some (.atom (assert .wordEdge) 0, rest) := by
  have edge : readEdge? .initial rest = some (.edge .startOrStop, rest) := by
    cases rest with
    | nil => rfl
    | cons c rest =>
        rw [readEdge?]
        intro inner same
        simp_all
  have escape : readEscape? .initial ('b' :: rest) = readEdge? .initial rest := rfl
  simp only [readSign?, escape, edge]
  rfl

/-- An assembly that has read some patterns and nothing else, the latest first. -/
def Assembly.ofPatterns (patterns : List Pattern) : Assembly :=
  ⟨.initial, 0, [], ⟨id, .initial, [], patterns.map (⟨·, 0, true⟩)⟩, []⟩

theorem Assembly.read?_nil (count : Nat) (patterns : List Pattern) :
    (ofPatterns patterns).read? count [] = some (ofPatterns patterns) := by
  cases count <;> rfl

theorem Assembly.read?_atom {pattern : Pattern} {text rest : Text} (count : Nat)
    (patterns : List Pattern)
    (read : readSign? .initial text = some (.atom pattern 0, rest)) :
    (ofPatterns patterns).read? (count + 1) text =
      (ofPatterns (pattern :: patterns)).read? count rest := by
  cases text with
  | nil => simp [readSign?] at read
  | cons c text =>
      have skip : (ofPatterns patterns).flags.skip (c :: text) = c :: text := rfl
      have flags : (ofPatterns patterns).flags = .initial := rfl
      rw [Assembly.read?, skip]
      simp only [flags, read]
      rfl

theorem Assembly.read?_escape (text rest : Text) (count : Nat) (patterns : List Pattern) :
    (ofPatterns patterns).read? (count + text.length) (escape text ++ rest) =
      (ofPatterns ((text.map char).reverse ++ patterns)).read? count rest := by
  induction text generalizing patterns with
  | nil => rfl
  | cons c text ih =>
      have escaped : readSign? .initial (escape (c :: text) ++ rest) =
          some (.atom (char c) 0, escape text ++ rest) := by
        by_cases member : c ∈ metaCharacters
        · simpa [escape, member] using readSign?_escaped member (escape text ++ rest)
        · simpa [escape, member] using readSign?_plain member (escape text ++ rest)
      rw [List.length_cons, ← Nat.add_assoc, read?_atom _ _ escaped, ih]
      simp

theorem Assembly.read?_edge (limit : Option Char) {rest : Text}
    (noBrace : rest.head? ≠ some '\x7b') (count : Nat) (patterns : List Pattern) :
    (ofPatterns patterns).read? (count + (edge limit).length) (writtenEdge limit ++ rest) =
      (ofPatterns (edge limit ++ patterns)).read? count rest := by
  rw [edge, writtenEdge]
  split
  · exact read?_atom count patterns (readSign?_edge noBrace)
  · rfl

theorem head?_escape_ne (text : Text) {rest : Text} (noBrace : rest.head? ≠ some '\x7b') :
    (escape text ++ rest).head? ≠ some '\x7b' := by
  cases text with
  | nil => exact noBrace
  | cons c text =>
      by_cases member : c ∈ metaCharacters
      · simp [escape, member]
      · have other : c ≠ '\x7b' := by
          rintro rfl
          exact member (by decide)
        simpa [escape, member] using other

theorem length_edge_le (limit : Option Char) :
    (edge limit).length ≤ (writtenEdge limit).length := by
  rw [edge, writtenEdge]
  split <;> simp

theorem length_le_escape (text : Text) : text.length ≤ (escape text).length := by
  induction text with
  | nil => exact Nat.zero_le _
  | cons c text ih =>
      have positive : 1 ≤ (if metaCharacters.contains c then ['\\', c] else [c]).length := by
        split <;> simp
      simp only [escape, List.flatMap_cons, List.length_append, List.length_cons] at ih ⊢
      omega

theorem read?_wholeWord (text : Text) :
    Assembly.start.read? (wholeWord text).length (wholeWord text) =
      some (Assembly.ofPatterns (signs text).reverse) := by
  have firstLe := length_edge_le text.head?
  have lastLe := length_edge_le text.getLast?
  have textLe := length_le_escape text
  obtain ⟨spare, enough⟩ : ∃ spare, (wholeWord text).length =
      spare + (edge text.getLast?).length + text.length + (edge text.head?).length := by
    refine ⟨(wholeWord text).length - ((edge text.getLast?).length + text.length +
      (edge text.head?).length), ?_⟩
    simp only [wholeWord_eq, List.length_append]
    omega
  have closed : (writtenEdge text.getLast?).head? ≠ some '\x7b' := by
    rw [writtenEdge]
    split <;> simp
  have started : Assembly.start = Assembly.ofPatterns [] := rfl
  rw [enough, wholeWord_eq, started,
    Assembly.read?_edge _ (head?_escape_ne text closed), Assembly.read?_escape,
    ← List.append_nil (writtenEdge text.getLast?), Assembly.read?_edge _ (by simp)]
  have symmetric : ∀ limit, (edge limit).reverse = edge limit := by
    intro limit
    rw [edge]
    split <;> rfl
  rw [Assembly.read?_nil]
  simp [signs, symmetric]

theorem eq_of_mem_edge {limit : Option Char} {pattern : Pattern}
    (member : pattern ∈ edge limit) : pattern = assert .wordEdge := by
  rw [edge] at member
  split at member
  · exact List.mem_singleton.mp member
  · simp at member

theorem concat_singleton_of_mem {text : Text} {pattern : Pattern}
    (member : pattern ∈ signs text) : concat [pattern] = pattern := by
  simp only [signs, List.mem_append, List.mem_map] at member
  rcases member with first | ⟨c, -, rfl⟩ | last
  · rw [eq_of_mem_edge first]
    rfl
  · rfl
  · rw [eq_of_mem_edge last]
    rfl

theorem joinParts_concat {patterns : List Pattern}
    (single : ∀ pattern ∈ patterns, concat [pattern] = pattern) :
    (joinParts concat (patterns.map (⟨·, 0, true⟩))).pattern = concat patterns ∧
      (joinParts concat (patterns.map (⟨·, 0, true⟩))).height ≤ 1 := by
  cases patterns with
  | nil => exact ⟨rfl, Nat.zero_le _⟩
  | cons first others =>
      cases others with
      | nil => exact ⟨(single first List.mem_cons_self).symm, Nat.zero_le _⟩
      | cons second others =>
          have flat : ∀ rest : List Pattern,
              ((rest.map (Part.mk · 0 true)).map Part.height).foldl max 0 = 0 := by
            intro rest
            induction rest with
            | nil => rfl
            | cons pattern rest ih => exact ih
          refine ⟨?_, Nat.le_of_eq ?_⟩
          · simp [joinParts, Function.comp_def]
          · exact congrArg (· + 1) (flat (first :: second :: others))

/-- The written pattern for a text is refused only for want of room. -/
theorem parse?_wholeWord (text : Text) :
    parse? (wholeWord text) = if (exactly text).fits then some (exactly text) else none := by
  have single : ∀ pattern ∈ signs text, concat [pattern] = pattern :=
    fun pattern member => concat_singleton_of_mem member
  obtain ⟨patternEq, heightLe⟩ := joinParts_concat single
  have contentEq : (Assembly.ofPatterns (signs text).reverse).inner.content =
      joinParts concat ((signs text).map (Part.mk · 0 true)) := by
    simp only [Assembly.ofPatterns, OpenGroup.content, OpenGroup.current, List.map_reverse,
      List.reverse_reverse]
    rfl
  have closed : (Assembly.ofPatterns (signs text).reverse).outer.isEmpty = true := rfl
  have shallow : decide ((joinParts concat
      ((signs text).map (Part.mk · 0 true))).height ≤ mostNesting) = true :=
    decide_eq_true (Nat.le_trans heightLe (by decide))
  rw [parse?, read?_wholeWord]
  simp only [contentEq, patternEq, closed, shallow, Bool.true_and]
  rfl

theorem foldr_prepend_char {text : Text} (nonempty : text ≠ []) (limit : Option Char) :
    (text.map char).foldr prepend (edge limit) = literal text :: edge limit := by
  induction text with
  | nil => exact absurd rfl nonempty
  | cons c rest ih =>
      rw [List.map_cons, List.foldr_cons]
      by_cases empty : rest = []
      · subst empty
        rw [edge]
        split <;> rfl
      · rw [ih empty]
        rfl

theorem exactly_eq {text : Text} (nonempty : text ≠ []) :
    exactly text = chain (edge text.head? ++ literal text :: edge text.getLast?) := by
  have edgeParts : ∀ limit, (edge limit).flatMap parts = edge limit := by
    intro limit
    rw [edge]
    split <;> rfl
  have charParts : (text.map char).flatMap parts = text.map char := by
    rw [List.flatMap_map, List.map_eq_flatMap]
    rfl
  have last : ∀ limit, (edge limit).foldr prepend [] = edge limit := by
    intro limit
    rw [edge]
    split <;> rfl
  have first : ∀ (limit : Option Char) (rest : List Pattern),
      (edge limit).foldr prepend rest = edge limit ++ rest := by
    intro limit rest
    rw [edge]
    split <;> rfl
  rw [exactly, concat, signs, List.flatMap_append, List.flatMap_append, edgeParts, edgeParts,
    charParts, List.foldr_append, List.foldr_append, last, foldr_prepend_char nonempty, first]

/-! ### Running the pattern -/

theorem chain_cons_cons (first second : Pattern) (others : List Pattern) :
    chain (first :: second :: others) = seq first (chain (second :: others)) := rfl

/-- A pattern that takes one step, which passes a given text or none. -/
def IsShort : Pattern → Prop
  | literal _ => True
  | assert _ => True
  | _ => False

/-- The step of such a pattern, where the number of the next one is given. -/
def onlyStep (next : Nat) : Pattern → Step
  | literal text => .literal text next
  | assert condition => .assert condition next
  | _ => .goto next

theorem IsShort.steps_eq {pattern : Pattern} (short : pattern.IsShort) (start next : Nat) :
    pattern.steps start next = [onlyStep next pattern] := by
  cases pattern with
  | literal text => rfl
  | assert condition => rfl
  | _ => exact short.elim

theorem IsShort.size_eq {pattern : Pattern} (short : pattern.IsShort) : pattern.size = 1 := by
  cases pattern with
  | literal text => rfl
  | assert condition => rfl
  | _ => exact short.elim

/-- Short patterns take their steps one after the other. -/
theorem chain_of_short {patterns : List Pattern} (nonempty : patterns ≠ [])
    (short : ∀ pattern ∈ patterns, pattern.IsShort) (start : Nat) :
    (chain patterns).size = patterns.length ∧
      (chain patterns).steps start (start + patterns.length) =
        (patterns.zipIdx start).map fun (pattern, number) => onlyStep (number + 1) pattern := by
  induction patterns generalizing start with
  | nil => exact absurd rfl nonempty
  | cons first others ih =>
      have firstShort := short first List.mem_cons_self
      cases others with
      | nil => exact ⟨firstShort.size_eq, firstShort.steps_eq start (start + 1)⟩
      | cons second others =>
          have later : ∀ pattern ∈ second :: others, pattern.IsShort :=
            fun pattern member => short pattern (List.mem_cons_of_mem _ member)
          obtain ⟨sizeEq, stepsEq⟩ := ih (by simp) later (start + 1)
          have stopEq : start + (first :: second :: others).length =
              start + 1 + (second :: others).length := by
            simp only [List.length_cons]
            omega
          constructor
          · rw [chain_cons_cons, size, firstShort.size_eq, sizeEq, Nat.add_comm]
            rfl
          · rw [chain_cons_cons, steps, firstShort.size_eq, firstShort.steps_eq, stopEq, stepsEq]
            rfl

theorem step_chain {patterns : List Pattern} (nonempty : patterns ≠ [])
    (short : ∀ pattern ∈ patterns, pattern.IsShort) {number : Nat} {step : Step}
    (stepAt : (chain patterns).program[number]? = some step) :
    (∃ pattern, patterns[number]? = some pattern ∧ step = onlyStep (number + 1) pattern) ∨
      number = patterns.length ∧ step = .accept := by
  obtain ⟨sizeEq, stepsEq⟩ := chain_of_short nonempty short 0
  rw [Nat.zero_add] at stepsEq
  rw [program, sizeEq, stepsEq, List.getElem?_toArray, List.getElem?_append] at stepAt
  split at stepAt
  · rw [List.getElem?_map, Option.map_eq_some_iff] at stepAt
    obtain ⟨⟨pattern, index⟩, found, rfl⟩ := stepAt
    rw [List.getElem?_zipIdx, Option.map_eq_some_iff] at found
    obtain ⟨other, foundAt, same⟩ := found
    obtain ⟨rfl, rfl⟩ := Prod.mk.inj same
    exact Or.inl ⟨other, foundAt, by simp⟩
  · rename_i notBefore
    obtain ⟨last, rfl⟩ := List.getElem?_eq_some_iff.mp stepAt
    simp only [List.length_map, List.length_zipIdx, List.length_singleton] at notBefore last
    exact Or.inr ⟨by omega, by simp⟩

theorem isShort_of_mem_edge {limit : Option Char} {pattern : Pattern}
    (member : pattern ∈ edge limit) : pattern.IsShort := by
  rw [eq_of_mem_edge member]
  trivial

theorem onlyStep_of_mem_edge {limit : Option Char} {pattern : Pattern}
    (member : pattern ∈ edge limit) (next : Nat) :
    onlyStep next pattern = .assert .wordEdge next := by
  rw [eq_of_mem_edge member]
  rfl

/-- The text is passed at one step of its pattern, and no other step passes a character. -/
theorem step_exactly {text : Text} (nonempty : text ≠ []) {number : Nat} {step : Step}
    (stepAt : (exactly text).program[number]? = some step) :
    (number < (edge text.head?).length ∧ step = .assert .wordEdge (number + 1)) ∨
      (number = (edge text.head?).length ∧ step = .literal text (number + 1)) ∨
      ((edge text.head?).length < number ∧
        (step = .accept ∨ step = .assert .wordEdge (number + 1))) := by
  rw [exactly_eq nonempty] at stepAt
  have someStep : edge text.head? ++ literal text :: edge text.getLast? ≠ [] := by simp
  have short : ∀ pattern ∈ edge text.head? ++ literal text :: edge text.getLast?,
      pattern.IsShort := by
    intro pattern member
    rcases List.mem_append.mp member with first | behind
    · exact isShort_of_mem_edge first
    · rcases List.mem_cons.mp behind with rfl | last
      · trivial
      · exact isShort_of_mem_edge last
  rcases step_chain someStep short stepAt with ⟨pattern, patternAt, rfl⟩ | ⟨isLast, rfl⟩
  · rcases Nat.lt_trichotomy number (edge text.head?).length with before | here | behind
    · rw [List.getElem?_append_left before] at patternAt
      exact Or.inl ⟨before, onlyStep_of_mem_edge (List.mem_of_getElem? patternAt) _⟩
    · rw [List.getElem?_append_right (Nat.le_of_eq here.symm), here, Nat.sub_self] at patternAt
      obtain rfl := Option.some.inj patternAt
      exact Or.inr (Or.inl ⟨here, rfl⟩)
    · rw [List.getElem?_append_right (Nat.le_of_lt behind)] at patternAt
      obtain ⟨index, indexEq⟩ : ∃ index, number - (edge text.head?).length = index + 1 :=
        ⟨number - (edge text.head?).length - 1, by omega⟩
      rw [indexEq, List.getElem?_cons_succ] at patternAt
      exact Or.inr (Or.inr ⟨behind,
        Or.inr (onlyStep_of_mem_edge (List.mem_of_getElem? patternAt) _)⟩)
  · rw [List.length_append, List.length_cons] at isLast
    exact Or.inr (Or.inr ⟨by omega, Or.inl rfl⟩)

/-- What the threads of the pattern of a text keep: the text is still ahead, or it has been
passed. -/
def Passing (text : Text) (first : Cursor) (thread : Thread) : Prop :=
  thread.step ≤ (edge text.head?).length ∧ thread.cursor = first ∨
    (edge text.head?).length < thread.step ∧ first.rest = text ++ thread.cursor.rest

theorem passing_of_mem_threads {text : Text} (nonempty : text ≠ []) {first : Cursor}
    {thread after : Thread} {step : Step}
    (stepAt : (exactly text).program[thread.step]? = some step)
    (passing : Passing text first thread) (member : after ∈ step.threads thread) :
    Passing text first after := by
  have assertion : step = .assert .wordEdge (thread.step + 1) →
      after = thread.jumped (thread.step + 1) := by
    rintro rfl
    simp only [Step.threads] at member
    split at member
    · exact List.mem_singleton.mp member
    · simp at member
  rcases step_exactly nonempty stepAt with
    ⟨before, isEdge⟩ | ⟨here, isText⟩ | ⟨behind, accepts | isEdge⟩
  · rw [assertion isEdge]
    rcases passing with ⟨-, cursorEq⟩ | ⟨passed, -⟩
    · exact Or.inl ⟨before, cursorEq⟩
    · omega
  · subst isText
    simp only [Step.threads, Option.mem_toList, Option.map_eq_some_iff] at member
    obtain ⟨cursor, skipped, rfl⟩ := member
    rcases passing with ⟨-, cursorEq⟩ | ⟨passed, -⟩
    · rw [cursorEq] at skipped
      exact Or.inr ⟨by simp [Thread.moved, here], Cursor.eq_append_of_skip? skipped⟩
    · omega
  · subst accepts
    simp [Step.threads] at member
  · rw [assertion isEdge]
    rcases passing with ⟨ahead, -⟩ | ⟨passed, restEq⟩
    · omega
    · exact Or.inr ⟨Nat.lt_succ_of_lt passed, restEq⟩

theorem text_eq_of_search {text : Text} (nonempty : text ≠ []) {cursor first : Cursor}
    {thread : Thread} (found : (exactly text).program.search cursor = some (first, thread)) :
    first.upTo thread.cursor = text := by
  have starts : Passing text first (Thread.start first) := Or.inl ⟨Nat.zero_le _, rfl⟩
  obtain ⟨passing, accepts⟩ := Program.holds_of_search
    (fun other step stepAt passing after member =>
      passing_of_mem_threads nonempty stepAt passing member) starts found
  -- A thread can only accept behind the text.
  have passed : first.rest = text ++ thread.cursor.rest := by
    rcases passing with ⟨ahead, -⟩ | ⟨-, restEq⟩
    · rcases step_exactly nonempty accepts with ⟨-, isEdge⟩ | ⟨-, isText⟩ | ⟨behind, -⟩
      · simp at isEdge
      · simp at isText
      · omega
    · exact restEq
  rw [Cursor.upTo, passed]
  simp

/-- The pattern of the empty text passes no character. -/
theorem upTo_eq_nil_of_search {cursor first : Cursor} {thread : Thread}
    (found : (exactly []).program.search cursor = some (first, thread)) :
    first.upTo thread.cursor = [] := by
  have keeps : ∀ (other : Thread) (step : Step),
      (exactly []).program[other.step]? = some step → other.cursor = first →
        ∀ after ∈ step.threads other, after.cursor = first := by
    intro other step stepAt here after member
    have program_eq : (exactly []).program = #[.goto 1, .accept] := rfl
    rw [program_eq] at stepAt
    match number : other.step, stepAt with
    | 0, stepAt =>
        obtain rfl : Step.goto 1 = step := by simpa using stepAt
        rw [List.mem_singleton.mp member]
        exact here
    | 1, stepAt =>
        obtain rfl : Step.accept = step := by simpa using stepAt
        simp [Step.threads] at member
    | _ + 2, stepAt => simp at stepAt
  obtain ⟨stays, -⟩ := Program.holds_of_search keeps rfl found
  rw [stays, Cursor.upTo, Nat.sub_self]
  rfl

/-- All that the pattern of a text matches is the text. -/
theorem text_eq_of_mem_occurrences {text window : Text} {found : Occurrence}
    (member : found ∈ (exactly text).occurrences window) : found.text = text := by
  obtain ⟨start, first, thread, searched, textEq⟩ :=
    exists_search_of_mem_occurrencesFrom member
  rw [textEq]
  by_cases empty : text = []
  · subst empty
    exact upTo_eq_nil_of_search searched
  · exact text_eq_of_search empty searched

/-! ### Its room -/

theorem room_exactly_le (text : Text) :
    (exactly text).room false ≤ 32 * (Text.width text + 2) := by
  by_cases empty : text = []
  · subst empty
    decide
  · rw [exactly_eq empty, edge, edge]
    split <;> split <;> simp [chain, room] <;> omega

/-- A word of usual length leaves room for its pattern. -/
theorem fits_exactly {text : Text} (short : Text.width text ≤ 300000) :
    (exactly text).fits = true := by
  have roomLe := room_exactly_le text
  have most : mostRoom = 10485760 := rfl
  have outer : outerRoom = 208 := rfl
  rw [fits, decide_eq_true_eq]
  omega

end Pattern

end Pinpoint
