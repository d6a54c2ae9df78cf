import Pinpoint.Proofs.Pattern.Preferred
import Pinpoint.Proofs.Pattern.WholeWord
import Pinpoint.Proofs.Text.Ascii

/-!
# Whole occurrences of a text

The pattern of a text finds the places where the text stands and its limits are what the
pattern asks for, from left to right and without overlap.  Where the text starts or ends with
an ASCII character, this asks that no word goes on there.
-/

namespace Pinpoint

/-! ### Places taken one after the other -/

namespace Cursor

variable {cursor : Cursor} {places skipped : List Cursor} {passed rest : Text} {width bound : Nat}

/-- Of places in order, those that are taken one after the other for pieces of a given width:
each is the first that lies neither before `bound` nor within the piece taken last. -/
def taken (width : Nat) : (bound : Nat) → List Cursor → List Cursor
  | _, [] => []
  | bound, place :: rest =>
      if place.column < bound then taken width bound rest
      else place :: taken width (place.column + width) rest

theorem taken_of_le (width : Nat) (behind : ∀ place ∈ places, bound ≤ place.column) :
    taken width bound places = taken width 0 places := by
  cases places with
  | nil => rfl
  | cons place rest =>
      have first := behind place List.mem_cons_self
      rw [taken, taken, if_neg (Nat.not_lt.mpr first), if_neg (Nat.not_lt_zero _)]

theorem taken_append (before : ∀ place ∈ skipped, place.column < bound) :
    taken width bound (skipped ++ places) = taken width bound places := by
  induction skipped with
  | nil => rfl
  | cons place rest ih =>
      obtain ⟨first, later⟩ := List.forall_mem_cons.mp before
      rw [List.cons_append, taken, if_pos first, ih later]

theorem head?_taken (width : Nat) (places : List Cursor) :
    (taken width 0 places).head? = places.head? := by
  cases places with
  | nil => rfl
  | cons place rest => rw [taken, if_neg (Nat.not_lt_zero _)]; rfl

theorem column_le_of_mem_onward {place : Cursor} (member : place ∈ cursor.onward) :
    cursor.column ≤ place.column :=
  (reaches_of_mem_onward member).column_le

theorem find?_onward {stands : Cursor → Bool} {c : Char} (follows : cursor.rest = c :: rest) :
    cursor.onward.find? stands =
      if stands cursor then some cursor else (cursor.next c rest).onward.find? stands := by
  rw [onward_of_cons follows, List.find?_cons]
  cases stands cursor <;> rfl

/-- The places from a cursor on are those within a text that it passes and those behind it. -/
theorem onward_eq_append (follows : cursor.rest = passed ++ rest) :
    ∃ within, cursor.onward = within ++ (cursor.past passed rest).onward ∧
      ∀ place ∈ within, place.column < (cursor.past passed rest).column := by
  induction passed generalizing cursor with
  | nil =>
      have stays : cursor.past [] rest = cursor := past_nil follows
      exact ⟨[], by rw [stays]; rfl, by simp⟩
  | cons c passed ih =>
      have later : (cursor.next c (passed ++ rest)).rest = passed ++ rest := rfl
      obtain ⟨within, onwardEq, before⟩ := ih later
      rw [past_next] at onwardEq before
      refine ⟨cursor :: within, ?_, List.forall_mem_cons.mpr ⟨?_, before⟩⟩
      · rw [onward_of_cons follows]
        exact congrArg (cursor :: ·) onwardEq
      · exact Nat.lt_add_of_pos_right (Text.width_pos (List.cons_ne_nil _ _))

/-- Behind a place that is taken, the search goes on behind the piece taken there. -/
theorem taken_onward {stands : Cursor → Bool} (nonempty : passed ≠ [])
    (follows : cursor.rest = passed ++ rest) (here : stands cursor = true) :
    taken (Text.width passed) 0 (cursor.onward.filter stands) =
      cursor :: taken (Text.width passed) 0 ((cursor.past passed rest).onward.filter stands) := by
  obtain ⟨c, others, rfl⟩ := List.exists_cons_of_ne_nil nonempty
  have later : (cursor.next c (others ++ rest)).rest = others ++ rest := rfl
  obtain ⟨within, onwardEq, before⟩ := onward_eq_append later
  rw [past_next] at onwardEq before
  have skips : ∀ place ∈ within.filter stands,
      place.column < (cursor.past (c :: others) rest).column :=
    fun place member => before place (List.mem_filter.mp member).1
  have behind : ∀ place ∈ (cursor.past (c :: others) rest).onward.filter stands,
      (cursor.past (c :: others) rest).column ≤ place.column :=
    fun place member => column_le_of_mem_onward (List.mem_filter.mp member).1
  rw [onward_of_cons follows, List.filter_cons_of_pos here, taken,
    if_neg (Nat.not_lt_zero _), ← taken_of_le (Text.width (c :: others)) behind,
    ← taken_append skips, ← List.filter_append, ← onwardEq]
  rfl

end Cursor

namespace Pattern

variable {text : Text}

/-! ### Where the pattern of a text matches -/

/-- Whether a place is what the pattern of a text asks for at one of its limits. -/
def allows (limit : Option Char) (cursor : Cursor) : Bool :=
  !limit.any isWordLimit || Assertion.wordEdge.holds cursor

/-- Whether a text stands at a place and its limits are what its pattern asks for. -/
def standsAt (text : Text) (cursor : Cursor) : Bool :=
  allows text.head? cursor && (cursor.skip? text).any (allows text.getLast?)

theorem endsInTurn_edge (limit : Option Char) (trail : Trail) :
    endsInTurn (edge limit) trail = if allows limit trail.cursor then [trail] else [] := by
  rw [edge, allows]
  cases limit.any isWordLimit with
  | true => simp [endsInTurn, ends]
  | false => rfl

/-- The pattern of a text matches once where the text stands, and nowhere else. -/
theorem ends_exactly (nonempty : text ≠ []) (trail : Trail) :
    (exactly text).ends trail =
      if standsAt text trail.cursor then ((trail.cursor.skip? text).map trail.moved).toList
      else [] := by
  rw [exactly_eq nonempty, ends_chain, endsInTurn_append, endsInTurn_edge, standsAt]
  cases allows text.head? trail.cursor with
  | false => rfl
  | true =>
      simp only [if_true, List.flatMap_singleton, endsInTurn, ends, Bool.true_and]
      cases trail.cursor.skip? text with
      | none => rfl
      | some last => simp [endsInTurn_edge, Trail.moved]

theorem exactly_proper (nonempty : text ≠ []) : (exactly text).isProper = true := by
  rw [exactly_eq nonempty, edge, edge]
  split <;> split <;> rfl

theorem exists_append_of_standsAt {cursor : Cursor} (stands : standsAt text cursor = true) :
    ∃ rest, cursor.rest = text ++ rest := by
  cases skipped : cursor.skip? text with
  | none => simp [standsAt, skipped] at stands
  | some last => exact ⟨last.rest, Cursor.eq_append_of_skip? skipped⟩

/-- The pattern of a text finds the places where the text stands, one after the other. -/
theorem found_exactly (nonempty : text ≠ []) (cursor : Cursor) :
    (exactly text).found cursor =
      (Cursor.taken (Text.width text) 0 (cursor.onward.filter (standsAt text))).map
        fun place => ⟨place.column, text, []⟩ := by
  have proper := exactly_proper nonempty
  induction lengthEq : cursor.rest.length using Nat.strong_induction_on generalizing cursor with
  | _ length ih =>
      have endsEq := ends_exactly nonempty (.start cursor)
      cases stands : standsAt text cursor with
      | false =>
          have none : (exactly text).ends (.start cursor) = [] := by
            rw [endsEq]
            exact if_neg (Bool.eq_false_iff.mp stands)
          rw [found_of_nil proper none, foundBehind]
          cases follows : cursor.rest with
          | nil => simp [Cursor.onward_of_nil follows, stands, Cursor.taken]
          | cons c rest =>
              have shorter : rest.length < length := by simp [← lengthEq, follows]
              rw [Cursor.onward_of_cons follows, List.filter_cons_of_neg (by simp [stands])]
              exact ih _ shorter _ rfl
      | true =>
          obtain ⟨rest, follows⟩ := exists_append_of_standsAt stands
          have first : ((exactly text).ends (.start cursor)).head? =
              some ((Trail.start cursor).past text rest) := by
            have skipped : (Trail.start cursor).cursor.skip? text = some (cursor.past text rest) :=
              Cursor.skip?_of_follows follows
            rw [endsEq, skipped]
            exact congrArg List.head? (if_pos stands)
          have passes : cursor.column < ((Trail.start cursor).past text rest).cursor.column :=
            Nat.lt_add_of_pos_right (Text.width_pos nonempty)
          have passed : cursor.upTo (cursor.past text rest) = text := Cursor.upTo_past follows
          have shorter : rest.length < length := by
            rw [← lengthEq, follows, List.length_append]
            exact Nat.lt_add_of_pos_left (List.length_pos_iff.mpr nonempty)
          have later := ih rest.length shorter (cursor.past text rest) rfl
          -- What is found next is found behind the text, and what is taken next lies there too.
          rw [found_of_passes proper first passes, Cursor.taken_onward nonempty follows stands,
            List.map_cons]
          exact congrArg₂ (⟨cursor.column, ·, []⟩ :: ·) passed later

theorem firstOccurrence?_exactly (nonempty : text ≠ []) (window : Text) :
    (exactly text).firstOccurrence? window =
      ((Cursor.start window).onward.find? (standsAt text)).map
        fun place => ⟨place.column, text, []⟩ := by
  rw [firstOccurrence?, occurrences_eq_found, found_exactly nonempty, List.head?_map,
    Cursor.head?_taken, List.head?_filter]

/-! ### Whether there is room for the pattern -/

/-- The first and the last character of a text. -/
def limits (text : Text) : Text :=
  text.head?.toList ++ text.getLast?.toList

/-- The number of limits of a text where a word can start or end. -/
def wordLimits (text : Text) : Nat :=
  (limits text).countP isWordLimit

theorem exists_limits (nonempty : text ≠ []) :
    ∃ first last, text.head? = some first ∧ text.getLast? = some last :=
  ⟨text.head nonempty, text.getLast nonempty, List.head?_eq_some_head nonempty,
    List.getLast?_eq_some_getLast nonempty⟩

theorem room_exactly (nonempty : text ≠ []) :
    (exactly text).room false = 32 * (Text.width text + wordLimits text) := by
  obtain ⟨first, last, firstEq, lastEq⟩ := exists_limits nonempty
  rw [exactly_eq nonempty, wordLimits, limits, firstEq, lastEq]
  cases firstIs : isWordLimit first <;> cases lastIs : isWordLimit last <;>
    simp [edge, chain, room, firstIs, lastIs] <;> omega

/-- The written pattern of a text is refused if the text is too long, and only then: every byte
and every limit where a word can start or end takes 32 bytes of the room. -/
theorem parse?_wholeWord_isSome (nonempty : text ≠ []) :
    (parse? (wholeWord text)).isSome = true ↔ Text.width text + wordLimits text ≤ 327673 := by
  have fits : (exactly text).fits = true ↔ Text.width text + wordLimits text ≤ 327673 := by
    have most : mostRoom = 10485760 := rfl
    have outer : outerRoom = 208 := rfl
    rw [Pattern.fits, room_exactly nonempty, decide_eq_true_eq]
    omega
  rw [parse?_wholeWord, ← fits]
  cases (exactly text).fits <;> simp

theorem eq_exactly_of_parse? {pattern : Pattern} (parsed : parse? (wholeWord text) = some pattern) :
    pattern = exactly text := by
  rw [parse?_wholeWord] at parsed
  split at parsed
  · exact (Option.some.inj parsed).symm
  · simp at parsed

/-! ### Whole words -/

/-- Whether a text stands at a place as a whole word: where it starts or ends with a character
of a word, there is no such character on the other side. -/
def isWholeAt (text : Text) (cursor : Cursor) : Bool :=
  text.isPrefixOf cursor.rest &&
    !(text.head?.any CharSet.word.has && cursor.before.any CharSet.word.has) &&
    !(text.getLast?.any CharSet.word.has &&
      (cursor.rest.drop text.length).head?.any CharSet.word.has)

theorem isWordLimit_of_ascii {c : Char} (ascii : c.toNat < 128) :
    isWordLimit c = CharSet.word.has c := by
  have all : ∀ code < 128, isWordLimit (Char.ofNat code) = CharSet.word.has (Char.ofNat code) := by
    decide
  rw [← Char.ofNat_toNat c]
  exact all c.toNat ascii

theorem allows_first {c : Char} {cursor : Cursor} {rest : Text}
    (follows : cursor.rest = c :: rest) : allows (some c) cursor =
      (!isWordLimit c || (cursor.before.any CharSet.word.has != CharSet.word.has c)) := by
  simp [allows, Assertion.wordEdge, Assertion.holds, Assertion.atEdge, WordEdge.holds, follows]

theorem allows_last {c : Char} {cursor : Cursor} (behind : cursor.before = some c) :
    allows (some c) cursor =
      (!isWordLimit c || (CharSet.word.has c != cursor.rest.head?.any CharSet.word.has)) := by
  simp [allows, Assertion.wordEdge, Assertion.holds, Assertion.atEdge, WordEdge.holds, behind]

/-- What the pattern of a text asks for, at a place where the text follows. -/
theorem standsAt_of_follows {first last : Char} {cursor : Cursor} {rest : Text}
    (firstEq : text.head? = some first) (lastEq : text.getLast? = some last)
    (follows : cursor.rest = text ++ rest) :
    standsAt text cursor =
      ((!isWordLimit first || (cursor.before.any CharSet.word.has != CharSet.word.has first)) &&
        (!isWordLimit last || (CharSet.word.has last != rest.head?.any CharSet.word.has))) := by
  have starts : cursor.rest = first :: (text.tail ++ rest) := by
    rw [follows, ← List.cons_append, List.cons_head?_tail firstEq]
  have passed : (cursor.past text rest).before = some last := by
    simp [Cursor.past, lastEq]
  rw [standsAt, Cursor.skip?_of_follows follows, firstEq, lastEq, Option.any_some,
    allows_first starts, allows_last passed]
  rfl

theorem standsAt_of_absent {cursor : Cursor} (absent : ¬ text <+: cursor.rest) :
    standsAt text cursor = false := by
  rw [standsAt, Cursor.skip?_eq_none absent]
  exact Bool.and_false _

/-- Between ASCII limits, the pattern of a text asks for whole words. -/
theorem standsAt_eq_isWholeAt (nonempty : text ≠ []) (ascii : ∀ c ∈ limits text, c.toNat < 128)
    (cursor : Cursor) : standsAt text cursor = isWholeAt text cursor := by
  by_cases present : text <+: cursor.rest
  · obtain ⟨rest, follows⟩ := present
    obtain ⟨first, last, firstEq, lastEq⟩ := exists_limits nonempty
    have firstWord : isWordLimit first = CharSet.word.has first :=
      isWordLimit_of_ascii (ascii first (by simp [limits, firstEq]))
    have lastWord : isWordLimit last = CharSet.word.has last :=
      isWordLimit_of_ascii (ascii last (by simp [limits, lastEq]))
    have starts : text.isPrefixOf cursor.rest = true :=
      List.isPrefixOf_iff_prefix.mpr ⟨rest, follows⟩
    rw [standsAt_of_follows firstEq lastEq follows.symm, isWholeAt, starts, ← follows,
      List.drop_left, firstEq, lastEq, firstWord, lastWord]
    simp only [Option.any_some, Bool.true_and]
    cases CharSet.word.has first <;> cases CharSet.word.has last <;>
      cases cursor.before.any CharSet.word.has <;> simp
  · have never : text.isPrefixOf cursor.rest = false := by
      rw [Bool.eq_false_iff, ne_eq, List.isPrefixOf_iff_prefix]
      exact present
    rw [standsAt_of_absent present, isWholeAt, never]
    rfl

/-- The pattern of a text is compiled if the text is not too long.  It then finds the whole
occurrences of the text, taken from left to right without overlap, and nothing else. -/
theorem occurrences_wholeWord (nonempty : text ≠ []) (ascii : ∀ c ∈ limits text, c.toNat < 128) :
    ((parse? (wholeWord text)).isSome = true ↔ Text.width text + wordLimits text ≤ 327673) ∧
      ∀ pattern, parse? (wholeWord text) = some pattern → ∀ window,
        pattern.occurrences window =
          (Cursor.taken (Text.width text) 0
            ((Cursor.start window).onward.filter (isWholeAt text))).map
              fun place => ⟨place.column, text, []⟩ := by
  refine ⟨parse?_wholeWord_isSome nonempty, fun pattern parsed window => ?_⟩
  have same : standsAt text = isWholeAt text := funext (standsAt_eq_isWholeAt nonempty ascii)
  rw [eq_exactly_of_parse? parsed, occurrences_eq_found, found_exactly nonempty, same]

/-- A text with a dot, which stands within other words as well. -/
theorem occurrences_wholeWord_dotted :
    (parse? (wholeWord "a.b".toList)).map (·.occurrences "a.b xa.b a+b a.b_ a.b.b".toList) =
      some [⟨0, "a.b".toList, []⟩, ⟨18, "a.b".toList, []⟩] := by
  have nonempty : "a.b".toList ≠ [] := by decide
  have ascii : ∀ c ∈ limits "a.b".toList, c.toNat < 128 := by simp [limits]
  obtain ⟨compiles, finds⟩ := occurrences_wholeWord nonempty ascii
  obtain ⟨pattern, parsed⟩ := Option.isSome_iff_exists.mp (compiles.mpr (by decide))
  rw [parsed, Option.map_some, finds pattern parsed]
  rfl

theorem mem_of_mem_limits {c : Char} (member : c ∈ limits text) : c ∈ text := by
  simp only [limits, List.mem_append, Option.mem_toList] at member
  rcases member with first | last
  · exact List.mem_of_mem_head? first
  · exact List.mem_of_getLast? last

theorem parse?_wholeWord_replicate {count : Nat} (long : 327673 < count) :
    parse? (wholeWord (List.replicate count 'a')) = none := by
  have nonempty : List.replicate count 'a' ≠ [] := by
    rw [ne_eq, List.replicate_eq_nil_iff]
    omega
  have width : Text.width (List.replicate count 'a') = count := by
    clear long nonempty
    induction count with
    | zero => rfl
    | succ count ih => rw [List.replicate_succ, Text.width_cons, ih, Nat.add_comm]; rfl
  rw [← Option.not_isSome_iff_eq_none, parse?_wholeWord_isSome nonempty, width]
  omega

/-- A text that is too long is refused, whatever its characters are. -/
theorem longWord_refused :
    List.replicate 330000 'a' ≠ [] ∧ (∀ c ∈ limits (List.replicate 330000 'a'), c.toNat < 128) ∧
      parse? (wholeWord (List.replicate 330000 'a')) = none := by
  refine ⟨?_, fun c member => ?_, parse?_wholeWord_replicate (by omega)⟩
  · rw [ne_eq, List.replicate_eq_nil_iff]
    omega
  · rw [List.eq_of_mem_replicate (mem_of_mem_limits member)]
    decide

/-! ### A text by itself -/

/-- Whether the limits of a text where a word can start or end are characters of words. -/
def limitsBelong (text : Text) : Bool :=
  (limits text).all fun c => !isWordLimit c || CharSet.word.has c

/-- Where no word goes on at the limits of a text, its pattern asks that they belong to words. -/
theorem standsAt_of_clear (nonempty : text ≠ []) {cursor : Cursor} {rest : Text}
    (follows : cursor.rest = text ++ rest) (before : cursor.before.any CharSet.word.has = false)
    (behind : rest.head?.any CharSet.word.has = false) :
    standsAt text cursor = limitsBelong text := by
  obtain ⟨first, last, firstEq, lastEq⟩ := exists_limits nonempty
  rw [standsAt_of_follows firstEq lastEq follows, before, behind, limitsBelong, limits, firstEq,
    lastEq]
  simp

theorem find?_standsAt_of_short {cursor : Cursor} (short : cursor.rest.length < text.length) :
    cursor.onward.find? (standsAt text) = none := by
  rw [List.find?_eq_none]
  intro place member stands
  obtain ⟨passed, restEq, -⟩ := Cursor.reaches_of_mem_onward member
  obtain ⟨rest, follows⟩ := exists_append_of_standsAt stands
  rw [restEq, follows, List.length_append, List.length_append] at short
  omega

/-- Alone in a text, a text is found if its limits belong to words. -/
theorem firstOccurrence?_alone (nonempty : text ≠ []) :
    (exactly text).firstOccurrence? text =
      if limitsBelong text then some ⟨0, text, []⟩ else none := by
  have follows : (Cursor.start text).rest = text ++ [] := (List.append_nil text).symm
  have stands : standsAt text (.start text) = limitsBelong text :=
    standsAt_of_clear nonempty follows rfl rfl
  rw [firstOccurrence?_exactly nonempty]
  obtain ⟨c, others, rfl⟩ := List.exists_cons_of_ne_nil nonempty
  have behind : ((Cursor.start (c :: others)).next c others).onward.find?
      (standsAt (c :: others)) = none := find?_standsAt_of_short (Nat.lt_succ_self _)
  rw [Cursor.find?_onward rfl, stands, behind]
  cases limitsBelong (c :: others) <;> rfl

/-- A text that stands again one place further on repeats one character. -/
theorem eq_of_stands_again {c : Char} {more : Text} (again : text <+: c :: (text ++ more)) :
    ∀ d ∈ text, d = c := by
  induction text generalizing c with
  | nil => simp
  | cons d text ih =>
      obtain ⟨rfl, later⟩ := List.cons_prefix_cons.mp again
      exact List.forall_mem_cons.mpr ⟨rfl, ih later⟩

theorem eq_of_stands_later {c d : Char} (again : c :: text <+: text ++ [d]) :
    ∀ e ∈ c :: text, e = d := by
  induction text generalizing c with
  | nil => simpa using again
  | cons e text ih =>
      obtain ⟨rfl, later⟩ := List.cons_prefix_cons.mp again
      have same := ih later
      exact List.forall_mem_cons.mpr ⟨same c List.mem_cons_self, same⟩

/-- Behind its first character and in front of a blank, only a text of blanks stands again. -/
theorem find?_standsAt_of_tail {c : Char} {others : Text} (mixed : ¬ ∀ d ∈ c :: others, d = ' ')
    {cursor : Cursor} (follows : cursor.rest = others ++ [' ']) :
    cursor.onward.find? (standsAt (c :: others)) = none := by
  obtain ⟨d, rest, cons⟩ : ∃ d rest, others ++ [' '] = d :: rest :=
    List.exists_cons_of_ne_nil (by simp)
  have lengthEq : others.length = rest.length := by
    simpa using congrArg List.length cons
  have notHere : standsAt (c :: others) cursor = false :=
    standsAt_of_absent fun again => mixed (eq_of_stands_later (follows ▸ again))
  rw [Cursor.find?_onward (follows.trans cons), notHere]
  exact find?_standsAt_of_short (by simp [Cursor.next, lengthEq])

theorem limitsBelong_of_blank (blank : ∀ c ∈ text, c = ' ') : limitsBelong text = true := by
  refine List.all_eq_true.mpr fun c member => ?_
  rw [blank c (mem_of_mem_limits member)]
  rfl

/-- Between blanks, a text is found if its limits belong to words.  Only a text of blanks is
found at the first of these. -/
theorem firstOccurrence?_between_blanks (nonempty : text ≠ []) :
    (exactly text).firstOccurrence? (' ' :: (text ++ [' '])) =
      if limitsBelong text then some ⟨if text.all (· == ' ') then 0 else 1, text, []⟩
      else none := by
  have inside : standsAt text ⟨1, some ' ', text ++ [' ']⟩ = limitsBelong text :=
    standsAt_of_clear nonempty rfl rfl rfl
  have inFront : (Cursor.start (' ' :: (text ++ [' ']))).next ' ' (text ++ [' ']) =
      ⟨1, some ' ', text ++ [' ']⟩ := rfl
  rw [firstOccurrence?_exactly nonempty, Cursor.find?_onward rfl, inFront]
  cases blank : text.all (· == ' ') with
  | true =>
      have allBlank : ∀ c ∈ text, c = ' ' := by simpa using blank
      have commutes : ' ' :: (text ++ [' ']) = text ++ [' ', ' '] := by
        rw [List.eq_replicate_of_mem allBlank, ← List.cons_append, ← List.replicate_succ,
          List.replicate_succ', List.append_assoc]
        rfl
      have here : standsAt text (.start (' ' :: (text ++ [' ']))) = true :=
        (standsAt_of_clear nonempty commutes rfl rfl).trans (limitsBelong_of_blank allBlank)
      rw [here, limitsBelong_of_blank allBlank]
      rfl
  | false =>
      have mixed : ¬ ∀ c ∈ text, c = ' ' := by simpa using blank
      have notHere : standsAt text (.start (' ' :: (text ++ [' ']))) = false :=
        standsAt_of_absent fun again => mixed (eq_of_stands_again again)
      obtain ⟨c, others, rfl⟩ := List.exists_cons_of_ne_nil nonempty
      rw [notHere, Cursor.find?_onward rfl, inside, find?_standsAt_of_tail mixed rfl]
      cases limitsBelong (c :: others) <;> rfl

/-- The pattern of a text is compiled if the text is not too long.  It then finds the text
itself, alone and between blanks, if both limits that count as limits of words for the pattern
belong to words for the search. -/
theorem firstOccurrence?_of_itself (nonempty : text ≠ []) :
    ((parse? (wholeWord text)).isSome = true ↔ Text.width text + wordLimits text ≤ 327673) ∧
      ∀ pattern, parse? (wholeWord text) = some pattern →
        pattern.firstOccurrence? text =
            (if limitsBelong text then some ⟨0, text, []⟩ else none) ∧
          pattern.firstOccurrence? (' ' :: (text ++ [' '])) =
            if limitsBelong text then some ⟨if text.all (· == ' ') then 0 else 1, text, []⟩
            else none := by
  refine ⟨parse?_wholeWord_isSome nonempty, fun pattern parsed => ?_⟩
  rw [eq_exactly_of_parse? parsed]
  exact ⟨firstOccurrence?_alone nonempty, firstOccurrence?_between_blanks nonempty⟩

/-- A word whose limits are outside ASCII is found, alone and between blanks. -/
theorem firstOccurrence?_of_itself_accented :
    (parse? (wholeWord "été".toList)).map
        (fun pattern => (pattern.firstOccurrence? "été".toList,
          pattern.firstOccurrence? " été ".toList)) =
      some (some ⟨0, "été".toList, []⟩, some ⟨1, "été".toList, []⟩) := by
  have nonempty : "été".toList ≠ [] := by decide
  obtain ⟨compiles, finds⟩ := firstOccurrence?_of_itself nonempty
  obtain ⟨pattern, parsed⟩ := Option.isSome_iff_exists.mp (compiles.mpr (by decide))
  obtain ⟨alone, between⟩ := finds pattern parsed
  have belongs : limitsBelong "été".toList = true := by decide
  rw [belongs] at alone between
  rw [parsed, Option.map_some, alone]
  exact congrArg (fun found => some (_, found)) between

/-- A raised digit is alphanumeric, but belongs to no word. -/
theorem raisedDigit_not_found :
    (parse? (wholeWord ['²'])).map (·.occurrences ['²']) = some [] := by
  have fits : (exactly ['²']).fits = true := fits_exactly (by decide)
  have none : (exactly ['²']).firstOccurrence? ['²'] = none :=
    (firstOccurrence?_alone (by decide)).trans (if_neg (by decide +kernel))
  rw [parse?_wholeWord, if_pos fits]
  exact congrArg some (List.head?_eq_none_iff.mp none)

end Pattern

end Pinpoint
