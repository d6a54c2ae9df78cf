import Pinpoint.Lookup.Vocabulary
import Pinpoint.Proofs.CharSet
import Pinpoint.Proofs.Pattern.Framed
import Pinpoint.Proofs.Pattern.WholeWord

/-!
# Occurrences on both sides of a blank

The occurrences in two texts that a blank separates are those in each of them, up to the
first one that passes the blank.  A pattern that passes no blank finds exactly those.
-/

namespace Pinpoint

/-- Lists that agree up to the first element of the second one that is spoiled. -/
inductive AgreeUntil {α : Type} (spoiled : α → Prop) : List α → List α → Prop
  | nil : AgreeUntil spoiled [] []
  | cons (x : α) {left right : List α} (later : AgreeUntil spoiled left right) :
      AgreeUntil spoiled (x :: left) (x :: right)
  | spoiled {x : α} (isSpoiled : spoiled x) (left right : List α) :
      AgreeUntil spoiled left (x :: right)

namespace AgreeUntil

variable {α β : Type} {spoiled : α → Prop} {left middle right : List α}

theorem refl (all : List α) : AgreeUntil spoiled all all := by
  induction all with
  | nil => exact .nil
  | cons x rest ih => exact .cons x ih

theorem trans (first : AgreeUntil spoiled left middle)
    (second : AgreeUntil spoiled middle right) : AgreeUntil spoiled left right := by
  induction first generalizing right with
  | nil => exact second
  | cons x later ih =>
      cases second with
      | cons _ secondLater => exact .cons x (ih secondLater)
      | spoiled isSpoiled => exact .spoiled isSpoiled _ _
  | spoiled isSpoiled left rest =>
      cases second with
      | cons _ secondLater => exact .spoiled isSpoiled _ _
      | spoiled otherSpoiled => exact .spoiled otherSpoiled _ _

theorem append {leftMore rightMore : List α} (first : AgreeUntil spoiled left right)
    (second : AgreeUntil spoiled leftMore rightMore) :
    AgreeUntil spoiled (left ++ leftMore) (right ++ rightMore) := by
  induction first with
  | nil => exact second
  | cons x later ih => exact .cons x ih
  | spoiled isSpoiled left rest => exact .spoiled isSpoiled _ _

theorem map {spoiledAfter : β → Prop} (f : α → β) (agree : AgreeUntil spoiled left right)
    (spoils : ∀ x, spoiled x → spoiledAfter (f x)) :
    AgreeUntil spoiledAfter (left.map f) (right.map f) := by
  induction agree with
  | nil => exact .nil
  | cons x later ih => exact .cons (f x) ih
  | spoiled isSpoiled left rest => exact .spoiled (spoils _ isSpoiled) _ _

theorem mono {spoiledToo : α → Prop} (agree : AgreeUntil spoiled left right)
    (spoils : ∀ x, spoiled x → spoiledToo x) : AgreeUntil spoiledToo left right := by
  have mapped := agree.map id spoils
  rwa [List.map_id, List.map_id] at mapped

theorem eq_of_forall (agree : AgreeUntil spoiled left right)
    (clear : ∀ x ∈ right, ¬ spoiled x) : left = right := by
  induction agree with
  | nil => rfl
  | cons x later ih =>
      rw [ih fun other member => clear other (List.mem_cons_of_mem _ member)]
  | spoiled isSpoiled left rest => exact absurd isSpoiled (clear _ List.mem_cons_self)

end AgreeUntil

namespace Pattern

/-- The occurrence in a longer text. -/
def Occurrence.shift (width : Nat) (found : Occurrence) : Occurrence :=
  ⟨width + found.start, found.text, found.captures⟩

/-- The occurrence holds the byte at a column, where a character stands if it is given. -/
def Occurrence.Covers (column : Nat) (here : Option Char) (found : Occurrence) : Prop :=
  found.start ≤ column ∧ column < found.stop ∧ ∀ c ∈ here, c ∈ found.text

theorem Frame.upTo_place (frame : Frame) {first last : Cursor}
    (reaches : first.Reaches last) :
    (frame.place first).upTo (frame.place last) = first.upTo last := by
  obtain ⟨passed, restEq, -⟩ := reaches
  simp [Cursor.upTo, Frame.place, restEq]

/-- The occurrences behind the first character that follows the text, where the text ends at a
column. -/
def Frame.foundBehind (frame : Frame) (pattern : Pattern) (column : Nat) : List Occurrence :=
  match frame.rest with
  | [] => []
  | c :: rest => pattern.found ⟨column + c.utf8Size, some c, rest⟩

theorem foundBehind_place_of_nil (frame : Frame) (pattern : Pattern) {cursor : Cursor}
    (ends : cursor.rest = []) :
    pattern.foundBehind (frame.place cursor) =
      frame.foundBehind pattern (frame.width + cursor.column) := by
  simp only [Pattern.foundBehind, Frame.foundBehind, Frame.place, ends, List.nil_append]
  cases frame.rest <;> rfl

theorem foundBehind_place_of_cons (frame : Frame) (pattern : Pattern) {cursor : Cursor}
    {c : Char} {rest : Text} (follows : cursor.rest = c :: rest) :
    pattern.foundBehind (frame.place cursor) =
      pattern.found (frame.place (cursor.next c rest)) := by
  rw [frame.place_next]
  simp only [Pattern.foundBehind, Frame.place, follows, List.cons_append]

/-- What leaves the text passes its end, and the character that follows. -/
theorem Frame.passes_of_beyond (frame : Frame) {cursor last : Cursor}
    (reaches : (frame.place cursor).Reaches last)
    (beyond : last.rest.length < frame.rest.length) :
    frame.width + (cursor.column + Text.width cursor.rest) < last.column ∧
      ∀ c ∈ frame.rest.head?, c ∈ (frame.place cursor).upTo last := by
  have passedEq := reaches.upTo
  obtain ⟨restEq, columnEq⟩ := passedEq
  generalize (frame.place cursor).upTo last = passed at restEq columnEq
  simp only [Frame.place] at restEq columnEq
  rcases List.append_eq_append_iff.mp restEq with ⟨more, passedEq, tailEq⟩ | ⟨more, -, lastEq⟩
  · cases more with
    | nil =>
        rw [tailEq, List.nil_append] at beyond
        exact absurd beyond (Nat.lt_irrefl _)
    | cons d more =>
        constructor
        · rw [columnEq, passedEq, Text.width_append, Text.width_cons]
          have positive := Char.utf8Size_pos d
          omega
        · intro c isNext
          rw [tailEq, List.cons_append, List.head?_cons, Option.mem_some] at isNext
          rw [passedEq, isNext]
          simp
  · rw [lastEq, List.length_append] at beyond
    omega

section

variable {pattern : Pattern} (proper : pattern.isProper = true)
  (isLocal : pattern.isLocal = true) {frame : Frame} (separates : frame.Separates)

include proper isLocal separates

/-- In a longer text the preferred end is the same, or it lies beyond the text. -/
theorem head?_ends_place (cursor : Cursor) :
    (pattern.ends (.start cursor) = [] ∧ pattern.ends (.start (frame.place cursor)) = []) ∨
    (∃ trail, (pattern.ends (.start cursor)).head? = some trail ∧
      (pattern.ends (.start (frame.place cursor))).head? = some (frame.trail trail)) ∨
    ∃ trail, (pattern.ends (.start (frame.place cursor))).head? = some trail ∧
      trail.cursor.rest.length < frame.rest.length := by
  have kept := (keeps_ends separates proper isLocal).filter_eq (.start cursor)
  have started : frame.trail (.start cursor) = .start (frame.place cursor) := rfl
  rw [started] at kept
  cases outer : pattern.ends (.start (frame.place cursor)) with
  | nil =>
      rw [outer, List.filter_nil, eq_comm, List.map_eq_nil_iff] at kept
      exact Or.inl ⟨kept, rfl⟩
  | cons trail others =>
      rw [outer] at kept
      cases stays : frame.holds trail with
      | true =>
          rw [List.filter_cons_of_pos stays, eq_comm, List.map_eq_cons_iff] at kept
          obtain ⟨inner, innerOthers, innerEq, rfl, -⟩ := kept
          exact Or.inr (Or.inl ⟨inner, by rw [innerEq]; rfl, rfl⟩)
      | false =>
          refine Or.inr (Or.inr ⟨trail, rfl, ?_⟩)
          simpa [Frame.holds] using stays

/-- Occurrences in a longer text are those in the text and behind it, up to one that holds the
byte behind the text. -/
theorem agreeUntil_found (cursor : Cursor) :
    AgreeUntil (Occurrence.Covers (frame.width + (cursor.column + Text.width cursor.rest))
        frame.rest.head?)
      ((pattern.found cursor).map (Occurrence.shift frame.width) ++
        frame.foundBehind pattern (frame.width + (cursor.column + Text.width cursor.rest)))
      (pattern.found (frame.place cursor)) := by
  induction lengthEq : cursor.rest.length using Nat.strong_induction_on generalizing cursor with
  | _ length ih =>
      -- Where no match is reported, the search goes on behind the next character.
      have goesOn : AgreeUntil
          (Occurrence.Covers (frame.width + (cursor.column + Text.width cursor.rest))
            frame.rest.head?)
          ((pattern.foundBehind cursor).map (Occurrence.shift frame.width) ++
            frame.foundBehind pattern (frame.width + (cursor.column + Text.width cursor.rest)))
          (pattern.foundBehind (frame.place cursor)) := by
        cases follows : cursor.rest with
        | nil =>
            rw [foundBehind_place_of_nil frame pattern follows, Pattern.foundBehind, follows]
            exact .refl _
        | cons c rest =>
            rw [foundBehind_place_of_cons frame pattern follows, Pattern.foundBehind, follows]
            have later := ih rest.length (by simp [← lengthEq, follows]) (cursor.next c rest) rfl
            simpa [Cursor.next, Nat.add_assoc] using later
      rcases head?_ends_place proper isLocal separates cursor with
        ⟨inner, outer⟩ | ⟨trail, inner, outer⟩ | ⟨trail, outer, beyond⟩
      · rw [found_of_nil proper inner, found_of_nil proper outer]
        exact goesOn
      · have reaches := reaches_of_head?_ends inner
        by_cases passes : cursor.column < trail.cursor.column
        · have outerPasses : (frame.place cursor).column < (frame.trail trail).cursor.column :=
            Nat.add_lt_add_left passes _
          have stopEq : trail.cursor.column + Text.width trail.cursor.rest =
              cursor.column + Text.width cursor.rest := by
            obtain ⟨passed, restEq, columnEq⟩ := reaches
            rw [restEq, Text.width_append, columnEq, Nat.add_assoc]
          have textEq : (frame.place cursor).upTo (frame.trail trail).cursor =
              cursor.upTo trail.cursor := frame.upTo_place reaches
          have later := ih _ (lengthEq ▸ reaches.rest_lt passes) trail.cursor rfl
          rw [stopEq] at later
          rw [found_of_passes proper inner passes, found_of_passes proper outer outerPasses, textEq]
          exact .cons _ later
        · have outerStays : (frame.trail trail).cursor.column ≤ (frame.place cursor).column :=
            Nat.add_le_add_left (Nat.not_lt.mp passes) _
          rw [found_of_stays proper inner (Nat.not_lt.mp passes),
            found_of_stays proper outer outerStays]
          exact goesOn
      · have reaches := reaches_of_head?_ends outer
        obtain ⟨columnGt, passesNext⟩ := frame.passes_of_beyond reaches beyond
        have passes : (frame.place cursor).column < trail.cursor.column := by
          simp only [Frame.place]
          omega
        rw [found_of_passes proper outer passes]
        refine .spoiled ⟨?_, ?_, passesNext⟩ _ _
        · simp only [Frame.place]
          omega
        · rw [Occurrence.stop, ← reaches.upTo.2]
          exact columnGt

end

theorem stop_le_of_mem_found {pattern : Pattern} {cursor : Cursor} {occurrence : Occurrence}
    (member : occurrence ∈ pattern.found cursor) :
    occurrence.stop ≤ cursor.column + Text.width cursor.rest := by
  obtain ⟨left, right, restEq, startEq, -⟩ :=
    (occurrencesFrom_lieAfter _ _ _).1 occurrence member
  rw [Occurrence.stop, startEq, restEq, Text.width_append, Text.width_append]
  omega

/-- At the end of a longer text a pattern finds what it finds in the text. -/
theorem found_place_of_last {pattern : Pattern} (proper : pattern.isProper = true)
    (isLocal : pattern.isLocal = true) {frame : Frame} (separates : frame.Separates)
    (last : frame.rest = []) (cursor : Cursor) :
    pattern.found (frame.place cursor) =
      (pattern.found cursor).map (Occurrence.shift frame.width) := by
  have agree := agreeUntil_found proper isLocal separates cursor
  have none : frame.foundBehind pattern
      (frame.width + (cursor.column + Text.width cursor.rest)) = [] := by
    rw [Frame.foundBehind, last]
  rw [none, List.append_nil] at agree
  refine (agree.eq_of_forall fun occurrence member covers => ?_).symm
  have stopLe := stop_le_of_mem_found member
  have stopGt := covers.2.1
  simp only [Frame.place, last, List.append_nil] at stopLe
  omega

/-- The occurrences in two texts that a blank separates are those in each of them, up to one
that holds the blank. -/
theorem agreeUntil_occurrences {pattern : Pattern} (proper : pattern.isProper = true)
    (isLocal : pattern.isLocal = true) (left right : Text) :
    AgreeUntil (Occurrence.Covers (Text.width left) ' ')
      (pattern.occurrences left ++
        (pattern.occurrences right).map (Occurrence.shift (Text.width left + 1)))
      (pattern.occurrences (left ++ ' ' :: right)) := by
  have blank : CharSet.word.has ' ' = false := by decide
  have inFront : Frame.Separates ⟨0, none, ' ' :: right⟩ := ⟨rfl, by simpa using blank⟩
  have behind : Frame.Separates ⟨Text.width left + 1, some ' ', []⟩ := ⟨by simpa using blank, rfl⟩
  have first := agreeUntil_found proper isLocal inFront (.start left)
  have second := found_place_of_last proper isLocal behind rfl (.start right)
  have stays : ∀ occurrence : Occurrence, occurrence.shift 0 = occurrence := by
    intro occurrence
    rw [Occurrence.shift, Nat.zero_add]
  simp only [Cursor.start, Frame.place, Frame.foundBehind, Nat.zero_add, Nat.add_zero,
    List.append_nil, funext stays, List.map_id'] at first second
  rw [occurrences_eq_found, occurrences_eq_found, occurrences_eq_found, Cursor.start, Cursor.start,
    Cursor.start, ← second]
  exact first

/-! ### Patterns that pass no blank -/

/-- No character of a match is the given one. -/
def avoids (c : Char) : Pattern → Bool
  | literal text => !text.contains c
  | one set => !set.has c
  | seq first second => first.avoids c && second.avoids c
  | alt first second => first.avoids c && second.avoids c
  | times _ _ _ body => body.avoids c
  | group _ _ body => body.avoids c
  | _ => true

/-- The way from one trail to another passes characters, none of which is the given one. -/
def Trail.PassesNo (c : Char) (trail after : Trail) : Prop :=
  ∃ passed, trail.cursor.rest = passed ++ after.cursor.rest ∧ c ∉ passed

theorem Trail.PassesNo.refl (c : Char) (trail : Trail) : trail.PassesNo c trail :=
  ⟨[], rfl, by simp⟩

theorem Trail.PassesNo.trans {c : Char} {trail middle after : Trail}
    (first : trail.PassesNo c middle) (second : middle.PassesNo c after) :
    trail.PassesNo c after := by
  obtain ⟨passed, restEq, clear⟩ := first
  obtain ⟨more, moreEq, moreClear⟩ := second
  exact ⟨passed ++ more, by rw [restEq, moreEq, List.append_assoc], by simp [clear, moreClear]⟩

theorem passesNo_of_ends {c : Char} {pattern : Pattern} (avoids : pattern.avoids c = true)
    {trail after : Trail} (member : after ∈ pattern.ends trail) : trail.PassesNo c after := by
  induction pattern generalizing trail after with
  | empty =>
      obtain rfl := List.mem_singleton.mp member
      exact .refl c _
  | literal text =>
      simp only [ends, Option.mem_toList, Option.map_eq_some_iff] at member
      obtain ⟨cursor, skipped, rfl⟩ := member
      exact ⟨text, Cursor.eq_append_of_skip? skipped, by simpa [Pattern.avoids] using avoids⟩
  | one set =>
      cases follows : trail.cursor.rest with
      | nil => simp [ends, follows] at member
      | cons d rest =>
          simp only [ends, follows] at member
          split at member
          · rename_i has
            obtain rfl := List.mem_singleton.mp member
            refine ⟨[d], follows, fun same => ?_⟩
            rw [List.mem_singleton.mp same] at avoids
            simp [Pattern.avoids, has] at avoids
          · simp at member
  | assert condition =>
      simp only [ends] at member
      split at member
      · obtain rfl := List.mem_singleton.mp member
        exact .refl c _
      · simp at member
  | seq first second ihFirst ihSecond =>
      obtain ⟨firstAvoids, secondAvoids⟩ := Bool.and_eq_true_iff.mp avoids
      obtain ⟨middle, middleMember, later⟩ := List.mem_flatMap.mp member
      exact (ihFirst firstAvoids middleMember).trans (ihSecond secondAvoids later)
  | alt first second ihFirst ihSecond =>
      obtain ⟨firstAvoids, secondAvoids⟩ := Bool.and_eq_true_iff.mp avoids
      rcases List.mem_append.mp member with here | there
      · exact ihFirst firstAvoids here
      · exact ihSecond secondAvoids there
  | times greedy least most body ih =>
      exact related_of_times (Trail.PassesNo c) (.refl c) .trans (fun _ _ here => ih avoids here)
        member
  | group number name body ih =>
      cases name with
      | none => exact ih avoids member
      | some name =>
          obtain ⟨inner, innerMember, rfl⟩ := List.mem_map.mp member
          have passes : (trail.opened name).PassesNo c inner := ih avoids innerMember
          exact passes

theorem exists_end_of_search {pattern : Pattern} (proper : pattern.isProper = true)
    {cursor first : Cursor} {thread : Thread}
    (searched : pattern.program.search cursor = some (first, thread)) :
    ∃ trail ∈ pattern.ends (.start first), thread = trail.onStep pattern.size := by
  rw [Program.search_eq fun place _ => leads_program proper place] at searched
  obtain ⟨place, -, found⟩ := List.exists_of_findSome?_eq_some searched
  rw [List.head?_map, Option.map_map, Option.map_eq_some_iff] at found
  obtain ⟨trail, isFirst, same⟩ := found
  obtain ⟨rfl, rfl⟩ := Prod.mk.inj same
  exact ⟨trail, List.mem_of_head? isFirst, rfl⟩

theorem not_mem_of_mem_occurrences {c : Char} {pattern : Pattern}
    (proper : pattern.isProper = true) (avoids : pattern.avoids c = true) {text : Text}
    {occurrence : Occurrence} (member : occurrence ∈ pattern.occurrences text) :
    c ∉ occurrence.text := by
  obtain ⟨start, first, thread, searched, textEq⟩ := exists_search_of_mem_occurrencesFrom member
  obtain ⟨trail, isEnd, rfl⟩ := exists_end_of_search proper searched
  obtain ⟨passed, restEq, clear⟩ := passesNo_of_ends avoids isEnd
  have restEq : first.rest = passed ++ trail.cursor.rest := restEq
  rw [textEq, Cursor.upTo, restEq]
  simpa [Trail.onStep] using clear

/-- A pattern that can be searched for in pieces that blanks separate. -/
structure Solid (pattern : Pattern) : Prop where
  proper : pattern.isProper = true
  isLocal : pattern.isLocal = true
  avoids : pattern.avoids ' ' = true

theorem Solid.not_mem {pattern : Pattern} (solid : pattern.Solid) {text : Text}
    {occurrence : Occurrence} (member : occurrence ∈ pattern.occurrences text) :
    ' ' ∉ occurrence.text :=
  not_mem_of_mem_occurrences solid.proper solid.avoids member

theorem solid_chain {patterns : List Pattern} (solid : ∀ pattern ∈ patterns, pattern.Solid) :
    (chain patterns).Solid := by
  induction patterns with
  | nil => exact ⟨rfl, rfl, rfl⟩
  | cons first others ih =>
      have head := solid first List.mem_cons_self
      cases others with
      | nil => exact head
      | cons second others =>
          have tail := ih fun pattern member => solid pattern (List.mem_cons_of_mem _ member)
          exact ⟨Bool.and_eq_true_iff.mpr ⟨head.proper, tail.proper⟩,
            Bool.and_eq_true_iff.mpr ⟨head.isLocal, tail.isLocal⟩,
            Bool.and_eq_true_iff.mpr ⟨head.avoids, tail.avoids⟩⟩

theorem solid_of_mem_edge {limit : Option Char} {pattern : Pattern}
    (member : pattern ∈ edge limit) : pattern.Solid := by
  rw [eq_of_mem_edge member]
  exact ⟨rfl, rfl, rfl⟩

/-- A word without blanks. -/
theorem solid_exactly {text : Text} (clear : ' ' ∉ text) : (exactly text).Solid := by
  by_cases empty : text = []
  · subst empty
    exact ⟨rfl, rfl, rfl⟩
  · rw [exactly_eq empty]
    refine solid_chain fun pattern member => ?_
    rcases List.mem_append.mp member with first | behind
    · exact solid_of_mem_edge first
    · rcases List.mem_cons.mp behind with rfl | last
      · exact ⟨rfl, rfl, by simpa [avoids] using clear⟩
      · exact solid_of_mem_edge last

end Pattern

namespace Vocabulary

open Pattern

theorem solid_keyword (kind : TokenKind) : (keyword kind).Solid := by
  cases kind <;> exact ⟨by decide, by decide, by decide⟩

theorem identifierStart_has_blank : identifierStart.has ' ' = false := by
  rw [← Bool.not_eq_true, CharSet.has, identifierStart, CharSet.hasCode_anyOf]
  simp [CharSet.interval, CharSet.only, CharSet.Holds]

theorem identifierPart_has_blank : identifierPart.has ' ' = false := by
  rw [← Bool.not_eq_true, CharSet.has, identifierPart, CharSet.hasCode_anyOf]
  simp [CharSet.interval, CharSet.only, CharSet.Holds]

theorem avoids_bareIdentifier : bareIdentifier.avoids ' ' = true := by
  have parts : bareIdentifier.avoids ' ' =
      (!identifierStart.has ' ' && !identifierPart.has ' ') := rfl
  rw [parts, identifierStart_has_blank, identifierPart_has_blank]
  rfl

theorem solid_identifier : identifier.Solid :=
  ⟨by decide, by decide, avoids_bareIdentifier⟩

theorem solid_dottedIdentifier : dottedIdentifier.Solid := by
  refine ⟨by decide, by decide, ?_⟩
  have parts : dottedIdentifier.avoids ' ' =
      (!identifierStart.has ' ' && (!identifierPart.has ' ' && bareIdentifier.avoids ' ')) := rfl
  rw [parts, avoids_bareIdentifier, identifierStart_has_blank, identifierPart_has_blank]
  rfl

theorem fieldTypeCandidate_proper : fieldTypeCandidate.isProper = true := by
  decide

theorem fieldTypeCandidate_isLocal : fieldTypeCandidate.isLocal = true := by
  decide

end Vocabulary

end Pinpoint
