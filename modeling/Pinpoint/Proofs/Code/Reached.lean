import Pinpoint.Proofs.Code.Blanked

/-!
# Code from a place on

A place between two characters cuts a text, and the code of the text with it: what is found
from that place on are all the matches in the windows of the rest of the text.  The end of a
match is such a place.
-/

namespace Pinpoint

namespace Code

open Lexer

/-- The characters of a text. -/
def textOf (marks : List Mark) : Text :=
  marks.map (·.char)

/-- Characters that stand one behind the other, from a place on. -/
def StandAt : Position → List Mark → Prop
  | _, [] => True
  | place, mark :: rest => mark.place = place ∧ StandAt (place.next mark.char) rest

theorem standAt_marks (mode : Mode) (place : Position) (text : Text) :
    StandAt place (marks mode place text) := by
  induction text generalizing mode place with
  | nil => simp [StandAt]
  | cons c rest ih =>
      rw [marks_cons]
      exact ⟨rfl, ih _ _⟩

theorem standAt_codeMarks (place : Position) (text : Text) :
    StandAt place (codeMarks place text) := by
  induction text generalizing place with
  | nil => trivial
  | cons c rest ih => exact ⟨rfl, ih _⟩

theorem textOf_marks (mode : Mode) (place : Position) (text : Text) :
    textOf (marks mode place text) = text := by
  induction text generalizing mode place with
  | nil => simp [textOf]
  | cons c rest ih =>
      rw [marks_cons]
      exact congrArg (c :: ·) (ih _ _)

namespace StandAt

variable {place : Position} {marks left right : List Mark}

theorem of_append (stand : StandAt place (left ++ right)) :
    StandAt place left ∧ StandAt (place.after (textOf left)) right := by
  induction left generalizing place with
  | nil => exact ⟨trivial, stand⟩
  | cons mark left ih =>
      obtain ⟨placeEq, later⟩ := stand
      exact ⟨⟨placeEq, (ih later).1⟩, (ih later).2⟩

theorem atMost_place (stand : StandAt place marks) {mark : Mark} (member : mark ∈ marks) :
    place.atMost mark.place = true := by
  induction marks generalizing place with
  | nil => simp at member
  | cons first rest ih =>
      obtain ⟨placeEq, later⟩ := stand
      rcases List.mem_cons.mp member with rfl | inRest
      · exact placeEq ▸ Position.atMost_refl _
      · exact Position.atMost_trans (place.atMost_next first.char) (ih later inRest)

theorem next_atMost (stand : StandAt place marks) {mark : Mark} (member : mark ∈ marks) :
    (mark.place.next mark.char).atMost (place.after (textOf marks)) = true := by
  induction marks generalizing place with
  | nil => simp at member
  | cons first rest ih =>
      obtain ⟨placeEq, later⟩ := stand
      rcases List.mem_cons.mp member with rfl | inRest
      · rw [placeEq]
        exact Position.atMost_after _ _
      · exact ih later inRest

end StandAt

/-! ### Cutting characters off -/

/-- The window of a character goes on as the window of the next one, if there is one. -/
theorem exists_windows_cons {mark : Mark} {rest : List Mark}
    (stand : StandAt (mark.place.next mark.char) rest) (inCode : isBreak mark = false) :
    ∃ text others, windows (mark :: rest) = ⟨mark.place, mark.char :: text⟩ :: others ∧
      (text = [] ∧ windows rest = others ∨
        windows rest = ⟨mark.place.next mark.char, text⟩ :: others) := by
  have splits : (mark :: rest).splitOnP isBreak =
      (rest.splitOnP isBreak).modifyHead (mark :: ·) := by
    rw [List.splitOnP_cons_eq_if_modifyHead, if_neg (by simp [inCode])]
  cases rest with
  | nil =>
      refine ⟨[], [], ?_, Or.inl ⟨rfl, rfl⟩⟩
      rw [windows, splits, List.splitOnP_nil]
      rfl
  | cons next later =>
      obtain ⟨first, others, pieces⟩ :=
        List.exists_cons_of_ne_nil (List.splitOnP_ne_nil isBreak later)
      -- The next character goes on with the piece, or it breaks it off.
      by_cases breaks : isBreak next = true
      · have nextSplits : (next :: later).splitOnP isBreak = [] :: later.splitOnP isBreak := by
          rw [List.splitOnP_cons_eq_if_modifyHead, if_pos breaks]
        refine ⟨[], windows later, ?_, Or.inl ⟨rfl, windows_cons_of_isBreak breaks later⟩⟩
        rw [windows, splits, nextSplits]
        rfl
      · have nextSplits : (next :: later).splitOnP isBreak = (next :: first) :: others := by
          rw [List.splitOnP_cons_eq_if_modifyHead, if_neg breaks, pieces]
          rfl
        refine ⟨next.char :: first.map (·.char), others.filterMap Window.ofMarks?, ?_, Or.inr ?_⟩
        · rw [windows, splits, nextSplits]
          rfl
        · rw [windows, nextSplits, ← stand.1]
          rfl

/-- From the next character on, a window is the window of what follows. -/
theorem from?_cons {c : Char} (other : c ≠ '\n') {start position : Position}
    (passed : (start.next c).atMost position = true) (text : Text) :
    (Window.mk start (c :: text)).from? position =
      (Window.mk (start.next c) text).from? position := by
  rw [Position.next_of_ne other] at passed ⊢
  have positive := Char.utf8Size_pos c
  rcases Position.atMost_iff.mp passed with earlier | ⟨sameLine, columnLe⟩
  · rw [Window.from?, Window.from?, if_pos earlier, if_pos earlier]
  · simp only at sameLine columnLe
    have notEarlier : ¬ start.line < position.line := by omega
    have dropped : Text.dropBytes? (position.column - start.column) (c :: text) =
        Text.dropBytes? (position.column - (start.column + c.utf8Size)) text := by
      rw [Text.dropBytes?_cons _ (by omega), Nat.sub_sub]
    rw [Window.from?, Window.from?, if_neg notEarlier, if_neg notEarlier,
      if_pos ⟨sameLine, (by omega : start.column < position.column)⟩, dropped]
    split
    · rfl
    · rename_i notInside
      have columnEq : position.column = start.column + c.utf8Size := by
        simp only [sameLine, true_and] at notInside
        omega
      rw [columnEq, Nat.sub_self, Text.dropBytes?_zero, sameLine, ← columnEq]
      rfl

/-- A character that lies in front of a position is not searched from there. -/
theorem matchesFrom_cons_of_passed {mark : Mark} {rest : List Mark}
    (stand : StandAt (mark.place.next mark.char) rest) {position : Position}
    (passed : (mark.place.next mark.char).atMost position = true) (pattern : Pattern) :
    matchesFrom (windows (mark :: rest)) pattern position =
      matchesFrom (windows rest) pattern position := by
  cases breaks : isBreak mark with
  | true => rw [windows_cons_of_isBreak breaks]
  | false =>
      have other : mark.char ≠ '\n' := by
        rintro newline
        simp [isBreak, newline] at breaks
      obtain ⟨text, others, windowsEq, goesOn⟩ := exists_windows_cons stand breaks
      rw [windowsEq, matchesFrom_cons, matchesFrom_singleton, from?_cons other passed,
        ← matchesFrom_singleton]
      rcases goesOn with ⟨rfl, restEq⟩ | restEq
      · -- The window ends with the character, so that nothing is left of it.
        have nothing : matchesFrom [⟨mark.place.next mark.char, []⟩] pattern position = [] := by
          refine List.eq_nil_iff_forall_not_mem.mpr fun found member => ?_
          obtain ⟨window, windowMember, contained, -⟩ := contains_of_mem_matchesFrom member
          obtain rfl := List.mem_singleton.mp windowMember
          have bounds := contained.bounds
          simp only [Text.width_nil] at bounds
          omega
        rw [nothing, restEq, List.nil_append]
      · rw [restEq, ← matchesFrom_cons]

theorem matchesFrom_append_of_passed {place position : Position} {left right : List Mark}
    (stand : StandAt place (left ++ right))
    (passed : ∀ mark ∈ left, (mark.place.next mark.char).atMost position = true)
    (pattern : Pattern) :
    matchesFrom (windows (left ++ right)) pattern position =
      matchesFrom (windows right) pattern position := by
  induction left generalizing place with
  | nil => rfl
  | cons mark left ih =>
      obtain ⟨rfl, later : StandAt (mark.place.next mark.char) (left ++ right)⟩ := stand
      rw [List.cons_append, matchesFrom_cons_of_passed later (passed mark List.mem_cons_self)]
      exact ih later fun other member => passed other (List.mem_cons_of_mem _ member)

/-! ### All matches -/

/-- All matches in some windows. -/
def allMatches (pattern : Pattern) (windows : List Window) : List Match :=
  windows.flatMap (Window.occurrences pattern)

theorem matchesFrom_of_behind {windows : List Window} {position : Position}
    (behind : ∀ window ∈ windows, position.atMost window.start = true) (pattern : Pattern) :
    matchesFrom windows pattern position = allMatches pattern windows := by
  have allLeft : windows.filterMap (Window.from? position) = windows.filterMap some :=
    List.filterMap_congr fun window member => Window.from?_of_atMost (behind window member)
  rw [matchesFrom, allLeft, List.filterMap_some, allMatches]

/-- From the place on where characters are cut, what is found are all matches in the rest. -/
theorem matchesFrom_after {place : Position} {left right : List Mark}
    (stand : StandAt place (left ++ right)) (pattern : Pattern) :
    matchesFrom (windows (left ++ right)) pattern (place.after (textOf left)) =
      allMatches pattern (windows right) := by
  obtain ⟨standLeft, standRight⟩ := stand.of_append
  rw [matchesFrom_append_of_passed stand fun mark member => standLeft.next_atMost member]
  refine matchesFrom_of_behind (fun window member => ?_) pattern
  obtain ⟨mark, markMember, placeEq⟩ := exists_mark_of_mem_windows member
  exact placeEq ▸ standRight.atMost_place markMember

/-- Where a text is cut, the lexer goes on with the rest. -/
theorem exists_marks_append (mode : Mode) (place : Position) (passed rest : Text) :
    ∃ left after, textOf left = passed ∧
      marks mode place (passed ++ rest) = left ++ marks after (place.after passed) rest := by
  induction passed generalizing mode place with
  | nil => exact ⟨[], mode, rfl, rfl⟩
  | cons c passed ih =>
      obtain ⟨left, after, rfl, marksEq⟩ :=
        ih (step mode place c (passed ++ rest).head?) (place.next c)
      refine ⟨⟨c, place, comment? mode place c (textOf left ++ rest).head?⟩ :: left, after,
        rfl, ?_⟩
      rw [List.cons_append, marks_cons, marksEq]
      rfl

theorem after_flatMap_blanked (place : Position) (marks : List Mark) :
    place.after (marks.flatMap Mark.blanked) = place.after (textOf marks) := by
  induction marks generalizing place with
  | nil => rfl
  | cons mark rest ih =>
      rw [List.flatMap_cons, Position.after_append, after_blanked, ih]
      rfl

/-- From the place on where a text is cut, what is found are all matches in the rest, in the
text as it is and in the text with its comments blanked. -/
theorem exists_matchesFrom_cut (mode : Mode) (place : Position) (passed rest : Text)
    (pattern : Pattern) :
    ∃ after, (∀ mark ∈ marks after (place.after passed) rest,
        mark ∈ marks mode place (passed ++ rest)) ∧
      matchesFrom (windows (marks mode place (passed ++ rest))) pattern (place.after passed) =
        allMatches pattern (windows (marks after (place.after passed) rest)) ∧
      matchesFrom (windows (codeMarks place (blank mode place (passed ++ rest)))) pattern
          (place.after passed) =
        allMatches pattern (windows (codeMarks (place.after passed)
          (blank after (place.after passed) rest))) := by
  obtain ⟨left, after, rfl, marksEq⟩ := exists_marks_append mode place passed rest
  have stand := standAt_marks mode place (textOf left ++ rest)
  rw [marksEq] at stand
  refine ⟨after, fun mark member => marksEq ▸ List.mem_append_right _ member, ?_, ?_⟩
  · rw [marksEq]
    exact matchesFrom_after stand pattern
  · have blankEq : blank mode place (textOf left ++ rest) =
        left.flatMap Mark.blanked ++ blank after (place.after (textOf left)) rest := by
      rw [blank, marksEq, List.flatMap_append, blank]
    have blankedStand := standAt_codeMarks place (blank mode place (textOf left ++ rest))
    rw [blankEq, codeMarks_append, after_flatMap_blanked] at blankedStand ⊢
    have codeText := char_map_codeMarks place (left.flatMap Mark.blanked)
    have found := matchesFrom_after blankedStand pattern
    rwa [textOf.eq_def (codeMarks _ _), codeText, after_flatMap_blanked] at found

/-! ### Ends of matches -/

/-- A position lies between two characters of a text. -/
def Cuts (place : Position) (text : Text) (position : Position) : Prop :=
  ∃ passed rest, text = passed ++ rest ∧ position = place.after passed

/-- A match in the code of a text ends between two characters. -/
theorem cuts_stop {mode : Mode} {place : Position} {text : Text} {pattern : Pattern}
    {position : Position} {found : Match}
    (member : found ∈ matchesFrom (windows (marks mode place text)) pattern position) :
    Cuts place text found.stop := by
  obtain ⟨window, windowMember, contained, -⟩ := contains_of_mem_matchesFrom member
  obtain ⟨left, mark, inner, right, marksEq, rfl, clear⟩ :=
    exists_append_of_mem_windows windowMember
  obtain ⟨skipped, behind, windowEq, -, startEq, stopEq⟩ := contained
  simp only at windowEq startEq
  have noNewline : '\n' ∉ mark.char :: inner.map (·.char) := by
    rw [← List.map_cons, List.mem_map]
    rintro ⟨other, otherMember, newline⟩
    have noBreak := clear other otherMember
    simp [isBreak, newline] at noBreak
  rw [windowEq, List.mem_append, List.mem_append, not_or, not_or] at noNewline
  have textEq := textOf_marks mode place text
  have stand := standAt_marks mode place text
  rw [marksEq] at textEq stand
  obtain ⟨-, placeEq, -⟩ := stand.of_append
  rw [textOf, List.map_append, List.map_append, List.map_cons, windowEq] at textEq
  refine ⟨textOf left ++ (skipped ++ found.text), behind ++ textOf right, ?_, ?_⟩
  · rw [← textEq]
    simp only [textOf, List.append_assoc]
  · rw [Position.after_append, ← placeEq, Position.after_append,
      Position.after_of_not_mem noNewline.1, Position.after_of_not_mem noNewline.2.1, stopEq,
      startEq]

end Code

end Pinpoint
