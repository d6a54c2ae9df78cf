import Pinpoint.Proofs.Code.Reached
import Pinpoint.Proofs.Pattern.Blanks

/-!
# Code with its comments blanked

The matches in the code of a text are those in the text with its comments blanked, up to the
first one that passes a blank where a comment stood.
-/

namespace Pinpoint

open Lexer

/-- The match holds a byte that belongs to a comment. -/
def Match.MeetsComment (marks : List Mark) (found : Match) : Prop :=
  ∃ mark ∈ marks, mark.comment.isSome = true ∧ mark.place.line = found.start.line ∧
    mark.place.column < found.stop.column ∧
    found.start.column < mark.place.column + mark.char.utf8Size

instance (marks : List Mark) (found : Match) : Decidable (found.MeetsComment marks) :=
  inferInstanceAs (Decidable (∃ mark ∈ marks, _))

/-- The match passes a blank at a position. -/
structure Match.PassesBlank (position : Position) (found : Match) : Prop where
  line_eq : found.start.line = position.line
  start_le : found.start.column ≤ position.column
  lt_stop : position.column < found.stop.column
  blank : ' ' ∈ found.text

/-- The match passes a blank where a comment stood. -/
def Match.Spoiled (marks : List Mark) (found : Match) : Prop :=
  ' ' ∈ found.text ∧ found.MeetsComment marks

theorem Match.Spoiled.mono {marks others : List Mark} (subset : ∀ mark ∈ marks, mark ∈ others)
    {found : Match} (spoiled : found.Spoiled marks) : found.Spoiled others := by
  obtain ⟨blank, mark, member, meets⟩ := spoiled
  exact ⟨blank, mark, subset mark member, meets⟩

/-- Blanks that stand for the bytes of a comment spoil a match. -/
theorem Match.PassesBlank.spoiled {marks : List Mark} {mark : Mark} (member : mark ∈ marks)
    (inComment : mark.comment.isSome = true) {index : Nat} (within : index < mark.char.utf8Size)
    {found : Match}
    (passes : found.PassesBlank ⟨mark.place.line, mark.place.column + index⟩) :
    found.Spoiled marks := by
  have startLe := passes.start_le
  have ltStop := passes.lt_stop
  simp only at startLe ltStop
  refine ⟨passes.blank, mark, member, inComment, passes.line_eq.symm, ?_, ?_⟩ <;> omega

/-- The match of an occurrence in a text that starts at a place. -/
def Pattern.Occurrence.placed (place : Position) (found : Pattern.Occurrence) : Match :=
  ⟨found.text, ⟨place.line, place.column + found.start⟩,
    ⟨place.line, place.column + found.stop⟩⟩

namespace Code

theorem allMatches_append (pattern : Pattern) (left right : List Window) :
    allMatches pattern (left ++ right) = allMatches pattern left ++ allMatches pattern right :=
  List.flatMap_append

theorem allMatches_codeMarks (pattern : Pattern) (place : Position) {text : Text}
    (clear : '\n' ∉ text) :
    allMatches pattern (windows (codeMarks place text)) =
      Window.occurrences pattern ⟨place, text⟩ := by
  rw [windows_codeMarks clear]
  split
  · rename_i empty
    subst empty
    rfl
  · exact List.flatMap_singleton _ _

theorem windows_codeMarks_newline (place : Position) (left right : Text) :
    windows (codeMarks place (left ++ '\n' :: right)) =
      windows (codeMarks place left) ++
        windows (codeMarks ((place.after left).next '\n') right) := by
  rw [codeMarks_append, codeMarks, windows_append_cons rfl]

theorem exists_first_line (text : Text) :
    ∃ first behind, text = first ++ behind ∧ '\n' ∉ first ∧
      (behind = [] ∨ ∃ rest, behind = '\n' :: rest) := by
  induction text with
  | nil => exact ⟨[], [], rfl, by simp, Or.inl rfl⟩
  | cons c rest ih =>
      by_cases newline : c = '\n'
      · exact ⟨[], c :: rest, rfl, by simp, Or.inr ⟨rest, by rw [newline]⟩⟩
      · obtain ⟨first, behind, rfl, clear, ends⟩ := ih
        exact ⟨c :: first, behind, rfl, by simp [clear, Ne.symm newline], ends⟩

section

variable {pattern : Pattern} (proper : pattern.isProper = true)
  (isLocal : pattern.isLocal = true)

include proper isLocal

/-- A blank on a line. -/
theorem agreeUntil_window (place : Position) (left right : Text) :
    AgreeUntil (Match.PassesBlank ⟨place.line, place.column + Text.width left⟩)
      (Window.occurrences pattern ⟨place, left⟩ ++ Window.occurrences pattern
        ⟨⟨place.line, place.column + Text.width left + 1⟩, right⟩)
      (Window.occurrences pattern ⟨place, left ++ ' ' :: right⟩) := by
  have shifted : Pattern.Occurrence.placed place ∘ Pattern.Occurrence.shift (Text.width left + 1) =
      Pattern.Occurrence.placed ⟨place.line, place.column + Text.width left + 1⟩ := by
    funext found
    simp only [Function.comp, Pattern.Occurrence.placed, Pattern.Occurrence.shift,
      Pattern.Occurrence.stop, Nat.add_assoc]
  have passes : ∀ found : Pattern.Occurrence, found.Covers (Text.width left) ' ' →
      (found.placed place).PassesBlank ⟨place.line, place.column + Text.width left⟩ := by
    rintro found ⟨startLe, ltStop, blank⟩
    exact ⟨rfl, Nat.add_le_add_left startLe _, Nat.add_lt_add_left ltStop _, blank ' ' rfl⟩
  have agree := (Pattern.agreeUntil_occurrences proper isLocal left right).map _ passes
  rwa [List.map_append, List.map_map, shifted] at agree

/-- A blank in a text. -/
theorem agreeUntil_blank (place : Position) {left : Text} (clear : '\n' ∉ left)
    (right : Text) :
    AgreeUntil (Match.PassesBlank ⟨place.line, place.column + Text.width left⟩)
      (Window.occurrences pattern ⟨place, left⟩ ++ allMatches pattern
        (windows (codeMarks ⟨place.line, place.column + Text.width left + 1⟩ right)))
      (allMatches pattern (windows (codeMarks place (left ++ ' ' :: right)))) := by
  obtain ⟨first, behind, rfl, firstClear, ends⟩ := exists_first_line right
  have wholeClear : '\n' ∉ left ++ ' ' :: first := by simp [clear, firstClear]
  have onLine := agreeUntil_window proper isLocal place left first
  rcases ends with rfl | ⟨rest, rfl⟩
  · rw [List.append_nil, allMatches_codeMarks _ _ firstClear, allMatches_codeMarks _ _ wholeClear]
    exact onLine
  · have whole : left ++ ' ' :: (first ++ '\n' :: rest) =
        (left ++ ' ' :: first) ++ '\n' :: rest := by simp
    have samePlace : (place.after (left ++ ' ' :: first)).next '\n' =
        ((⟨place.line, place.column + Text.width left + 1⟩ : Position).after first).next '\n' := by
      rw [Position.after_of_not_mem wholeClear, Position.after_of_not_mem firstClear]
      rfl
    rw [whole, windows_codeMarks_newline, windows_codeMarks_newline, allMatches_append,
      allMatches_append, allMatches_codeMarks _ _ firstClear, allMatches_codeMarks _ _ wholeClear,
      samePlace, ← List.append_assoc]
    exact onLine.append (.refl _)

/-- Blanks in front of a text. -/
theorem agreeUntil_blanks (count : Nat) (place : Position) (right : Text) :
    AgreeUntil (fun found => ∃ k < count,
        found.PassesBlank ⟨place.line, place.column + k⟩)
      (allMatches pattern (windows (codeMarks ⟨place.line, place.column + count⟩ right)))
      (allMatches pattern (windows (codeMarks place (List.replicate count ' ' ++ right)))) := by
  induction count generalizing place with
  | zero => exact .refl _
  | succ count ih =>
      have first := agreeUntil_blank proper isLocal place (List.not_mem_nil (a := '\n'))
        (List.replicate count ' ' ++ right)
      have later := ih ⟨place.line, place.column + 1⟩
      have stopEq : place.column + 1 + count = place.column + (count + 1) := by omega
      rw [stopEq] at later
      refine (later.mono ?_).trans (first.mono ?_)
      · rintro found ⟨k, kLt, passes⟩
        refine ⟨k + 1, Nat.succ_lt_succ kLt, ?_⟩
        rwa [Nat.add_assoc, Nat.add_comm 1 k] at passes
      · intro found passes
        exact ⟨0, Nat.succ_pos _, passes⟩

/-- A character of a comment behind code that has been read. -/
theorem agreeUntil_comment (mark : Mark) (inComment : mark.comment.isSome = true)
    (other : mark.char ≠ '\n') {start : Position} {read : Text} (clear : '\n' ∉ read)
    (placeEq : mark.place = start.after read) (right : Text) :
    AgreeUntil (Match.Spoiled [mark])
      (Window.occurrences pattern ⟨start, read⟩ ++
        allMatches pattern (windows (codeMarks (mark.place.next mark.char) right)))
      (allMatches pattern (windows (codeMarks start (read ++ (mark.blanked ++ right))))) := by
  rw [Position.after_of_not_mem clear] at placeEq
  obtain ⟨count, countEq⟩ := Nat.exists_eq_succ_of_ne_zero (Char.utf8Size_pos mark.char).ne'
  have nextEq : mark.place.next mark.char =
      ⟨start.line, start.column + Text.width read + 1 + count⟩ := by
    rw [Position.next_of_ne other, placeEq, countEq, Nat.succ_eq_add_one, Nat.add_assoc _ 1,
      Nat.add_comm 1]
  have gone : mark.blanked = ' ' :: List.replicate count ' ' := by
    rw [Mark.blanked, if_pos ⟨inComment, other⟩, countEq, Nat.succ_eq_add_one,
      List.replicate_succ]
  have one := agreeUntil_blank proper isLocal start clear (List.replicate count ' ' ++ right)
  have more := agreeUntil_blanks proper isLocal count
    ⟨start.line, start.column + Text.width read + 1⟩ right
  have spoils : ∀ index, index < mark.char.utf8Size → ∀ found : Match,
      found.PassesBlank ⟨start.line, start.column + Text.width read + index⟩ →
        found.Spoiled [mark] := by
    intro index within found passes
    refine Match.PassesBlank.spoiled List.mem_cons_self inComment within ?_
    rw [placeEq]
    exact passes
  rw [nextEq, gone, List.cons_append]
  refine AgreeUntil.trans ((AgreeUntil.refl _).append (more.mono ?_)) (one.mono ?_)
  · rintro found ⟨k, kLt, passes⟩
    rw [Nat.add_assoc _ 1 k] at passes
    exact spoils (1 + k) (by omega) found passes
  · intro found passes
    exact spoils 0 (by omega) found passes

/-- Code that has been read since the last line feed or comment, and the rest of a text. -/
theorem agreeUntil_read (mode : Mode) (start : Position) (read : Text) (clear : '\n' ∉ read)
    (text : Text) :
    AgreeUntil (Match.Spoiled (marks mode (start.after read) text))
      (allMatches pattern (windows (codeMarks start read ++ marks mode (start.after read) text)))
      (allMatches pattern
        (windows (codeMarks start (read ++ blank mode (start.after read) text)))) := by
  -- By induction on the text: code goes on with what has been read, and at a line feed or a
  -- comment the reading starts anew.
  induction text generalizing mode start read with
  | nil =>
      rw [marks_nil, blank_nil, List.append_nil, List.append_nil]
      exact .refl _
  | cons c rest ih =>
      have keeps : ∀ mark ∈ marks (step mode (start.after read) c rest.head?)
          ((start.after read).next c) rest, mark ∈ marks mode (start.after read) (c :: rest) := by
        intro mark member
        rw [marks_cons]
        exact List.mem_cons_of_mem _ member
      by_cases newline : c = '\n'
      · subst newline
        have later := ih (step mode (start.after read) '\n' rest.head?)
          ((start.after read).next '\n') [] (by simp)
        have stays : Mark.blanked ⟨'\n', start.after read,
            comment? mode (start.after read) '\n' rest.head?⟩ = ['\n'] := by
          rw [Mark.blanked, if_neg (by simp)]
        have breaks : isBreak ⟨'\n', start.after read,
            comment? mode (start.after read) '\n' rest.head?⟩ = true := by
          simp [isBreak]
        rw [blank_cons, stays, List.singleton_append, windows_codeMarks_newline, marks_cons,
          windows_append_cons breaks, allMatches_append, allMatches_append]
        exact (AgreeUntil.refl _).append (later.mono fun found => .mono keeps)
      · cases inComment : comment? mode (start.after read) c rest.head? with
        | none =>
            have modeEq : start.after (read ++ [c]) = (start.after read).next c := by simp
            have readClear : '\n' ∉ read ++ [c] := by simp [clear, Ne.symm newline]
            have later := ih (step mode (start.after read) c rest.head?) start _ readClear
            rw [modeEq, codeMarks_append_singleton, List.append_assoc, List.append_assoc] at later
            have stays : Mark.blanked ⟨c, start.after read, none⟩ = [c] := rfl
            rw [blank_cons, inComment, stays, marks_cons, inComment]
            refine later.mono fun found => .mono fun mark member => ?_
            exact List.mem_cons_of_mem _ member
        | some opened =>
            have later := ih (step mode (start.after read) c rest.head?)
              ((start.after read).next c) [] (by simp)
            have comment := agreeUntil_comment proper isLocal
              (⟨c, start.after read, some opened⟩ : Mark) rfl newline clear rfl
              (blank (step mode (start.after read) c rest.head?) ((start.after read).next c) rest)
            rw [codeMarks, List.nil_append, List.nil_append, Position.after_nil] at later
            rw [marks_cons, inComment] at keeps ⊢
            rw [blank_cons, inComment, windows_append_cons rfl, allMatches_append,
              allMatches_codeMarks _ _ clear]
            refine AgreeUntil.trans ?_ (comment.mono fun found => .mono (by simp))
            exact (AgreeUntil.refl _).append (later.mono fun found => .mono keeps)

/-- All matches in the code of a text. -/
theorem agreeUntil_allMatches (mode : Mode) (place : Position) (text : Text) :
    AgreeUntil (Match.Spoiled (marks mode place text))
      (allMatches pattern (windows (marks mode place text)))
      (allMatches pattern (windows (codeMarks place (blank mode place text)))) := by
  simpa [codeMarks] using agreeUntil_read proper isLocal mode place [] (by simp) text

/-- The matches in the code of a text, from a place on that lies between two characters. -/
theorem agreeUntil_matchesFrom (mode : Mode) {place position : Position} {text : Text}
    (cuts : Cuts place text position) :
    AgreeUntil (Match.Spoiled (marks mode place text))
      (matchesFrom (windows (marks mode place text)) pattern position)
      (matchesFrom (windows (codeMarks place (blank mode place text))) pattern position) := by
  obtain ⟨passed, rest, rfl, rfl⟩ := cuts
  obtain ⟨after, subset, found, blankedFound⟩ :=
    exists_matchesFrom_cut mode place passed rest pattern
  rw [found, blankedFound]
  exact (agreeUntil_allMatches proper isLocal after (place.after passed) rest).mono
    fun _ spoiled => spoiled.mono subset

end

end Code

end Pinpoint
