import Pinpoint.Proofs.Pattern.Compiled

/-!
# Patterns in a longer text

A pattern that asks of a place only whether words start or end there, and keeps no texts,
does the same in a text and in a longer one, as far as the text goes, if no word goes on
over its limits.
-/

namespace Pinpoint

namespace Pattern

/-- The pattern asks only for words, and keeps no texts. -/
def isLocal : Pattern → Bool
  | assert (.word _) => true
  | assert _ => false
  | seq first second => first.isLocal && second.isLocal
  | alt first second => first.isLocal && second.isLocal
  | times _ _ _ body => body.isLocal
  | group _ name body => name.isNone && body.isLocal
  | _ => true

/-- What surrounds a text in a longer one: the width and the last character of what stands in
front, and what follows. -/
structure Frame where
  width : Nat
  before : Option Char
  rest : Text

namespace Frame

/-- No word goes on over the limits of the text. -/
structure Separates (frame : Frame) : Prop where
  before : frame.before.any CharSet.word.has = false
  rest : frame.rest.head?.any CharSet.word.has = false

/-- The place in the longer text. -/
def place (frame : Frame) (cursor : Cursor) : Cursor :=
  ⟨frame.width + cursor.column, cursor.before <|> frame.before, cursor.rest ++ frame.rest⟩

def trail (frame : Frame) (trail : Trail) : Trail :=
  trail.moved (frame.place trail.cursor)

/-- The trail has not left the text. -/
def holds (frame : Frame) (trail : Trail) : Bool :=
  frame.rest.length ≤ trail.cursor.rest.length

variable (frame : Frame)

theorem place_next {cursor : Cursor} (c : Char) (rest : Text) :
    frame.place (cursor.next c rest) = (frame.place cursor).next c (rest ++ frame.rest) := by
  simp [place, Cursor.next, Nat.add_assoc]

theorem holds_trail (trail : Trail) : frame.holds (frame.trail trail) = true := by
  simp [holds, Frame.trail, place, Trail.moved]

theorem not_holds {trail : Trail} (beyond : trail.cursor.rest.length < frame.rest.length) :
    ¬ frame.holds trail = true := by
  rw [holds, decide_eq_true_eq]
  exact Nat.not_le.mpr beyond

/-- A text that can be skipped in the longer text can be skipped in the text itself, unless it
goes beyond that. -/
theorem skip?_place (text : Text) (cursor : Cursor) :
    (∃ last, Cursor.skip? text cursor = some last ∧
      Cursor.skip? text (frame.place cursor) = some (frame.place last)) ∨
    Cursor.skip? text cursor = none ∧
      ∀ last, Cursor.skip? text (frame.place cursor) = some last →
        last.rest.length < frame.rest.length := by
  induction text generalizing cursor with
  | nil => exact Or.inl ⟨cursor, rfl, rfl⟩
  | cons c text ih =>
      cases follows : cursor.rest with
      | nil =>
          refine Or.inr ⟨by rw [Cursor.skip?, follows], fun last skipped => ?_⟩
          have restEq := Cursor.eq_append_of_skip? skipped
          simp only [place, follows, List.nil_append] at restEq
          rw [restEq, List.cons_append, List.length_cons, List.length_append]
          omega
      | cons d rest =>
          have restEq : (frame.place cursor).rest = d :: (rest ++ frame.rest) := by
            simp [place, follows]
          rw [Cursor.skip?, Cursor.skip?, follows, restEq]
          by_cases same : c = d
          · simp only [if_pos same]
            rw [← place_next]
            exact ih (cursor.next d rest)
          · simp only [if_neg same]
            exact Or.inr ⟨trivial, by simp⟩

variable {frame}

theorem Separates.atEdge_place (separates : frame.Separates) (edge : WordEdge)
    (cursor : Cursor) :
    Assertion.atEdge edge .word (frame.place cursor) = Assertion.atEdge edge .word cursor := by
  have beforeEq : (cursor.before <|> frame.before).any CharSet.word.has =
      cursor.before.any CharSet.word.has := by
    cases cursor.before with
    | none => simpa using separates.before
    | some c => rfl
  have afterEq : (cursor.rest ++ frame.rest).head?.any CharSet.word.has =
      cursor.rest.head?.any CharSet.word.has := by
    cases cursor.rest with
    | nil => simpa using separates.rest
    | cons c rest => rfl
  simp only [Assertion.atEdge, place, beforeEq, afterEq]

/-- A function of trails does the same in the longer text, apart from trails that leave the
text. -/
structure Keeps (frame : Frame) (round : Trail → List Trail) : Prop where
  filter_eq : ∀ trail, (round (frame.trail trail)).filter frame.holds =
    (round trail).map frame.trail
  rest_le : ∀ trail, ∀ after ∈ round trail,
    after.cursor.rest.length ≤ trail.cursor.rest.length

theorem Keeps.filter_eq_nil {round : Trail → List Trail} (keeps : frame.Keeps round)
    {trail : Trail} (left : frame.holds trail = false) :
    (round trail).filter frame.holds = [] := by
  rw [List.filter_eq_nil_iff]
  intro after member
  have shorter := keeps.rest_le trail after member
  simp only [holds, decide_eq_false_iff_not, decide_eq_true_eq] at left ⊢
  omega

theorem filter_flatMap (trails : List Trail) {round : Trail → List Trail}
    (keeps : frame.Keeps round) :
    (trails.flatMap round).filter frame.holds =
      (trails.filter frame.holds).flatMap fun trail => (round trail).filter frame.holds := by
  induction trails with
  | nil => rfl
  | cons trail rest ih =>
      rw [List.flatMap_cons, List.filter_append, ih]
      cases stays : frame.holds trail with
      | true => rw [List.filter_cons_of_pos stays, List.flatMap_cons]
      | false =>
          rw [List.filter_cons_of_neg (by simp [stays]), keeps.filter_eq_nil stays, List.nil_append]

theorem Keeps.flatMap {round further : Trail → List Trail} (first : frame.Keeps round)
    (second : frame.Keeps further) :
    frame.Keeps fun trail => (round trail).flatMap further where
  filter_eq trail := by
    rw [filter_flatMap _ second, first.filter_eq, List.flatMap_map, List.map_flatMap]
    exact List.flatMap_congr fun after _ => second.filter_eq after
  rest_le trail after member := by
    obtain ⟨middle, middleMember, later⟩ := List.mem_flatMap.mp member
    exact (second.rest_le middle after later).trans (first.rest_le trail middle middleMember)

theorem keeps_singleton (frame : Frame) : frame.Keeps fun trail => [trail] where
  filter_eq trail := by simp [frame.holds_trail trail]
  rest_le trail after member := by rw [List.mem_singleton.mp member]

theorem Keeps.append {round further : Trail → List Trail} (first : frame.Keeps round)
    (second : frame.Keeps further) : frame.Keeps fun trail => round trail ++ further trail where
  filter_eq trail := by
    rw [List.filter_append, first.filter_eq, second.filter_eq, List.map_append]
  rest_le trail after member := by
    rcases List.mem_append.mp member with here | there
    · exact first.rest_le trail after here
    · exact second.rest_le trail after there

theorem Keeps.inTurn {round : Trail → List Trail} (keeps : frame.Keeps round) (count : Nat) :
    frame.Keeps (inTurn round count) := by
  induction count with
  | zero => exact keeps_singleton frame
  | succ count ih => exact keeps.flatMap ih

theorem Keeps.upTo {round : Trail → List Trail} (keeps : frame.Keeps round) (greedy : Bool)
    (count : Nat) : frame.Keeps (upTo greedy round count) := by
  induction count with
  | zero => exact keeps_singleton frame
  | succ count ih =>
      have further := keeps.flatMap ih
      cases greedy with
      | true => exact further.append (keeps_singleton frame)
      | false => exact (keeps_singleton frame).append further

end Frame

/-- Rounds that pass a character end with the text. -/
theorem upTo_congr {greedy : Bool} {round : Trail → List Trail} (advances : Advances round)
    {count other : Nat} {trail : Trail} (enough : trail.cursor.rest.length ≤ count)
    (otherEnough : trail.cursor.rest.length ≤ other) :
    upTo greedy round count trail = upTo greedy round other trail := by
  induction count generalizing other trail with
  | zero =>
      cases other with
      | zero => rfl
      | succ other => cases greedy <;> simp [upTo, advances.eq_nil enough]
  | succ count ih =>
      cases other with
      | zero => cases greedy <;> simp [upTo, advances.eq_nil otherEnough]
      | succ other =>
          have further : (round trail).flatMap (upTo greedy round count) =
              (round trail).flatMap (upTo greedy round other) := by
            refine List.flatMap_congr fun after member => ?_
            have shorter := advances trail after member
            exact ih (by omega) (by omega)
          simp only [upTo, further]

/-- In a longer text a pattern ends where it ends in the text itself, or beyond the text. -/
theorem keeps_ends {frame : Frame} (separates : frame.Separates) {pattern : Pattern}
    (proper : pattern.isProper = true) (isLocal : pattern.isLocal = true) :
    frame.Keeps pattern.ends := by
  -- Only texts, sets of characters and edges of words look at what follows; the other cases
  -- put together what their parts keep.
  induction pattern with
  | empty => exact Frame.keeps_singleton frame
  | literal text =>
      refine ⟨fun trail => ?_, fun trail after member => (reaches_of_ends member).rest_le⟩
      simp only [ends, Frame.trail, Trail.moved]
      rcases frame.skip?_place text trail.cursor with ⟨last, inner, outer⟩ | ⟨inner, outer⟩
      · rw [inner, outer]
        exact List.filter_cons_of_pos (frame.holds_trail (trail.moved last))
      · rw [inner]
        cases skipped : Cursor.skip? text (frame.place trail.cursor) with
        | none => rfl
        | some last =>
            have shorter := outer last skipped
            exact List.filter_cons_of_neg (frame.not_holds shorter)
  | one set =>
      refine ⟨fun trail => ?_, fun trail after member => (reaches_of_ends member).rest_le⟩
      simp only [ends, Frame.trail, Trail.moved, Frame.place]
      cases follows : trail.cursor.rest with
      | nil =>
          cases behind : frame.rest with
          | nil => rfl
          | cons c rest =>
              simp only [List.nil_append, List.map_nil]
              split
              · have shorter : rest.length < frame.rest.length := by simp [behind]
                exact List.filter_cons_of_neg (frame.not_holds shorter)
              · rfl
      | cons c rest =>
          simp only [List.cons_append]
          split
          · have next : frame.place (trail.cursor.next c rest) =
                (frame.place trail.cursor).next c (rest ++ frame.rest) := frame.place_next c rest
            have framed := frame.holds_trail (trail.moved (trail.cursor.next c rest))
            simp only [Frame.trail, Trail.moved, next] at framed
            rw [List.map_singleton, Frame.trail, Trail.moved, next]
            exact List.filter_cons_of_pos framed
          · rfl
  | assert condition =>
      refine ⟨fun trail => ?_, fun trail after member => (reaches_of_ends member).rest_le⟩
      cases condition with
      | word edge =>
          have same : (Assertion.word edge).holds (frame.trail trail).cursor =
              (Assertion.word edge).holds trail.cursor := separates.atEdge_place edge trail.cursor
          rw [ends, ends, same]
          split
          · exact List.filter_cons_of_pos (frame.holds_trail trail)
          · rfl
      | _ => simp [Pattern.isLocal] at isLocal
  | seq first second ihFirst ihSecond =>
      obtain ⟨firstProper, secondProper⟩ := Bool.and_eq_true_iff.mp proper
      obtain ⟨firstLocal, secondLocal⟩ := Bool.and_eq_true_iff.mp isLocal
      exact (ihFirst firstProper firstLocal).flatMap (ihSecond secondProper secondLocal)
  | alt first second ihFirst ihSecond =>
      obtain ⟨firstProper, secondProper⟩ := Bool.and_eq_true_iff.mp proper
      obtain ⟨firstLocal, secondLocal⟩ := Bool.and_eq_true_iff.mp isLocal
      exact (ihFirst firstProper firstLocal).append (ihSecond secondProper secondLocal)
  | times greedy least most body ih =>
      cases most with
      | some most =>
          have keeps := ih proper isLocal
          exact (keeps.inTurn least).flatMap (keeps.upTo greedy (most - least))
      | none =>
          obtain ⟨bodyProper, solid⟩ := Bool.and_eq_true_iff.mp proper
          rw [Bool.not_eq_true'] at solid
          have keeps := ih bodyProper isLocal
          refine (keeps.inTurn least).flatMap ⟨fun trail => ?_, fun trail after member => ?_⟩
          · -- The longer text allows more rounds, but those within the text are as many.
            have longer : trail.cursor.rest.length ≤ (frame.trail trail).cursor.rest.length := by
              simp [Frame.trail, Trail.moved, Frame.place]
            have stable : upTo greedy body.ends trail.cursor.rest.length trail =
                upTo greedy body.ends (frame.trail trail).cursor.rest.length trail :=
              upTo_congr (advances_ends solid) (Nat.le_refl _) longer
            have framed := (keeps.upTo greedy (frame.trail trail).cursor.rest.length).filter_eq
              trail
            rw [← stable] at framed
            exact framed
          · have reaches : trail.Reaches after :=
              related_of_upTo Trail.Reaches .refl .trans (fun _ _ here => reaches_of_ends here)
                member
            exact reaches.rest_le
  | group number name body ih =>
      obtain ⟨noName, bodyLocal⟩ := Bool.and_eq_true_iff.mp isLocal
      cases name with
      | some name => simp at noName
      | none => exact ih proper bodyLocal

end Pattern

end Pinpoint
