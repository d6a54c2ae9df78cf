import Pinpoint.Pattern.Occurrence
import Pinpoint.Proofs.Pattern.Exploration

/-!
# What a pattern means

A pattern takes a place in a text to the places where its matches end, the preferred one
first.  These places lie behind the start, and truly behind it if the pattern cannot be
empty.
-/

namespace Pinpoint

namespace Pattern

/-- How far a match has come: a thread without its place in a program. -/
structure Trail where
  cursor : Cursor
  entered : List (String × Cursor)
  captures : List (String × Text)

namespace Trail

/-- The start of a match. -/
def start (cursor : Cursor) : Trail :=
  ⟨cursor, [], []⟩

def moved (trail : Trail) (cursor : Cursor) : Trail :=
  { trail with cursor := cursor }

/-- The trail after the start of a text that is kept. -/
def opened (trail : Trail) (name : String) : Trail :=
  { trail with entered := (name, trail.cursor) :: trail.entered }

/-- The trail after the end of a text that is kept. -/
def closed (trail : Trail) (name : String) : Trail :=
  let first := (trail.entered.lookup name).getD trail.cursor
  { trail with captures := (name, first.upTo trail.cursor) :: trail.captures }

/-- The thread that has come as far, at a step of a program. -/
def onStep (step : Nat) (trail : Trail) : Thread :=
  ⟨step, trail.cursor, trail.entered, trail.captures⟩

end Trail

/-- A number of rounds. -/
def inTurn (round : Trail → List Trail) : Nat → Trail → List Trail
  | 0, trail => [trail]
  | count + 1, trail => (round trail).flatMap (inTurn round count)

/-- Up to a number of rounds, as many as possible or as few. -/
def upTo (greedy : Bool) (round : Trail → List Trail) : Nat → Trail → List Trail
  | 0, trail => [trail]
  | count + 1, trail =>
      let further := (round trail).flatMap (upTo greedy round count)
      if greedy then further ++ [trail] else trail :: further

/-- Where the matches of a pattern end, the preferred one first. -/
def ends : Pattern → Trail → List Trail
  | empty, trail => [trail]
  | literal text, trail => ((trail.cursor.skip? text).map trail.moved).toList
  | one set, trail =>
      match trail.cursor.rest with
      | [] => []
      | c :: rest => if set.has c then [trail.moved (trail.cursor.next c rest)] else []
  | assert condition, trail => if condition.holds trail.cursor then [trail] else []
  | seq first second, trail => (first.ends trail).flatMap second.ends
  | alt first second, trail => first.ends trail ++ second.ends trail
  | times greedy least most body, trail =>
      (inTurn body.ends least trail).flatMap fun trail =>
        upTo greedy body.ends ((most.map (· - least)).getD trail.cursor.rest.length) trail
  | group _ none body, trail => body.ends trail
  | group _ (some name) body, trail => (body.ends (trail.opened name)).map (·.closed name)

/-- Every round of an unlimited repetition passes a character. -/
def isProper : Pattern → Bool
  | seq first second => first.isProper && second.isProper
  | alt first second => first.isProper && second.isProper
  | times _ _ none body => body.isProper && !body.canBeEmpty
  | times _ _ (some _) body => body.isProper
  | group _ _ body => body.isProper
  | _ => true

/-! ### Ends lie behind the start -/

section

variable (Related : Trail → Trail → Prop) (refl : ∀ trail, Related trail trail)
  (trans : ∀ {trail middle after}, Related trail middle → Related middle after →
    Related trail after)

include refl trans

theorem related_of_inTurn {round : Trail → List Trail}
    (moves : ∀ trail, ∀ after ∈ round trail, Related trail after) {count : Nat}
    {trail after : Trail} (member : after ∈ inTurn round count trail) : Related trail after := by
  induction count generalizing trail with
  | zero =>
      obtain rfl := List.mem_singleton.mp member
      exact refl _
  | succ count ih =>
      obtain ⟨middle, middleMember, later⟩ := List.mem_flatMap.mp member
      exact trans (moves trail middle middleMember) (ih later)

theorem related_of_upTo {greedy : Bool} {round : Trail → List Trail}
    (moves : ∀ trail, ∀ after ∈ round trail, Related trail after) {count : Nat}
    {trail after : Trail} (member : after ∈ upTo greedy round count trail) :
    Related trail after := by
  induction count generalizing trail with
  | zero =>
      obtain rfl := List.mem_singleton.mp member
      exact refl _
  | succ count ih =>
      have staysOrGoes : after = trail ∨
          after ∈ (round trail).flatMap (upTo greedy round count) := by
        cases greedy <;> simpa [upTo, or_comm] using member
      rcases staysOrGoes with rfl | further
      · exact refl _
      · obtain ⟨middle, middleMember, later⟩ := List.mem_flatMap.mp further
        exact trans (moves trail middle middleMember) (ih later)

/-- What holds between the start and the end of every round holds of a repetition. -/
theorem related_of_times {body : Pattern}
    (moves : ∀ trail, ∀ after ∈ body.ends trail, Related trail after) {greedy : Bool}
    {least : Nat} {most : Option Nat} {trail after : Trail}
    (member : after ∈ (times greedy least most body).ends trail) : Related trail after := by
  obtain ⟨middle, middleMember, later⟩ := List.mem_flatMap.mp member
  exact trans (related_of_inTurn Related refl trans moves middleMember)
    (related_of_upTo Related refl trans moves later)

end

/-- One trail has come to a place from which the other one can be reached. -/
def Trail.Reaches (trail after : Trail) : Prop :=
  after.cursor ∈ trail.cursor.onward

theorem Trail.Reaches.refl (trail : Trail) : trail.Reaches trail :=
  Cursor.self_mem_onward _

theorem Trail.Reaches.trans {trail middle after : Trail} (early : trail.Reaches middle)
    (late : middle.Reaches after) : trail.Reaches after :=
  Cursor.onward_subset early late

theorem Trail.Reaches.rest_le {trail after : Trail} (reaches : trail.Reaches after) :
    after.cursor.rest.length ≤ trail.cursor.rest.length := by
  obtain ⟨passed, restEq, -⟩ := Cursor.reaches_of_mem_onward reaches
  rw [restEq, List.length_append]
  omega

theorem reaches_of_ends {pattern : Pattern} {trail after : Trail}
    (member : after ∈ pattern.ends trail) : trail.Reaches after := by
  induction pattern generalizing trail after with
  | empty =>
      obtain rfl := List.mem_singleton.mp member
      exact .refl _
  | literal text =>
      simp only [ends, Option.mem_toList, Option.map_eq_some_iff] at member
      obtain ⟨cursor, skipped, rfl⟩ := member
      exact Cursor.mem_onward_of_skip? skipped
  | one set =>
      cases follows : trail.cursor.rest with
      | nil => simp [ends, follows] at member
      | cons c rest =>
          simp only [ends, follows] at member
          split at member
          · obtain rfl := List.mem_singleton.mp member
            exact Cursor.next_mem_onward follows
          · simp at member
  | assert condition =>
      simp only [ends] at member
      split at member
      · obtain rfl := List.mem_singleton.mp member
        exact .refl _
      · simp at member
  | seq first second ihFirst ihSecond =>
      obtain ⟨middle, middleMember, later⟩ := List.mem_flatMap.mp member
      exact (ihFirst middleMember).trans (ihSecond later)
  | alt first second ihFirst ihSecond =>
      rcases List.mem_append.mp member with here | there
      · exact ihFirst here
      · exact ihSecond there
  | times greedy least most body ih =>
      exact related_of_times Trail.Reaches .refl .trans (fun _ _ here => ih here) member
  | group number name body ih =>
      cases name with
      | none => exact ih member
      | some name =>
          obtain ⟨inner, innerMember, rfl⟩ := List.mem_map.mp member
          have within : (trail.opened name).Reaches inner := ih innerMember
          exact within

theorem reaches_of_head?_ends {pattern : Pattern} {cursor : Cursor} {trail : Trail}
    (first : (pattern.ends (.start cursor)).head? = some trail) : cursor.Reaches trail.cursor :=
  Cursor.reaches_of_mem_onward (reaches_of_ends (List.mem_of_head? first))

/-- Every round passes a character. -/
def Advances (round : Trail → List Trail) : Prop :=
  ∀ trail, ∀ after ∈ round trail, after.cursor.rest.length < trail.cursor.rest.length

/-- At the end of the text there is no such round. -/
theorem Advances.eq_nil {round : Trail → List Trail} (advances : Advances round) {trail : Trail}
    (ends : trail.cursor.rest.length ≤ 0) : round trail = [] := by
  rw [List.eq_nil_iff_forall_not_mem]
  intro after member
  have shorter := advances trail after member
  omega

theorem Advances.inTurn {round : Trail → List Trail} (advances : Advances round) {count : Nat}
    (positive : count ≠ 0) : Advances (inTurn round count) := by
  intro trail after member
  induction count generalizing trail with
  | zero => exact absurd rfl positive
  | succ count ih =>
      obtain ⟨middle, middleMember, later⟩ := List.mem_flatMap.mp member
      have first := advances trail middle middleMember
      by_cases last : count = 0
      · subst last
        obtain rfl := List.mem_singleton.mp later
        exact first
      · exact (ih last middle later).trans first

/-- The matches of a pattern that cannot be empty pass a character. -/
theorem advances_ends {pattern : Pattern} (solid : pattern.canBeEmpty = false) :
    Advances pattern.ends := by
  intro trail after member
  induction pattern generalizing trail after with
  | empty => simp [canBeEmpty] at solid
  | literal text =>
      simp only [ends, Option.mem_toList, Option.map_eq_some_iff] at member
      obtain ⟨cursor, skipped, rfl⟩ := member
      have restEq := Cursor.eq_append_of_skip? skipped
      have positive := List.length_pos_iff.mpr (List.isEmpty_eq_false_iff.mp solid)
      rw [restEq, List.length_append]
      exact Nat.lt_add_of_pos_left positive
  | one set =>
      cases follows : trail.cursor.rest with
      | nil => simp [ends, follows] at member
      | cons c rest =>
          simp only [ends, follows] at member
          split at member
          · obtain rfl := List.mem_singleton.mp member
            simp [Trail.moved, Cursor.next]
          · simp at member
  | assert condition => simp [canBeEmpty] at solid
  | seq first second ihFirst ihSecond =>
      obtain ⟨middle, middleMember, later⟩ := List.mem_flatMap.mp member
      rcases Bool.and_eq_false_iff.mp solid with firstSolid | secondSolid
      · exact Nat.lt_of_le_of_lt (reaches_of_ends later).rest_le
          (ihFirst firstSolid _ _ middleMember)
      · exact Nat.lt_of_lt_of_le (ihSecond secondSolid _ _ later)
          (reaches_of_ends middleMember).rest_le
  | alt first second ihFirst ihSecond =>
      obtain ⟨firstSolid, secondSolid⟩ := Bool.or_eq_false_iff.mp solid
      rcases List.mem_append.mp member with here | there
      · exact ihFirst firstSolid _ _ here
      · exact ihSecond secondSolid _ _ there
  | times greedy least most body ih =>
      obtain ⟨isSome, bodySolid⟩ := Bool.or_eq_false_iff.mp solid
      obtain ⟨middle, middleMember, later⟩ := List.mem_flatMap.mp member
      have round : Advances body.ends := fun _ _ here => ih bodySolid _ _ here
      have first := round.inTurn (by simpa using isSome) trail middle middleMember
      have second : middle.Reaches after :=
        related_of_upTo Trail.Reaches .refl .trans (fun _ _ here => reaches_of_ends here) later
      exact Nat.lt_of_le_of_lt second.rest_le first
  | group number name body ih =>
      cases name with
      | none => exact ih solid _ _ member
      | some name =>
          obtain ⟨inner, innerMember, rfl⟩ := List.mem_map.mp member
          have shorter : inner.cursor.rest.length < (trail.opened name).cursor.rest.length :=
            ih solid _ _ innerMember
          exact shorter

end Pattern

end Pinpoint
