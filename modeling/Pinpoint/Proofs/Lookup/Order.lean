import Pinpoint.Proofs.Lookup.Recorded

/-!
# The order that a lookup keeps

However often a lookup is run, its tasks are done one after the other and each records
one token, the recorded tokens stand one after the other in the lines that have been
read, and the cursor stands behind them and never goes back.
-/

namespace Pinpoint

/-- A match is a text on one line that is not empty. -/
structure Match.Whole (found : Match) : Prop where
  sameLine : found.start.line = found.stop.line
  start_lt : found.start.column < found.stop.column
  nonempty : found.text ≠ []

namespace Lookup

/-! ### Where tokens and cursor stand -/

/-- The place of the cursor. -/
def place (lookup : Lookup) : Position :=
  ⟨lookup.cursor.line, lookup.cursor.column⟩

/-- The width of the line of the cursor; behind the last line there is no room. -/
def room (lookup : Lookup) : Nat :=
  ((lookup.document.line? lookup.cursor.line).map Line.width).getD 0

theorem room_of_line? {lookup : Lookup} {home : Line}
    (homeAt : lookup.document.line? lookup.cursor.line = some home) :
    lookup.room = home.width := by
  rw [room, homeAt]
  rfl

/-- A match lies within the lines from a first one up to the one of the cursor. -/
structure Lies (line : Nat) (lookup : Lookup) (found : Match) : Prop where
  line_le : line ≤ found.start.line
  lines_le : found.start.line ≤ found.stop.line
  stop_le : found.stop.line ≤ lookup.cursor.line
  within : ∃ home, lookup.document.line? found.stop.line = some home ∧
    found.stop.column ≤ home.width

theorem Lies.mono {line : Nat} {before after : Lookup} {found : Match}
    (lies : before.Lies line found) (documentEq : after.document = before.document)
    (lineLe : before.cursor.line ≤ after.cursor.line) : after.Lies line found where
  line_le := lies.line_le
  lines_le := lies.lines_le
  stop_le := Nat.le_trans lies.stop_le lineLe
  within := documentEq ▸ lies.within

/-- The tokens of a lookup that started on a line stand where it has been, those on the
way to the target in the order of discovery, and the cursor stands behind them. -/
structure Placed (line : Nat) (lookup : Lookup) : Prop where
  regular : lookup.document.Regular
  line_le : line ≤ lookup.cursor.line
  line_le_count : lookup.cursor.line ≤ lookup.document.lineCount
  column_le : lookup.cursor.column ≤ lookup.room
  opened : ∀ position, lookup.comments = .opened position →
    line ≤ position.line ∧ position.line ≤ lookup.cursor.line
  lies : ∀ entry ∈ lookup.tokens.entries, lookup.Lies line entry.2.found
  whole : ∀ entry ∈ lookup.recorded, entry.2.found.Whole
  ordered : lookup.recorded.Pairwise fun left right =>
    left.2.found.stop.atMost right.2.found.start = true
  behind : ∀ entry ∈ lookup.recorded, entry.2.found.stop.atMost lookup.place = true
  here : ∀ entry ∈ lookup.recorded, entry.1 = lookup.target →
    entry.2.found.start.line = lookup.cursor.line

theorem placed_fresh {document : LineSource} (regular : document.Regular) (kind : TokenKind)
    (tasks : List Task) (pattern : Option Pattern) {line column : Nat} {home : Line}
    (homeAt : document.line? line = some home) (columnLe : column ≤ home.width) :
    (fresh document kind tasks pattern line column).Placed line where
  regular := regular
  line_le := Nat.le_refl line
  line_le_count := Nat.le_of_lt (regular.lt_lineCount line home homeAt)
  column_le := by
    rw [room_of_line? homeAt]
    exact columnLe
  opened position opened := by simp [fresh] at opened
  lies entry member := by simp [fresh, TokenMap.empty] at member
  whole entry member := by simp [fresh, recorded, TokenMap.empty] at member
  ordered := List.Pairwise.nil
  behind entry member := by simp [fresh, recorded, TokenMap.empty] at member
  here entry member := by simp [fresh, recorded, TokenMap.empty] at member

variable {line : Nat} {lookup : Lookup} {home : Line}

theorem Placed.waitingFor (placed : lookup.Placed line) (tasks : List Task) :
    (lookup.waitingFor tasks).Placed line where
  regular := placed.regular
  line_le := placed.line_le
  line_le_count := placed.line_le_count
  column_le := placed.column_le
  opened := placed.opened
  lies entry member := (placed.lies entry member).mono rfl (Nat.le_refl _)
  whole := placed.whole
  ordered := placed.ordered
  behind := placed.behind
  here := placed.here

/-- The comments of a line end there, and start there or where one was open before. -/
theorem Placed.scanComments (placed : lookup.Placed line)
    (homeAt : lookup.document.line? lookup.cursor.line = some home) :
    (lookup.scanComments home).Placed line := by
  have numberEq : home.number = lookup.cursor.line := placed.regular.number_eq _ _ homeAt
  have widthEq : 0 + Text.width home.text = home.width := Nat.zero_add _
  have recordedEq := lookup.recorded_scanComments home
  refine
    { regular := placed.regular
      line_le := placed.line_le
      line_le_count := placed.line_le_count
      column_le := placed.column_le
      opened := ?_
      lies := ?_
      whole := recordedEq ▸ placed.whole
      ordered := recordedEq ▸ placed.ordered
      behind := recordedEq ▸ placed.behind
      here := recordedEq ▸ placed.here }
  · intro position opened
    rcases Comment.eq_of_scanFrom_opened lookup.comments 0 home.text opened with here | before
    · rw [here, numberEq]
      exact ⟨placed.line_le, Nat.le_refl _⟩
    · exact placed.opened position before
  · intro entry member
    rw [entries_scanComments] at member
    rcases List.mem_append.mp member with earlier | now
    · exact (placed.lies entry earlier).mono rfl (Nat.le_refl _)
    · obtain ⟨comment, reported, rfl⟩ := List.mem_map.mp now
      have stopEq := Comment.stop_line_of_mem_scanFrom lookup.comments 0 home.text reported
      obtain ⟨stopLe, starts⟩ :=
        Comment.bounds_of_mem_scanFrom lookup.comments 0 home.text widthEq reported
      have startBounds : line ≤ comment.found.start.line ∧
          comment.found.start.line ≤ lookup.cursor.line := by
        rcases starts with here | before
        · rw [here, numberEq]
          exact ⟨placed.line_le, Nat.le_refl _⟩
        · exact placed.opened _ before
      have stopLine : comment.found.stop.line = lookup.cursor.line := stopEq.trans numberEq
      refine ⟨startBounds.1, ?_, Nat.le_of_eq stopLine, home, ?_, stopLe⟩
      · simp only [stopLine]
        exact startBounds.2
      · simp only [stopLine]
        exact homeAt

/-- A token is recorded behind all the others, and the cursor moves behind it. -/
theorem Placed.record (placed : lookup.Placed line)
    (homeAt : lookup.document.line? lookup.cursor.line = some home) {kind : TokenKind}
    (other : kind ≠ .comment) {found : Match} (piece : found.IsPiece home lookup.cursor.column) :
    (lookup.record (kind, found)).Placed line := by
  have numberEq : home.number = lookup.cursor.line := placed.regular.number_eq _ _ homeAt
  have startLine : found.start.line = lookup.cursor.line := piece.startLine.trans numberEq
  have stopLine : found.stop.line = lookup.cursor.line := piece.stopLine.trans numberEq
  have firstLe := piece.first_le
  have startLt := piece.start_lt
  have stopLe := piece.stop_le
  have columnLe := placed.column_le
  rw [room_of_line? homeAt] at columnLe
  have columnEq : (lookup.record (kind, found)).cursor.column =
      max lookup.cursor.column found.stop.column := rfl
  have lineEq : (lookup.record (kind, found)).cursor.line = lookup.cursor.line := rfl
  have recordedEq := lookup.recorded_record other found
  refine
    { regular := placed.regular
      line_le := placed.line_le
      line_le_count := placed.line_le_count
      column_le := ?_
      opened := placed.opened
      lies := ?_
      whole := ?_
      ordered := ?_
      behind := ?_
      here := ?_ }
  · have roomEq : (lookup.record (kind, found)).room = home.width := room_of_line? homeAt
    rw [roomEq, columnEq]
    omega
  · intro entry member
    rw [entries_record] at member
    rcases List.mem_append.mp member with earlier | last
    · exact (placed.lies entry earlier).mono rfl (Nat.le_refl _)
    · obtain rfl := List.mem_singleton.mp last
      have lineLe := placed.line_le
      refine ⟨?_, ?_, ?_, home, ?_, stopLe⟩
      · simp only [startLine]
        exact lineLe
      · simp only [startLine, stopLine]
        exact Nat.le_refl _
      · exact Nat.le_of_eq stopLine
      · simp only [stopLine]
        exact homeAt
  · intro entry member
    rw [recordedEq] at member
    rcases List.mem_append.mp member with earlier | last
    · exact placed.whole entry earlier
    · obtain rfl := List.mem_singleton.mp last
      exact ⟨startLine.trans stopLine.symm, startLt, piece.nonempty⟩
  · rw [recordedEq, List.pairwise_append]
    refine ⟨placed.ordered, List.pairwise_singleton _ _, ?_⟩
    intro entry member next isNext
    obtain rfl := List.mem_singleton.mp isNext
    have placeLe : lookup.place.atMost found.start = true := by
      rw [Position.atMost_iff]
      exact Or.inr ⟨startLine.symm, firstLe⟩
    exact Position.atMost_trans (placed.behind entry member) placeLe
  · intro entry member
    rw [recordedEq] at member
    rcases List.mem_append.mp member with earlier | last
    · have before := placed.behind entry earlier
      rw [Position.atMost_iff] at before ⊢
      simp only [place, lineEq, columnEq] at before ⊢
      omega
    · obtain rfl := List.mem_singleton.mp last
      rw [Position.atMost_iff]
      simp only [place, lineEq, columnEq]
      omega
  · intro entry member isTarget
    rw [recordedEq] at member
    rcases List.mem_append.mp member with earlier | last
    · exact placed.here entry earlier isTarget
    · obtain rfl := List.mem_singleton.mp last
      exact startLine

/-- The next line starts behind all the tokens. -/
theorem Placed.nextLine (placed : lookup.Placed line)
    (homeAt : lookup.document.line? lookup.cursor.line = some home)
    (unfound : lookup.tokens.get lookup.target = []) : lookup.nextLine.Placed line := by
  have lineEq : lookup.nextLine.cursor.line = lookup.cursor.line + 1 := rfl
  have lineLe := placed.line_le
  have lineLt := placed.regular.lt_lineCount _ _ homeAt
  refine
    { regular := placed.regular
      line_le := by omega
      line_le_count := lineLt
      column_le := Nat.zero_le _
      opened := ?_
      lies := ?_
      whole := placed.whole
      ordered := placed.ordered
      behind := ?_
      here := ?_ }
  · intro position opened
    have bounds := placed.opened position opened
    omega
  · intro entry member
    exact (placed.lies entry member).mono rfl (Nat.le_succ _)
  · intro entry member
    have before := placed.behind entry member
    rw [Position.atMost_iff] at before ⊢
    simp only [place, lineEq] at before ⊢
    omega
  · intro entry member isTarget
    have found : entry.2 ∈ lookup.tokens.get lookup.target := by
      rw [TokenMap.mem_get]
      have isTarget' : entry.1 = lookup.target := isTarget
      rw [← isTarget']
      exact (mem_recorded.mp member).1
    simp [unfound] at found

theorem Placed.of_moves {before after : Lookup} (placed : before.Placed line)
    (noComment : ∀ task ∈ before.pending, task.kind ≠ .comment) (moves : Moves before after) :
    after.Placed line := by
  cases moves with
  | onLine homeAt acts =>
      cases acts with
      | comments => exact placed.scanComments homeAt
      | cardinality later found pendingEq unmet piece =>
          exact placed.record homeAt (by simp) piece
      | token task later found pendingEq piece =>
          have other := noComment task (pendingEq ▸ List.mem_cons_self)
          exact (placed.record homeAt other piece).waitingFor later
  | nextLine _ homeAt unfound => exact placed.nextLine homeAt unfound

/-- No move takes the cursor back. -/
theorem place_le_of_moves {before after : Lookup} (moves : Moves before after) :
    before.place.atMost after.place = true := by
  rw [Position.atMost_iff]
  cases moves with
  | onLine homeAt acts =>
      cases acts with
      | comments => exact Or.inr ⟨rfl, Nat.le_refl _⟩
      | cardinality later found pendingEq unmet piece => exact Or.inr ⟨rfl, Nat.le_max_left _ _⟩
      | token task later found pendingEq piece => exact Or.inr ⟨rfl, Nat.le_max_left _ _⟩
  | nextLine _ homeAt unfound => exact Or.inl (Nat.lt_succ_self _)

theorem place_le_of_reaches {before after : Lookup} (reaches : before.Reaches after) :
    before.place.atMost after.place = true := by
  induction reaches with
  | refl => exact Position.atMost_refl _
  | tail _ last ih => exact Position.atMost_trans ih (place_le_of_moves last)

end Lookup

end Pinpoint
