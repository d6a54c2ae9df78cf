import Pinpoint.Proofs.Code.Document
import Pinpoint.Proofs.Lookup.Steps

/-!
# The run of a lookup

What lies ahead of a lookup is what its tasks seek in the code from its cursor
on.  A lookup that works on a line keeps what lies ahead of it, and finds it in
the end.
-/

namespace Pinpoint

namespace Task

/-- Tasks of which the last looks for a kind of token.  The kinds that a lookup
records for its own use are left to it, and a field type comes first. -/
def LeadTo (target : TokenKind) : List Task → Prop
  | [] => False
  | [last] => last.kind = target ∧ target ≠ .comment ∧ target ≠ .fieldCardinality
  | task :: next :: later =>
      task.kind ≠ target ∧ task.kind ≠ .comment ∧ fieldType ∉ next :: later ∧
        LeadTo target (next :: later)

theorem LeadTo.target_ne {target : TokenKind} {tasks : List Task}
    (leads : LeadTo target tasks) : target ≠ .comment ∧ target ≠ .fieldCardinality := by
  induction tasks with
  | nil => exact leads.elim
  | cons task later ih =>
      cases later with
      | nil => exact leads.2
      | cons next later => exact ih leads.2.2.2

theorem LeadTo.head_ne {target : TokenKind} {task : Task} {later : List Task}
    (leads : LeadTo target (task :: later)) : task.kind ≠ .comment := by
  cases later with
  | nil => exact leads.1 ▸ leads.2.1
  | cons next later => exact leads.2.1

theorem LeadTo.fieldType_not_mem {target : TokenKind} {task : Task} {later : List Task}
    (leads : LeadTo target (task :: later)) : fieldType ∉ later := by
  cases later with
  | nil => simp
  | cons next later => exact leads.2.2.1

theorem leadTo_of_listFor {kind : TokenKind} {tasks : List Task}
    (listed : listFor kind = some tasks) : LeadTo kind tasks := by
  cases kind <;> simp [listFor] at listed <;> subst listed <;> simp [LeadTo, Task.kind]

end Task


namespace Lookup

/-- What a lookup keeps while it works on a line. -/
structure Keeps (before after : Lookup) : Prop where
  document_eq : after.document = before.document
  target_eq : after.target = before.target
  search_eq : after.search = before.search
  comments_eq : after.comments = before.comments
  line_eq : after.cursor.line = before.cursor.line
  recorded_eq : after.tokens.get .comment = before.tokens.get .comment

theorem Keeps.trans {before middle after : Lookup} (first : before.Keeps middle)
    (second : middle.Keeps after) : before.Keeps after where
  document_eq := second.document_eq.trans first.document_eq
  target_eq := second.target_eq.trans first.target_eq
  search_eq := second.search_eq.trans first.search_eq
  comments_eq := second.comments_eq.trans first.comments_eq
  line_eq := second.line_eq.trans first.line_eq
  recorded_eq := second.recorded_eq.trans first.recorded_eq

/-- A lookup that still has the given tasks to do. -/
def waitingFor (lookup : Lookup) (tasks : List Task) : Lookup :=
  { lookup with pending := tasks }

theorem keeps_waitingFor (lookup : Lookup) (tasks : List Task) :
    lookup.Keeps (lookup.waitingFor tasks) := ⟨rfl, rfl, rfl, rfl, rfl, rfl⟩

theorem get_record (lookup : Lookup) (entry : TokenKind × Match) (kind : TokenKind) :
    (lookup.record entry).tokens.get kind =
      lookup.tokens.get kind ++ if entry.1 = kind then [⟨entry.2, true⟩] else [] :=
  TokenMap.get_extend _ _ _ _

theorem keeps_record (lookup : Lookup) (entry : TokenKind × Match)
    (other : entry.1 ≠ .comment) : lookup.Keeps (lookup.record entry) where
  document_eq := rfl
  target_eq := rfl
  search_eq := rfl
  comments_eq := rfl
  line_eq := rfl
  recorded_eq := by rw [get_record, if_neg other, List.append_nil]

theorem keeps_recordAll (lookup : Lookup) {entries : List (TokenKind × Match)}
    (others : ∀ entry ∈ entries, entry.1 ≠ .comment) :
    lookup.Keeps (entries.foldl record lookup) := by
  induction entries generalizing lookup with
  | nil => exact lookup.keeps_waitingFor lookup.pending
  | cons entry rest ih =>
      have first := lookup.keeps_record entry (others entry List.mem_cons_self)
      exact first.trans (ih _ fun other member => others other (List.mem_cons_of_mem _ member))

theorem get_recordAll_of_ne (lookup : Lookup) {kind : TokenKind}
    {entries : List (TokenKind × Match)} (others : ∀ entry ∈ entries, entry.1 ≠ kind) :
    (entries.foldl record lookup).tokens.get kind = lookup.tokens.get kind := by
  induction entries generalizing lookup with
  | nil => rfl
  | cons entry rest ih =>
      rw [List.foldl_cons, ih _ fun other member => others other (List.mem_cons_of_mem _ member),
        get_record, if_neg (others entry List.mem_cons_self), List.append_nil]

/-- The cursor moves to the end of the last token, if that is the furthest. -/
theorem column_recordAll (lookup : Lookup) (kind : TokenKind)
    {entries : List (TokenKind × Match)} {token : Match}
    (columnLe : lookup.cursor.column ≤ token.stop.column)
    (passedLe : ∀ entry ∈ entries, entry.2.stop.column ≤ token.stop.column) :
    ((entries ++ [(kind, token)]).foldl record lookup).cursor.column = token.stop.column := by
  induction entries generalizing lookup with
  | nil => exact Nat.max_eq_right columnLe
  | cons entry rest ih =>
      have entryLe := passedLe entry List.mem_cons_self
      exact ih (lookup.record entry) (Nat.max_le.mpr ⟨columnLe, entryLe⟩)
        fun other member => passedLe other (List.mem_cons_of_mem _ member)

/-- A lookup after a task has reported its token, together with the cardinalities that
it passed on the way there. -/
def settled (lookup : Lookup) (passed : List Match) (kind : TokenKind) (token : Match) :
    Lookup :=
  (passed.map (TokenKind.fieldCardinality, ·) ++ [(kind, token)]).foldl record lookup

theorem passed_ne {kind : TokenKind} (other : kind ≠ .fieldCardinality) (passed : List Match) :
    ∀ entry ∈ passed.map (TokenKind.fieldCardinality, ·), entry.1 ≠ kind := by
  intro entry member
  obtain ⟨found, -, rfl⟩ := List.mem_map.mp member
  exact Ne.symm other

theorem keeps_settled (lookup : Lookup) (passed : List Match) {kind : TokenKind}
    (other : kind ≠ .comment) (token : Match) :
    lookup.Keeps (lookup.settled passed kind token) := by
  refine lookup.keeps_recordAll fun entry member => ?_
  rcases List.mem_append.mp member with early | last
  · exact passed_ne (by simp) passed entry early
  · rwa [List.mem_singleton.mp last]

theorem get_settled (lookup : Lookup) (passed : List Match) (kind : TokenKind) (token : Match)
    {target : TokenKind} (other : target ≠ .fieldCardinality) :
    (lookup.settled passed kind token).tokens.get target =
      lookup.tokens.get target ++ if kind = target then [⟨token, true⟩] else [] := by
  rw [settled, List.foldl_append, List.foldl_cons, List.foldl_nil, get_record,
    get_recordAll_of_ne _ (passed_ne other passed)]

theorem column_settled (lookup : Lookup) {passed : List Match} (kind : TokenKind)
    {token : Match} (columnLe : lookup.cursor.column ≤ token.stop.column)
    (passedLe : ∀ found ∈ passed, found.stop.column ≤ token.stop.column) :
    (lookup.settled passed kind token).cursor.column = token.stop.column := by
  refine lookup.column_recordAll kind columnLe fun entry member => ?_
  obtain ⟨found, foundMember, rfl⟩ := List.mem_map.mp member
  exact passedLe found foundMember

/-- What the tasks of a lookup seek in windows of code from its cursor on. -/
def ahead (windows : List Window) (lookup : Lookup) : Except LookupError Match :=
  Code.seek windows lookup.search lookup.target (lookup.tokens.contains .fieldCardinality)
    lookup.pending ⟨lookup.cursor.line, lookup.cursor.column⟩

/-- The target has not been found, and the tasks lead to it. -/
structure Awaits (lookup : Lookup) : Prop where
  unrecorded : lookup.tokens.get lookup.target = []
  leads : Task.LeadTo lookup.target lookup.pending

/-- What the work on a line comes to, where the code is given as windows: what lay
ahead of the lookup before is an error, or a token that has been recorded, or it
lies ahead on the next line. -/
inductive Progress (windows : List Window) (before : Lookup) :
    Except LookupError Unit × Lookup → Prop
  | failed (error : LookupError) (after : Lookup)
      (ahead_eq : before.ahead windows = .error error) :
      Progress windows before (.error error, after)
  | found (token : Match) (after : Lookup)
      (recorded : after.tokens.first? after.target = some ⟨token, true⟩)
      (ahead_eq : before.ahead windows = .ok token) :
      Progress windows before (.ok (), after)
  | waiting (after : Lookup) (keeps : before.Keeps after) (awaits : after.Awaits)
      (ahead_eq : before.ahead windows = after.nextLine.ahead windows) :
      Progress windows before (.ok (), after)

theorem Progress.of_keeps {windows : List Window} {before middle : Lookup}
    {outcome : Except LookupError Unit × Lookup} (progress : Progress windows middle outcome)
    (keeps : before.Keeps middle) (ahead_eq : before.ahead windows = middle.ahead windows) :
    Progress windows before outcome := by
  cases progress with
  | failed error after same => exact .failed error after (ahead_eq.trans same)
  | found token after recorded same => exact .found token after recorded (ahead_eq.trans same)
  | waiting after kept awaits same =>
      exact .waiting after (keeps.trans kept) awaits (ahead_eq.trans same)

section

variable {line : Line} {spans : List Span} {windows : List Window} {task : Task}
  {later : List Task} {lookup : Lookup}

theorem runTasks_of_notFound {kind : TokenKind}
    (resolved : task.resolve ⟨line, spans, lookup.cursor.column, lookup.searchFor later⟩
      lookup.tokens = .error (.notFound kind)) :
    runTasks line spans (task :: later) lookup = (.ok (), lookup.waitingFor (task :: later)) := by
  rw [runTasks]
  simp only [resolved]
  rfl

theorem runTasks_of_error {error : LookupError} (other : ∀ kind, error ≠ .notFound kind)
    (resolved : task.resolve ⟨line, spans, lookup.cursor.column, lookup.searchFor later⟩
      lookup.tokens = .error error) :
    runTasks line spans (task :: later) lookup =
      (.error error, lookup.waitingFor (task :: later)) := by
  rw [runTasks]
  simp only [resolved]
  cases error with
  | notFound kind => exact absurd rfl (other kind)
  | _ => rfl

theorem runTasks_of_ok {found : Resolved}
    (resolved : task.resolve ⟨line, spans, lookup.cursor.column, lookup.searchFor later⟩
      lookup.tokens = .ok found) :
    runTasks line spans (task :: later) lookup =
      if found.done then
        runTasks line spans later (found.tokens.foldl record (lookup.waitingFor (task :: later)))
      else (.ok (), found.tokens.foldl record (lookup.waitingFor (task :: later))) := by
  rw [runTasks]
  simp only [resolved]
  rfl

end

section

variable {windows : List Window} {lookup : Lookup} {task : Task} {later : List Task}
  {here : List Match}

/-- The matches ahead of a lookup on a line and on the lines behind. -/
def FindsFirst (windows : List Window) (lookup : Lookup) (pattern : Pattern)
    (here : List Match) : Prop :=
  Code.matchesFrom windows pattern ⟨lookup.cursor.line, lookup.cursor.column⟩ =
    here ++ Code.matchesFrom windows pattern ⟨lookup.cursor.line + 1, 0⟩

theorem ahead_of_missing
    (finds : lookup.FindsFirst windows (task.patternFor (lookup.searchFor later)) [])
    (others : .fieldType ∉ later) :
    (lookup.waitingFor (task :: later)).ahead windows =
      (lookup.waitingFor (task :: later)).nextLine.ahead windows :=
  Code.seek_cons_congr others (congrArg (task.choose _) finds)

theorem ahead_of_refused {error : LookupError}
    (finds : lookup.FindsFirst windows (task.patternFor (lookup.searchFor later)) here)
    (chosen : ∀ further, task.choose (lookup.tokens.contains .fieldCardinality)
      (here ++ further) = .error error) :
    (lookup.waitingFor (task :: later)).ahead windows = .error error :=
  Code.seek_cons_of_error ((congrArg (task.choose _) finds).trans (chosen _))

theorem ahead_of_parked {first : Match}
    (finds : lookup.FindsFirst windows (task.patternFor (lookup.searchFor later)) here)
    (others : .fieldType ∉ later)
    (chosen : ∀ further, task.choose (lookup.tokens.contains .fieldCardinality)
      (here ++ further) = task.choose true further) :
    (lookup.waitingFor (task :: later)).ahead windows =
      ((lookup.waitingFor (task :: later)).record
        (.fieldCardinality, first)).nextLine.ahead windows := by
  have passed : ((lookup.waitingFor (task :: later)).record
      (.fieldCardinality, first)).tokens.contains .fieldCardinality = true := by
    rw [TokenMap.contains, get_record, if_pos rfl]
    simp
  refine Code.seek_cons_congr others (((congrArg (task.choose _) finds).trans (chosen _)).trans ?_)
  exact congrArg (fun flag => task.choose flag _) passed.symm

theorem ahead_of_last {token : Match}
    (finds : lookup.FindsFirst windows (task.patternFor (lookup.searchFor [])) here)
    (chosen : ∀ further, task.choose (lookup.tokens.contains .fieldCardinality)
      (here ++ further) = .ok (some token)) :
    (lookup.waitingFor [task]).ahead windows = .ok token :=
  Code.seek_cons_of_some ((congrArg (task.choose _) finds).trans (chosen _))

theorem ahead_of_settled {token : Match} {after : Lookup} {next : Task}
    (finds : lookup.FindsFirst windows (task.patternFor (lookup.searchFor (next :: later))) here)
    (others : .fieldType ∉ next :: later)
    (chosen : ∀ further, task.choose (lookup.tokens.contains .fieldCardinality)
      (here ++ further) = .ok (some token))
    (keeps : lookup.Keeps after) (lineEq : token.stop.line = lookup.cursor.line)
    (columnEq : after.cursor.column = token.stop.column) :
    (lookup.waitingFor (task :: next :: later)).ahead windows =
      (after.waitingFor (next :: later)).ahead windows := by
  have cursorEq : (⟨after.cursor.line, after.cursor.column⟩ : Position) = token.stop := by
    rw [keeps.line_eq, ← lineEq, columnEq]
  calc (lookup.waitingFor (task :: next :: later)).ahead windows
      = Code.seek windows lookup.search lookup.target
          (lookup.tokens.contains .fieldCardinality) (next :: later) token.stop :=
        Code.seek_cons_of_some ((congrArg (task.choose _) finds).trans (chosen _))
    _ = Code.seek windows after.search after.target
          (after.tokens.contains .fieldCardinality) (next :: later) token.stop := by
        rw [keeps.search_eq, keeps.target_eq, Code.seek_of_not_mem others,
          Code.seek_of_not_mem others (after.tokens.contains _)]
    _ = (after.waitingFor (next :: later)).ahead windows := by
        rw [← cursorEq]
        rfl

end

/-- The tasks that run on a line do what they would do in the code as a whole. -/
theorem runTasks_progress {line : Line} {spans : List Span} {windows : List Window}
    (exposes : line.Exposes spans windows) (tasks : List Task) (lookup : Lookup)
    (lineEq : lookup.cursor.line = line.number)
    (unrecorded : lookup.tokens.get lookup.target = [])
    (leads : Task.LeadTo lookup.target tasks) :
    Progress windows (lookup.waitingFor tasks) (runTasks line spans tasks lookup) := by
  -- By induction on the tasks: a task that is settled leaves a lookup for the later ones,
  -- and any other outcome ends the work on the line.
  induction tasks generalizing lookup with
  | nil => exact leads.elim
  | cons task later ih =>
      have others := leads.fieldType_not_mem
      have finds := exposes.matchesFrom_eq (task.patternFor (lookup.searchFor later))
        lookup.cursor.column
      rw [Line.position, ← lineEq] at finds
      have settles : task.Settles (lookup.tokens.contains .fieldCardinality) _
          (task.resolve ⟨line, spans, lookup.cursor.column, lookup.searchFor later⟩
            lookup.tokens) :=
        task.settles_resolve fun limit => line.findInSpans_limited spans _ _ limit
      have onLine := exposes.onLine (task.patternFor (lookup.searchFor later))
        lookup.cursor.column
      have ordered := exposes.ordered (task.patternFor (lookup.searchFor later))
        lookup.cursor.column
      simp only at settles
      generalize line.findInSpans spans (task.patternFor (lookup.searchFor later))
        lookup.cursor.column 0 = here at finds settles onLine ordered
      generalize resolvedEq : task.resolve _ _ = resolved at settles
      cases settles with
      | missing kind none =>
          rw [runTasks_of_notFound resolvedEq]
          exact .waiting _ (keeps_waitingFor _ _) ⟨unrecorded, leads⟩
            (ahead_of_missing (none ▸ finds) others)
      | refused other chosen =>
          rw [runTasks_of_error other resolvedEq]
          exact .failed _ _ (ahead_of_refused finds chosen)
      | parked first isFieldType unmet foundEq chosen =>
          have noTarget : ((lookup.waitingFor (task :: later)).record
              (.fieldCardinality, first)).tokens.get lookup.target = [] := by
            rw [get_record, if_neg (Ne.symm leads.target_ne.2), List.append_nil]
            exact unrecorded
          rw [runTasks_of_ok resolvedEq]
          exact .waiting _ (keeps_record _ (.fieldCardinality, first) (by simp))
            ⟨noTarget, leads⟩ (ahead_of_parked finds others chosen)
      | settled passed token rest few foundEq chosen =>
          rw [runTasks_of_ok resolvedEq, if_pos rfl]
          obtain ⟨stopLine, columnLe⟩ := onLine token (by simp [foundEq])
          have passedLe : ∀ found ∈ passed, found.stop.column ≤ token.stop.column := by
            rw [foundEq] at ordered
            exact fun found member => (List.pairwise_append.mp ordered).2.2 found member token
              List.mem_cons_self
          -- The cardinalities passed end before the token, so the cursor stands behind it.
          have columnEq := (lookup.waitingFor (task :: later)).column_settled task.kind
            columnLe passedLe
          have keeps := (lookup.waitingFor (task :: later)).keeps_settled passed
            leads.head_ne token
          have targetEq : ((lookup.waitingFor (task :: later)).settled passed task.kind
              token).tokens.get lookup.target =
                if task.kind = lookup.target then [⟨token, true⟩] else [] := by
            rw [get_settled _ _ _ _ leads.target_ne.2]
            exact congrArg (· ++ _) unrecorded
          rw [← settled]
          generalize (lookup.waitingFor (task :: later)).settled passed task.kind token =
            recorded at columnEq keeps targetEq ⊢
          have sameTarget : recorded.target = lookup.target := keeps.target_eq
          cases later with
          | nil =>
              refine .found token (recorded.waitingFor []) ?_ (ahead_of_last finds chosen)
              rw [if_pos leads.1, ← sameTarget] at targetEq
              exact congrArg List.head? targetEq
          | cons next later =>
              rw [if_neg leads.1, ← sameTarget] at targetEq
              refine (ih recorded (keeps.line_eq.trans lineEq) targetEq ?_).of_keeps ?_ ?_
              · rw [sameTarget]
                exact leads.2.2.2
              · exact keeps.trans (recorded.keeps_waitingFor _)
              · exact ahead_of_settled finds others chosen
                  ((lookup.keeps_waitingFor _).trans keeps) (stopLine.trans lineEq.symm) columnEq

/-! ### From line to line -/

open Comment Lexer

/-- A lookup has come to a line: all comments that it knows of end before it, and a
block comment that is open was opened before it. -/
structure Arrives (lookup : Lookup) : Prop where
  opened : ∀ position, lookup.comments = .opened position → position.line < lookup.cursor.line
  ended : ∀ comment ∈ lookup.tokens.get .comment, comment.found.stop.line < lookup.cursor.line

theorem Arrives.carried {lookup : Lookup} (arrives : lookup.Arrives) (text : Text) :
    Carried ⟨lookup.cursor.line, text⟩ 0 lookup.comments := by
  cases stateEq : lookup.comments with
  | closed => trivial
  | opened position =>
      have earlier := arrives.opened position stateEq
      exact ⟨Nat.le_of_lt earlier, Nat.le_of_eq (if_neg (Nat.ne_of_lt earlier))⟩

/-- On a line only its own comments count. -/
theorem Arrives.spansOn_scanComments {lookup : Lookup} (arrives : lookup.Arrives) (text : Text) :
    (lookup.scanComments ⟨lookup.cursor.line, text⟩).tokens.spansOn .comment
        ⟨lookup.cursor.line, text⟩ =
      spansOn ⟨lookup.cursor.line, text⟩
        (scan ⟨lookup.cursor.line, text⟩ lookup.comments).1 := by
  have none_left : (lookup.tokens.get .comment).filterMap
      (fun token => token.found.clampTo ⟨lookup.cursor.line, text⟩) = [] := by
    rw [List.filterMap_eq_nil_iff]
    intro comment member
    rw [Match.clampTo, if_pos (Or.inr (arrives.ended comment member))]
  rw [TokenMap.spansOn, scanComments, TokenMap.get_extend, if_pos rfl, List.filterMap_append,
    none_left]
  rfl

theorem Arrives.nextLine {lookup after : Lookup} (arrives : lookup.Arrives) {text : Text}
    (keeps : (lookup.scanComments ⟨lookup.cursor.line, text⟩).Keeps after) :
    after.nextLine.Arrives where
  opened position opened := by
    have lineEq : after.nextLine.cursor.line = lookup.cursor.line + 1 :=
      congrArg Nat.succ keeps.line_eq
    have lineLe := line_le_of_scanFrom_opened lookup.comments 0 text (arrives.carried text)
      (keeps.comments_eq.symm.trans opened)
    rw [lineEq]
    exact Nat.lt_succ_of_le lineLe
  ended comment member := by
    have lineEq : after.nextLine.cursor.line = lookup.cursor.line + 1 :=
      congrArg Nat.succ keeps.line_eq
    have recorded : comment ∈ lookup.tokens.get .comment ++
        (scan ⟨lookup.cursor.line, text⟩ lookup.comments).1 := by
      have found := keeps.recorded_eq ▸ (show comment ∈ after.tokens.get .comment from member)
      rwa [scanComments, TokenMap.get_extend, if_pos rfl] at found
    rw [lineEq]
    rcases List.mem_append.mp recorded with earlier | here
    · exact Nat.lt_succ_of_lt (arrives.ended comment earlier)
    · exact Nat.lt_succ_of_le (Nat.le_of_eq (stop_line_of_mem_scanFrom _ _ _ here))

theorem ahead_scanComments (windows : List Window) (line : Line) (lookup : Lookup) :
    (lookup.scanComments line).ahead windows = lookup.ahead windows := by
  have same : (lookup.scanComments line).tokens.contains .fieldCardinality =
      lookup.tokens.contains .fieldCardinality := by
    rw [TokenMap.contains, scanComments, TokenMap.get_extend, if_neg (by simp), List.append_nil]
    rfl
  rw [ahead, same]
  rfl

/-- A lookup finds what lies ahead of it. -/
theorem runLines_eq_ahead {texts : List Text} (lookup : Lookup)
    (rows : lookup.document.Rows lookup.cursor.line texts) (arrives : lookup.Arrives)
    (awaits : lookup.Awaits) :
    (runLines texts.length lookup).1 = lookup.ahead (Code.windows
      (marks (.ofState lookup.comments) ⟨lookup.cursor.line, 0⟩ (Text.joinLines texts))) := by
  -- By induction on the lines.  What a line leaves ahead lies behind it, where the windows
  -- of the other lines are all that matters.
  induction texts generalizing lookup with
  | nil =>
      rw [Text.joinLines_nil, marks_nil, Code.windows_nil, ahead, Code.seek_nil]
      rfl
  | cons text others ih =>
      have clear := rows.clear text List.mem_cons_self
      obtain ⟨spans, gapsEq, exposes⟩ :=
        Code.exists_exposes clear (arrives.carried text) others
      rw [← arrives.spansOn_scanComments text] at gapsEq
      rw [List.length_cons, runLines, rows.head]
      simp only [scanLine, gapsEq]
      have unrecorded : (lookup.scanComments ⟨lookup.cursor.line, text⟩).tokens.get
          lookup.target = [] := by
        rw [scanComments, TokenMap.get_extend, if_neg awaits.leads.target_ne.1.symm,
          List.append_nil, awaits.unrecorded]
      have progress : Progress _ (lookup.scanComments ⟨lookup.cursor.line, text⟩) _ :=
        runTasks_progress exposes (lookup.scanComments ⟨lookup.cursor.line, text⟩).pending
          (lookup.scanComments ⟨lookup.cursor.line, text⟩) rfl unrecorded awaits.leads
      rw [← ahead_scanComments _ ⟨lookup.cursor.line, text⟩]
      generalize runTasks _ spans _ _ = outcome at progress ⊢
      cases progress with
      | failed error after same => exact same.symm
      | found token after recorded same =>
          simp only [recorded]
          exact same.symm
      | waiting after keeps later same =>
          have missing : after.tokens.first? after.target = none := by
            rw [TokenMap.first?, later.unrecorded]
            rfl
          simp only [missing, Option.map_none]
          have lineEq : after.nextLine.cursor.line = lookup.cursor.line + 1 :=
            congrArg Nat.succ keeps.line_eq
          have documentEq : after.nextLine.document = lookup.document := keeps.document_eq
          have commentsEq : after.nextLine.comments =
              (scan ⟨lookup.cursor.line, text⟩ lookup.comments).2 := keeps.comments_eq
          have nextRows : after.nextLine.document.Rows after.nextLine.cursor.line others := by
            rw [documentEq, lineEq]
            exact rows.tail
          rw [ih after.nextLine nextRows (arrives.nextLine keeps) ⟨later.unrecorded, later.leads⟩,
            same, commentsEq, lineEq]
          have behind : lookup.cursor.line < after.nextLine.cursor.line :=
            lineEq ▸ Nat.lt_succ_self _
          exact (Code.seek_congr
            (fun pattern position positionBehind => Code.matchesFrom_joinLines_cons_of_lt clear
              lookup.comments positionBehind others pattern)
            (fun window member => Code.line_le_of_mem_windows member) behind _ _).symm

/-! ### The start -/

section

variable {document : LineSource} {kind : TokenKind} {line column : Nat} {search : Option Text}

/-- A lookup that looks for a token by its tasks from the first line on. -/
def fresh (document : LineSource) (kind : TokenKind) (tasks : List Task)
    (pattern : Option Pattern) (line column : Nat) : Lookup :=
  ⟨document, kind, tasks, pattern, .empty, ⟨line, column⟩, .closed⟩

theorem arrives_fresh (tasks : List Task) (pattern : Option Pattern) :
    (fresh document kind tasks pattern line column).Arrives where
  opened position opened := by simp [fresh] at opened
  ended comment member := by simp [fresh, TokenMap.empty, TokenMap.get] at member

theorem start_eq {tasks : List Task} (listed : Task.listFor kind = some tasks) {first : Line}
    (lineAt : document.line? line = some first) (column : Nat) {pattern : Option Pattern}
    (compiles : search.map Pattern.parse? = pattern.map some) :
    start document kind line column search =
      .ok (fresh document kind tasks pattern line (min column first.width)) := by
  rw [start]
  simp only [listed, lineAt]
  cases search with
  | none =>
      cases pattern with
      | none => rfl
      | some pattern => simp at compiles
  | some written =>
      cases pattern with
      | none => simp at compiles
      | some pattern =>
          simp only [Option.map_some, Option.some.injEq] at compiles
          simp only [compiles]
          rfl

/-- A lookup that has begun has tasks, a first line and a pattern that compiles. -/
theorem eq_of_start {lookup : Lookup}
    (started : start document kind line column search = .ok lookup) :
    ∃ tasks first pattern, Task.listFor kind = some tasks ∧
      document.line? line = some first ∧ search.map Pattern.parse? = Option.map some pattern ∧
      lookup = fresh document kind tasks pattern line (min column first.width) := by
  rw [start] at started
  cases listed : Task.listFor kind with
  | none => simp [listed] at started
  | some tasks =>
      cases lineAt : document.line? line with
      | none => simp [listed, lineAt] at started
      | some first =>
          cases search with
          | none =>
              simp only [listed, lineAt, Except.ok.injEq] at started
              exact ⟨tasks, first, none, rfl, rfl, rfl, started.symm⟩
          | some written =>
              cases parsed : Pattern.parse? written with
              | none => simp [listed, lineAt, parsed] at started
              | some pattern =>
                  simp only [listed, lineAt, parsed, Except.ok.injEq] at started
                  exact ⟨tasks, first, some pattern, rfl, rfl, congrArg some parsed,
                    started.symm⟩

end

end Lookup

/-- A lookup that starts afresh finds what its tasks seek in the code from its first
line on. -/
theorem locate_eq_seek {text : Text} {document : LineSource} (isOf : document.IsOf text)
    {kind : TokenKind} {tasks : List Task} (listed : Task.listFor kind = some tasks)
    {line : Nat} {first : Line} (lineAt : document.line? line = some first) (column : Nat)
    {search : Option Text} {pattern : Option Pattern}
    (compiles : search.map Pattern.parse? = pattern.map some) :
    locate document kind line column search =
      Code.seek (document.codeFrom line) pattern kind false tasks
        ⟨line, min column first.width⟩ := by
  have rows := isOf.rows line
  have found := Lookup.runLines_eq_ahead
    (Lookup.fresh document kind tasks pattern line (min column first.width)) rows
    (Lookup.arrives_fresh tasks pattern) ⟨rfl, Task.leadTo_of_listFor listed⟩
  rw [locate, Lookup.start_eq listed lineAt column compiles, rows.codeFrom_eq]
  simp only [Lookup.run, Lookup.fresh, rows.lineCount_eq]
  exact found

end Pinpoint
