import Pinpoint.Proofs.Editor.History
import Pinpoint.Proofs.Editor.Places

/-!
# Fixes at a place

The diagnostics of an open document are always about its text, so that the fixes that a
session offers at a place can be applied to this text.
-/

namespace Pinpoint

namespace Editor

/-! ### Areas that share a place -/

theorem Place.atMost_iff {left right : Place} : left.atMost right = true ↔
    left.line < right.line ∨ left.line = right.line ∧ left.character ≤ right.character := by
  simp [atMost]

namespace Area

variable {left right : Area}

/-- A place in an area, or at one of its ends. -/
structure Has (area : Area) (place : Place) : Prop where
  start_le : area.start.atMost place = true
  le_stop : place.atMost area.stop = true

/-- Areas intersect if they share a place, if only an end. -/
theorem intersects_iff (leftProper : left.start.atMost left.stop = true)
    (rightProper : right.start.atMost right.stop = true) :
    left.intersects right = true ↔ ∃ place, left.Has place ∧ right.Has place := by
  rw [intersects, Bool.and_eq_true]
  constructor
  · rintro ⟨leftStart, rightStart⟩
    -- The later one of the two starts is in both areas.
    by_cases leftFirst : left.start.atMost right.start = true
    · refine ⟨right.start, ⟨leftFirst, rightStart⟩, ⟨?_, rightProper⟩⟩
      rw [Place.atMost_iff]
      exact Or.inr ⟨rfl, Nat.le_refl _⟩
    · have rightFirst : right.start.atMost left.start = true := by
        rw [Place.atMost_iff] at leftFirst ⊢
        omega
      refine ⟨left.start, ⟨?_, leftProper⟩, ⟨rightFirst, leftStart⟩⟩
      rw [Place.atMost_iff]
      exact Or.inr ⟨rfl, Nat.le_refl _⟩
  · rintro ⟨place, inLeft, inRight⟩
    have leftStart := inLeft.start_le
    have leftStop := inLeft.le_stop
    have rightStart := inRight.start_le
    have rightStop := inRight.le_stop
    rw [Place.atMost_iff] at leftStart leftStop rightStart rightStop
    rw [Place.atMost_iff, Place.atMost_iff]
    omega

/-- The area of a range that holds a text ends where it starts, or behind. -/
theorem start_atMost_stop_ofRange {document : IndexedText} {range : Range} {text : Text}
    (covers : range.Covers document text) :
    (ofRange document range).start.atMost (ofRange document range).stop = true := by
  obtain ⟨line, lineAt, -, -, cut⟩ := covers.onLine
  obtain ⟨left, right, textEq, leftWidth, stopEq⟩ := Text.between?_eq_some_iff.mp cut
  have startUnits : line.utf16Column range.start.column = Text.units16 left := by
    rw [← leftWidth]
    exact Line.utf16Column_of_append textEq
  have stopUnits : line.utf16Column range.stop.column =
      Text.units16 left + Text.units16 text := by
    have stopWidth : Text.width (left ++ text) = range.stop.column := by
      rw [Text.width_append, leftWidth, stopEq]
    rw [← stopWidth, ← Text.units16_append]
    exact Line.utf16Column_of_append (textEq.trans (List.append_assoc left text right).symm)
  rw [Place.atMost_iff, ofRange, Place.ofPosition, Place.ofPosition]
  simp only [covers.sameLine, lineAt, startUnits, stopUnits]
  exact Or.inr ⟨trivial, min_le_min_right _ (Nat.le_add_right _ _)⟩

end Area

/-! ### Diagnostics of an open document -/

/-- A document whose numbers of lines and of code units on a line fit into 32 bits. -/
structure Fits (document : IndexedText) : Prop where
  lineCount_lt : document.source.lineCount < 2 ^ 32
  units_lt : ∀ number line, document.line? number = some line → Text.units16 line.text < 2 ^ 32

theorem Fits.counts {text : Text} (fits : Fits (.ofText text)) {position : Position}
    (has : (IndexedText.ofText text).HasPosition position) : Counts (.ofText text) position := by
  have onLine := has
  obtain ⟨line, lineAt, -⟩ := onLine
  have regular := (LineSource.IsOf.indexed : (IndexedText.ofText text).source.IsOf text).regular
  have lineLt := regular.lt_lineCount position.line line lineAt
  exact ⟨has, Nat.lt_trans lineLt fits.lineCount_lt, fits.units_lt position.line⟩

/-- An action has one edit.  Read back by the editor, it replaces a text on one line by
another one. -/
def Action.Mends (document : IndexedText) (action : Action) : Prop :=
  ∃ sent newText range replaced, action.edits = [(sent, newText)] ∧
    sent.range? document = some range ∧ range.Covers document replaced ∧ newText ≠ replaced

theorem Action.mends_ofFix {text : Text} (fits : Fits (.ofText text)) {finding : Finding}
    {fix : Fix} (member : fix ∈ (Diagnostic.ofFinding (.ofText text) finding).fixes) (uri : Uri)
    (published : Published) : (ofFix (.ofText text) uri published fix).Mends (.ofText text) := by
  obtain ⟨rule, edit, -, editsEq, mends⟩ := Diagnostic.exists_edit member
  obtain ⟨before, replaced, behind, covers, other, -⟩ := mends.changes
  have start := fits.counts covers.hasPosition_start
  have stop := fits.counts covers.hasPosition_stop
  refine ⟨.ofRange (.ofText text) edit.range, edit.newText, edit.range, replaced, ?_, ?_, covers,
    other⟩
  · rw [ofFix, editsEq]
    rfl
  · rw [Area.range?, Area.ofRange]
    simp only [start.position?_ofPosition, stop.position?_ofPosition, Option.bind_some,
      Option.map_some]

/-- The diagnostics of a document are findings in its text. -/
theorem exists_findings (snapshot : Snapshot) (found : Option (List Finding)) :
    ∃ findings, (snapshot.document.withFindings found).diagnostics =
      Diagnostic.ofFindings (.ofText snapshot.text) findings := by
  cases found with
  | none => exact ⟨[], rfl⟩
  | some findings => exact ⟨findings, rfl⟩

/-- The area of a diagnostic in a text ends where it starts, or behind. -/
theorem start_atMost_stop_published {text : Text} {findings : List Finding}
    {diagnostic : Diagnostic}
    (member : diagnostic ∈ Diagnostic.ofFindings (.ofText text) findings) :
    (Published.ofDiagnostic (.ofText text) diagnostic).area.start.atMost
      (Published.ofDiagnostic (.ofText text) diagnostic).area.stop = true := by
  obtain ⟨finding, -, rfl⟩ := List.mem_map.mp member
  obtain ⟨home, lineAt⟩ := ResolvedRange.exists_line text finding
  have covers := ResolvedRange.covers_of_resolves lineAt
    (ResolvedRange.resolves_ofFinding lineAt (Rule.find? finding.rule))
  exact Area.start_atMost_stop_ofRange covers

/-- The fixes at a place are those of the diagnostics that reach it. -/
theorem fixesAt_eq (document : Document) (uri : Uri) (area : Area) :
    Session.fixesAt document uri area =
      (document.diagnostics.filter fun diagnostic =>
        (Published.ofDiagnostic document.text diagnostic).area.intersects area).flatMap
          fun diagnostic => diagnostic.fixes.map
            (Action.ofFix document.text uri (Published.ofDiagnostic document.text diagnostic)) := by
  rw [Session.fixesAt]
  induction document.diagnostics with
  | nil => rfl
  | cons diagnostic rest ih =>
      rw [List.flatMap_cons, ih, List.filter_cons]
      simp only
      by_cases meets :
          (Published.ofDiagnostic document.text diagnostic).area.intersects area = true
      · rw [if_pos meets, if_pos meets, List.flatMap_cons]
      · rw [if_neg meets, if_neg meets, List.nil_append]

/-- The fixes that a session offers for an area of a document: none is known if the
document is not open, and otherwise one action for each fix of a diagnostic that shares a
place with the area.  Every action changes the text that the document has now, within one
of its lines. -/
theorem actions_of_history (lint : LintFunction) (options : Option Json)
    {history : List Message} (goesOn : ∀ message ∈ history, message ≠ .goodbye) (uri : Uri)
    (area : Area) :
    ∃ found, ((Session.after lint options history).step lint (.fixesAt uri area)).answer =
        .actions found ∧
      (found = none ↔ (Session.after lint options history).find? uri = none) ∧
      ∀ document, (Session.after lint options history).find? uri = some document →
        found = some ((document.diagnostics.filter fun diagnostic =>
          (Published.ofDiagnostic document.text diagnostic).area.intersects area).flatMap
            fun diagnostic => diagnostic.fixes.map (Action.ofFix document.text uri
              (Published.ofDiagnostic document.text diagnostic))) ∧
        (area.start.atMost area.stop = true → ∀ diagnostic ∈ document.diagnostics,
          (Published.ofDiagnostic document.text diagnostic).area.intersects area = true ↔
            ∃ place, (Published.ofDiagnostic document.text diagnostic).area.Has place ∧
              area.Has place) ∧
        (∃ snapshot, snapshot? uri history = some snapshot ∧
          document.text = .ofText snapshot.text) ∧
        (Fits document.text → ∀ actions, found = some actions → ∀ action ∈ actions,
          action.uri = uri ∧ action.Mends document.text) := by
  have follows := Session.follows_after lint options goesOn
  have stepEq := follows.step_eq (.fixesAt uri area)
  refine ⟨((Session.after lint options history).find? uri).map fun document =>
    Session.fixesAt document uri area, by rw [stepEq]; rfl, Option.map_eq_none_iff, ?_⟩
  intro document isOpen
  have known := isOpen
  rw [follows.find?_eq] at known
  obtain ⟨snapshot, told, rfl⟩ := Option.map_eq_some_iff.mp known
  obtain ⟨findings, diagnosticsEq⟩ :=
    exists_findings snapshot (findings? lint options uri history)
  have textEq : (snapshot.document.withFindings (findings? lint options uri history)).text =
      .ofText snapshot.text := Document.text_withFindings _ _
  rw [isOpen, Option.map_some, fixesAt_eq, diagnosticsEq, textEq]
  refine ⟨rfl, ?_, ⟨snapshot, told, rfl⟩, ?_⟩
  · intro areaProper diagnostic member
    exact Area.intersects_iff (start_atMost_stop_published member) areaProper
  · intro fits actions actionsEq action member
    obtain rfl := Option.some.inj actionsEq
    obtain ⟨diagnostic, meets, isAction⟩ := List.mem_flatMap.mp member
    obtain ⟨fix, fixMember, rfl⟩ := List.mem_map.mp isAction
    obtain ⟨finding, -, rfl⟩ := List.mem_map.mp (List.mem_of_mem_filter meets)
    exact ⟨rfl, Action.mends_ofFix fits fixMember uri _⟩

set_option maxRecDepth 100000 in
/-- The request only touches the end of the diagnostic. -/
theorem actions_of_history_required :
    let uri : Uri := ⟨"file".toList, none, "/a.proto".toList, none, none⟩
    let finding : Finding := ⟨[], 1, 1, [], "PROTO3_FIELDS_AVOID_REQUIRED".toList, none⟩
    let lint : LintFunction := fun _ _ _ => ⟨.ok [finding], []⟩
    ∃ action,
      ((Session.after lint none [.opened uri 1 "required".toList]).step lint
        (.fixesAt uri ⟨⟨0, 8⟩, ⟨0, 8⟩⟩)).answer = .actions (some [action]) ∧
      action.edits = [(⟨⟨0, 0⟩, ⟨0, 8⟩⟩, [])] ∧ action.Mends (.ofText "required".toList) := by
  intro uri finding lint
  have diagnosticEq : Diagnostic.ofFinding (.ofText "required".toList) finding =
      ⟨.onLine 0 0 8, .warning, "PROTO3_FIELDS_AVOID_REQUIRED".toList, [],
        [⟨"Remove `required`".toList, [⟨.onLine 0 0 8, []⟩]⟩]⟩ := by cbv
  have isOpen : (Session.after lint none [.opened uri 1 "required".toList]).find? uri =
      some ⟨.ofText "required".toList, 1,
        [Diagnostic.ofFinding (.ofText "required".toList) finding]⟩ := rfl
  have fits : Fits (.ofText "required".toList) := by
    refine ⟨by decide, ?_⟩
    intro number line lineAt
    have regular :=
      (LineSource.IsOf.indexed : (IndexedText.ofText "required".toList).source.IsOf _).regular
    have numberLt : number < 1 := regular.lt_lineCount number line lineAt
    obtain rfl := Nat.lt_one_iff.mp numberLt
    have first : (IndexedText.ofText "required".toList).line? 0 =
        some ⟨0, "required".toList⟩ := by decide
    obtain rfl := Option.some.inj (first.symm.trans lineAt)
    decide
  have goesOn : ∀ message ∈ [Message.opened uri 1 "required".toList], message ≠ .goodbye := by
    simp
  obtain ⟨found, answerEq, -, known⟩ :=
    actions_of_history lint none goesOn uri ⟨⟨0, 8⟩, ⟨0, 8⟩⟩
  obtain ⟨foundEq, -, -, mends⟩ := known _ isOpen
  rw [diagnosticEq] at foundEq mends
  refine ⟨_, answerEq.trans (congrArg Answer.actions (foundEq.trans rfl)), rfl, ?_⟩
  exact (mends fits _ foundEq _ List.mem_cons_self).2

end Editor

end Pinpoint
