import Mathlib.Data.List.TakeWhile
import Pinpoint.Diagnostic
import Pinpoint.Proofs.Document.Edits
import Pinpoint.Proofs.Finding.Range

/-!
# Edits of fixes

A fix has one edit.  It replaces the text of the range of its finding by another
text, or takes out a token together with the blanks behind it.  The blanks end
where a comment starts, so no edit of a token touches one.
-/

namespace Pinpoint

open Lexer Comment

namespace Rule

theorem exists_token_of_delete {rule : Rule} (member : rule ∈ table)
    (deletes : rule.fix = .delete) : ∃ kind, rule.target = .token kind := by
  have targets : ∀ rule ∈ table, rule.fix = .delete → ∃ kind, rule.target = .token kind := by
    simp [table]
  exact targets rule member deletes

end Rule

namespace Text

/-- Blanks behind a column of code end where the code does. -/
theorem width_blanks_le {left blanks right passed rest : Text}
    (textEq : left ++ (blanks ++ right) = passed ++ rest) (le : width left ≤ width passed)
    (blank : ∀ c ∈ blanks, isBlank c = true) (stops : rest = [] ∨ rest.head? = some '/') :
    width left + width blanks ≤ width passed := by
  induction blanks generalizing left with
  | nil => simpa using le
  | cons c blanks ih =>
      -- The code cannot stop in front of a blank, which is no slash.
      have goesOn : rest ≠ c :: (blanks ++ right) := by
        rintro rfl
        rcases stops with none | slash
        · simp at none
        · obtain rfl : c = '/' := by simpa using slash
          have isBlank := blank '/' List.mem_cons_self
          exact absurd isBlank (by decide)
      have further : width (left ++ [c]) ≤ width passed := by
        rcases List.append_eq_append_iff.mp textEq with
          ⟨middle, rfl, restEq⟩ | ⟨middle, rfl, restEq⟩
        · cases middle with
          | nil => exact absurd restEq.symm goesOn
          | cons d middle =>
              obtain ⟨rfl, -⟩ := List.cons.inj restEq
              simp
        · have empty : width middle = 0 := by
            rw [width_append] at le
            omega
          obtain rfl := width_eq_zero_iff.mp empty
          exact absurd restEq goesOn
      have regrouped : (left ++ [c]) ++ (blanks ++ right) = passed ++ rest := by
        simpa using textEq
      have later := ih regrouped further fun d member => blank d (List.mem_cons_of_mem c member)
      rw [width_append] at later
      simpa [Nat.add_assoc] using later

end Text

namespace Range

/-- A range takes in the blanks that follow another one on its last line, and no more. -/
def TakesBlanks (document : IndexedText) (inner outer : Range) : Prop :=
  ∃ line blanks right, document.line? inner.stop.line = some line ∧
    Text.dropBytes? inner.stop.column line.text = some (blanks ++ right) ∧
    (∀ c ∈ blanks, Text.isBlank c = true) ∧ (∀ c ∈ right.head?, Text.isBlank c = false) ∧
    outer = ⟨inner.start, ⟨inner.stop.line, inner.stop.column + Text.width blanks⟩⟩

/-- A range holds no byte of a comment of a text that is read from a line on. -/
def AvoidsComments (text : Text) (first : Nat) (range : Range) : Prop :=
  ∀ place, range.start.column ≤ place → place < range.stop.column →
    ∀ opened, ¬ CommentAt (marks .code ⟨first, 0⟩ (Text.fromLine first text)) opened
      ⟨range.start.line, place⟩

end Range

/-- An edit changes a document within its range, and nowhere else. -/
def Edit.Changes (document : IndexedText) (edit : Edit) : Prop :=
  ∃ before replaced behind, edit.range.Covers document replaced ∧ edit.newText ≠ replaced ∧
    document.text = before ++ (replaced ++ behind) ∧
    document.offsetAt edit.range.start = Text.width before ∧
    document.offsetAt edit.range.stop = Text.width before + Text.width replaced ∧
    edit.result? document = some (before ++ (edit.newText ++ behind)) ∧
    before ++ (edit.newText ++ behind) ≠ document.text

theorem Edit.changes_of_covers {document : IndexedText} {edit : Edit} {replaced : Text}
    (covers : edit.range.Covers document replaced) (other : edit.newText ≠ replaced) :
    edit.Changes document := by
  obtain ⟨before, behind, textEq, startEq, stopEq, resultEq⟩ := edit.result?_eq covers
  refine ⟨before, replaced, behind, covers, other, textEq, startEq, stopEq, resultEq, ?_⟩
  intro same
  rw [textEq] at same
  exact other (List.append_cancel_right (List.append_cancel_left same))

namespace Fix

variable {document : IndexedText} {rule : Rule} {resolved : ResolvedRange} {fix : Fix}

/-- The two ways in which a fix mends a finding. -/
inductive Mends (document : IndexedText) (rule : Rule) (resolved : ResolvedRange) :
    Fix → Prop
  | replacing (title newText : Text) (keeps : rule.fix ≠ .delete)
      (other : newText ≠ resolved.text) :
      Mends document rule resolved (single title resolved.range newText)
  | deleting (title : Text) (deletes : rule.fix = .delete) :
      Mends document rule resolved (single title (withBlanksAfter document resolved.range) [])

theorem mends_of_replacing {mayEmpty : Bool} {title newText : Text}
    (keeps : rule.fix ≠ .delete) (replaced : replacing resolved mayEmpty title newText = some fix) :
    Mends document rule resolved fix := by
  rw [replacing] at replaced
  split at replaced
  · simp at replaced
  · rename_i changes
    obtain rfl := Option.some.inj replaced
    have other : newText ≠ resolved.text := by
      intro same
      simp [same] at changes
    exact .replacing title newText keeps other

theorem mends_of_ofPrecise {captures : Captures}
    (mended : ofPrecise document rule captures resolved = some fix) :
    Mends document rule resolved fix := by
  rw [ofPrecise] at mended
  cases fixEq : rule.fix with
  | nothing => simp [fixEq] at mended
  | rename letters =>
      simp only [fixEq] at mended
      exact mends_of_replacing (by simp [fixEq]) mended
  | delete =>
      simp only [fixEq, Option.some.injEq] at mended
      subst mended
      exact .deleting _ fixEq
  | renameToExpected | prepend | append | indent =>
      simp only [fixEq] at mended
      obtain ⟨expected, -, replaced⟩ := Option.bind_eq_some_iff.mp mended
      exact mends_of_replacing (by simp [fixEq]) replaced

theorem mends_of_ofRule {captures : Captures}
    (mended : ofRule document rule captures resolved = some fix) :
    resolved.source ≠ .fallback ∧ Mends document rule resolved fix := by
  rw [ofRule] at mended
  split at mended
  · rename_i precise
    refine ⟨?_, mends_of_ofPrecise mended⟩
    rintro isFallback
    simp [ResolvedRange.precise, isFallback] at precise
  · simp at mended

/-- Where the blanks are that a deletion takes in. -/
theorem exists_blanks {text : Text} {range : Range} (covers : range.Covers document text) :
    ∃ line left blanks right, document.line? range.stop.line = some line ∧
      line.text = left ++ (text ++ (blanks ++ right)) ∧
      Text.width left = range.start.column ∧
      Text.width left + Text.width text = range.stop.column ∧
      (∀ c ∈ blanks, Text.isBlank c = true) ∧ (∀ c ∈ right.head?, Text.isBlank c = false) ∧
      withBlanksAfter document range =
        ⟨range.start, ⟨range.stop.line, range.stop.column + Text.width blanks⟩⟩ := by
  obtain ⟨line, lineAt, -, -, cut⟩ := covers.onLine
  obtain ⟨left, rest, lineEq, leftWidth, stopEq⟩ := Text.between?_eq_some_iff.mp cut
  rw [← covers.sameLine] at lineAt
  have widthEq : Text.width left + Text.width text = range.stop.column := by omega
  have restEq : Text.dropBytes? range.stop.column line.text = some rest := by
    rw [lineEq, ← List.append_assoc, ← widthEq, ← Text.width_append]
    exact Text.dropBytes?_width_append _ _
  refine ⟨line, left, rest.takeWhile Text.isBlank, rest.dropWhile Text.isBlank, lineAt, ?_,
    leftWidth, widthEq, fun c member => List.mem_takeWhile_imp member, ?_, ?_⟩
  · rw [List.takeWhile_append_dropWhile, lineEq]
  · intro c isHead
    have stops := List.head?_dropWhile_not Text.isBlank rest
    rw [Option.mem_def.mp isHead] at stops
    exact stops
  · rw [withBlanksAfter]
    simp only [lineAt, restEq, Option.getD_some]
    rfl

end Fix

namespace Range

variable {document : IndexedText} {range : Range} {text : Text}

theorem takesBlanks_withBlanksAfter (covers : range.Covers document text) :
    range.TakesBlanks document (Fix.withBlanksAfter document range) := by
  obtain ⟨line, left, blanks, right, lineAt, lineEq, -, widthEq, blank, stops, rangeEq⟩ :=
    Fix.exists_blanks covers
  refine ⟨line, blanks, right, lineAt, ?_, blank, stops, rangeEq⟩
  rw [lineEq, ← List.append_assoc, ← widthEq, ← Text.width_append]
  exact Text.dropBytes?_width_append _ _

theorem covers_withBlanksAfter (covers : range.Covers document text) :
    ∃ blanks, (Fix.withBlanksAfter document range).Covers document (text ++ blanks) := by
  obtain ⟨line, left, blanks, right, lineAt, lineEq, leftWidth, widthEq, -, -, rangeEq⟩ :=
    Fix.exists_blanks covers
  refine ⟨blanks, ?_⟩
  rw [rangeEq]
  refine covers_of_between? covers.sameLine (covers.sameLine ▸ lineAt) ?_
  refine Text.between?_eq_some_iff.mpr ⟨left, right, ?_, leftWidth, ?_⟩
  · rw [lineEq, List.append_assoc]
  · rw [Text.width_append]
    simp only
    omega

end Range

namespace ResolvedRange

variable {text : Text} {line : Nat} {home : Line} {window : Window} {found : Match}

theorem avoidsComments_located
    (stands : found.StandsIn text (IndexedText.ofText text).source line home window) :
    (Range.mk found.start found.stop).AvoidsComments text line := by
  have bounds := stands.contains.bounds
  intro place placeLe placeLt
  simp only at placeLe placeLt
  exact stands.avoids place (by omega) (by omega)

/-- The blanks behind a token are code, like the token. -/
theorem avoidsComments_withBlanksAfter
    (stands : found.StandsIn text (IndexedText.ofText text).source line home window)
    (covers : (Range.mk found.start found.stop).Covers (.ofText text) found.text) :
    (Fix.withBlanksAfter (.ofText text) ⟨found.start, found.stop⟩).AvoidsComments text line := by
  obtain ⟨other, left, blanks, right, lineAt, lineEq, leftWidth, widthEq, blank, -, rangeEq⟩ :=
    Fix.exists_blanks covers
  have homeAt : (IndexedText.ofText text).line? found.stop.line = some home :=
    covers.sameLine ▸ stands.homeAt
  obtain rfl : home = other := Option.some.inj (homeAt.symm.trans lineAt)
  obtain ⟨passed, rest, stopsEq, passedWidth, stops⟩ := stands.stops
  have bounds := stands.contains.bounds
  have textEq : (left ++ found.text) ++ (blanks ++ right) = passed ++ rest := by
    rw [← stopsEq, lineEq, List.append_assoc]
  have before : Text.width (left ++ found.text) ≤ Text.width passed := by
    rw [Text.width_append]
    simp only at widthEq
    omega
  have within := Text.width_blanks_le textEq before blank stops
  rw [Text.width_append] at within
  intro place placeLe placeLt
  rw [rangeEq] at placeLe placeLt ⊢
  simp only at placeLe placeLt widthEq
  exact stands.avoids place (by omega) (by omega)

/-- A range that is known precisely for a rule about a token has been located. -/
theorem exists_located {finding : Finding} {rule : Rule} {home : Line} {resolved : ResolvedRange}
    (resolves : Resolves (.ofText text) finding (some rule) home resolved)
    (precise : resolved.source ≠ .fallback) {kind : TokenKind}
    (targetEq : rule.target = .token kind) :
    ∃ (found : Match) (home : Line) (window : Window),
      found.StandsIn text (IndexedText.ofText text).source
        (lineOf (.ofText text) finding) home window ∧
      resolved = ⟨⟨found.start, found.stop⟩, .token, found.text⟩ := by
  cases resolves with
  | fallback => exact absurd rfl precise
  | indentation known ruleEq otherTarget =>
      obtain rfl := Option.some.inj ruleEq
      rw [targetEq] at otherTarget
      simp at otherTarget
  | token known ruleEq kind otherTarget found located =>
      obtain ⟨window, member, contains, -⟩ := exists_window_of_locate .indexed located
      obtain ⟨-, -, home, stands⟩ := exists_standsIn .indexed member contains
      exact ⟨found, home, window, stands, rfl⟩

end ResolvedRange

/-- What the edit of a fix does for a finding on a line, whose diagnostic has the given
range. -/
structure Edit.Mends (text : Text) (line : Nat) (rule : Rule) (range : Range)
    (edit : Edit) : Prop where
  changes : edit.Changes (.ofText text)
  keepsRange : rule.fix ≠ .delete → edit.range = range
  takesBlanks : rule.fix = .delete → range.TakesBlanks (.ofText text) edit.range
  avoidsComments : ∀ kind, rule.target = .token kind → edit.range.AvoidsComments text line

theorem Fix.exists_edit {text : Text} {finding : Finding} {rule : Rule} {home : Line}
    (member : rule ∈ Rule.table)
    (lineAt : (IndexedText.ofText text).line?
      (ResolvedRange.lineOf (.ofText text) finding) = some home)
    {resolved : ResolvedRange}
    (resolves : ResolvedRange.Resolves (.ofText text) finding (some rule) home resolved)
    (precise : resolved.source ≠ .fallback) {fix : Fix}
    (mends : Mends (.ofText text) rule resolved fix) :
    ∃ edit, fix.edits = [edit] ∧
      edit.Mends text (ResolvedRange.lineOf (.ofText text) finding) rule resolved.range := by
  have covers := ResolvedRange.covers_of_resolves lineAt resolves
  cases mends with
  | replacing title newText keeps other =>
      refine ⟨⟨resolved.range, newText⟩, rfl, Edit.changes_of_covers covers other,
        fun _ => rfl, fun deletes => absurd deletes keeps, ?_⟩
      intro kind targetEq
      obtain ⟨found, home, window, stands, rfl⟩ :=
        ResolvedRange.exists_located resolves precise targetEq
      exact ResolvedRange.avoidsComments_located stands
  | deleting title deletes =>
      obtain ⟨kind, targetEq⟩ := Rule.exists_token_of_delete member deletes
      obtain ⟨found, home, window, stands, rfl⟩ :=
        ResolvedRange.exists_located resolves precise targetEq
      obtain ⟨blanks, taken⟩ := Range.covers_withBlanksAfter covers
      have nonempty : [] ≠ found.text ++ blanks := by
        obtain ⟨-, -, -, nonempty, -⟩ := stands.contains
        simp [nonempty]
      exact ⟨⟨Fix.withBlanksAfter (.ofText text) ⟨found.start, found.stop⟩, []⟩, rfl,
        Edit.changes_of_covers taken nonempty, fun keeps => absurd deletes keeps,
        fun _ => Range.takesBlanks_withBlanksAfter covers,
        fun _ _ => ResolvedRange.avoidsComments_withBlanksAfter stands covers⟩

theorem Diagnostic.mends_of_mem_fixes {document : IndexedText} {finding : Finding} {fix : Fix}
    (member : fix ∈ (ofFinding document finding).fixes) :
    ∃ rule, Rule.find? finding.rule = some rule ∧
      (ResolvedRange.ofFinding document finding (some rule)).source ≠ .fallback ∧
      fix.Mends document rule (ResolvedRange.ofFinding document finding (some rule)) := by
  obtain ⟨rule, found, mended⟩ := Option.bind_eq_some_iff.mp (Option.mem_toList.mp member)
  rw [found] at mended
  exact ⟨rule, found, Fix.mends_of_ofRule mended⟩

theorem Diagnostic.exists_edit {text : Text} {finding : Finding} {fix : Fix}
    (member : fix ∈ (ofFinding (.ofText text) finding).fixes) :
    ∃ rule edit, Rule.find? finding.rule = some rule ∧ fix.edits = [edit] ∧
      edit.Mends text (ResolvedRange.lineOf (.ofText text) finding) rule
        (ofFinding (.ofText text) finding).range := by
  obtain ⟨rule, found, precise, mends⟩ := mends_of_mem_fixes member
  obtain ⟨home, lineAt⟩ := ResolvedRange.exists_line text finding
  have resolves := ResolvedRange.resolves_ofFinding lineAt (some rule)
  obtain ⟨edit, editEq, does⟩ :=
    Fix.exists_edit (Rule.mem_table_of_find? found) lineAt resolves precise mends
  refine ⟨rule, edit, found, editEq, ?_⟩
  rw [ofFinding, found]
  exact does

/-- Every diagnostic has at most one fix, and none for a range that fell back to the line.
A fix has one edit, which changes the text in the range of the diagnostic, or in this range
and the blanks behind it, and leaves comments alone where it is about a token. -/
theorem edit_of_diagnostic (text : Text) (findings : List Finding) :
    ∀ diagnostic ∈ Diagnostic.ofFindings (.ofText text) findings, ∃ finding ∈ findings,
      diagnostic = Diagnostic.ofFinding (.ofText text) finding ∧
      diagnostic.fixes.length ≤ 1 ∧
      ((ResolvedRange.ofFinding (.ofText text) finding
        (Rule.find? finding.rule)).source = .fallback → diagnostic.fixes = []) ∧
      ∀ fix ∈ diagnostic.fixes, ∃ rule edit, Rule.find? finding.rule = some rule ∧
        fix.edits = [edit] ∧
        edit.Mends text (ResolvedRange.lineOf (.ofText text) finding) rule
          diagnostic.range := by
  intro diagnostic member
  obtain ⟨finding, findingMember, rfl⟩ := List.mem_map.mp member
  refine ⟨finding, findingMember, rfl, Option.length_toList_le, ?_,
    fun fix fixMember => Diagnostic.exists_edit fixMember⟩
  intro fallback
  apply List.eq_nil_iff_forall_not_mem.mpr
  intro fix fixMember
  obtain ⟨rule, found, precise, -⟩ := Diagnostic.mends_of_mem_fixes fixMember
  rw [found] at fallback
  exact precise fallback

set_option maxRecDepth 100000 in
/-- The blanks in front of a comment go with the token, and the comment stays. -/
theorem edit_of_diagnostic_required :
    ∃ edit, (Diagnostic.ofFinding (.ofText "required  //".toList)
        ⟨[], 1, 1, [], "PROTO3_FIELDS_AVOID_REQUIRED".toList, none⟩).fixes =
          [⟨"Remove `required`".toList, [edit]⟩] ∧
      edit.range = .onLine 0 0 10 ∧
      edit.Mends "required  //".toList 0
        ⟨"PROTO3_FIELDS_AVOID_REQUIRED", .token .required, .delete, none⟩ (.onLine 0 0 8) := by
  have fixesEq : (Diagnostic.ofFinding (.ofText "required  //".toList)
      ⟨[], 1, 1, [], "PROTO3_FIELDS_AVOID_REQUIRED".toList, none⟩).fixes =
        [⟨"Remove `required`".toList, [⟨.onLine 0 0 10, []⟩]⟩] := by cbv
  have rangeEq : (Diagnostic.ofFinding (.ofText "required  //".toList)
      ⟨[], 1, 1, [], "PROTO3_FIELDS_AVOID_REQUIRED".toList, none⟩).range = .onLine 0 0 8 := by cbv
  obtain ⟨finding, member, -, -, -, edits⟩ := edit_of_diagnostic "required  //".toList
    [⟨[], 1, 1, [], "PROTO3_FIELDS_AVOID_REQUIRED".toList, none⟩] _ List.mem_cons_self
  obtain rfl := List.mem_singleton.mp member
  rw [fixesEq, rangeEq] at edits
  obtain ⟨rule, edit, found, editEq, does⟩ := edits _ List.mem_cons_self
  obtain rfl : _ = rule := Option.some.inj found
  obtain rfl : _ = edit := (List.cons.inj editEq).1
  exact ⟨_, fixesEq, rfl, does⟩

end Pinpoint
