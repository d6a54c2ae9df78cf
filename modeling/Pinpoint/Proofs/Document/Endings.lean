-- All of Mathlib, for the equations with which `cbv` runs a search on a text.
import Mathlib
import Pinpoint.Editor
import Pinpoint.Proofs.Code.Blanked

/-!
# Line endings

Nothing that is said about the findings of a document looks behind the end of its lines.
Documents with the same lines have the same diagnostics, which are printed and shown to an
editor in the same way, and a carriage return in front of every line feed leaves the lines
as they are.
-/

namespace Pinpoint

namespace Text

/-- A text with a carriage return in front of every line feed. -/
def withReturns (text : Text) : Text :=
  text.flatMap fun c => if c = '\n' then ['\r', '\n'] else [c]

theorem withReturns_cons_newline (rest : Text) :
    withReturns ('\n' :: rest) = '\r' :: '\n' :: withReturns rest := rfl

theorem withReturns_cons_of_ne {c : Char} (other : c ≠ '\n') (rest : Text) :
    withReturns (c :: rest) = c :: withReturns rest := by
  rw [withReturns, List.flatMap_cons, if_neg other]
  rfl

end Text

namespace LineSource

theorem rowOf_cons {c : Char} (other : c ≠ '\r') (raw : Text) :
    rowOf (c :: raw) = c :: rowOf raw := by
  by_cases returns : raw.getLast? = some '\r'
  · have rawEq := (List.dropLast_append_getLast? _ returns).symm
    generalize raw.dropLast = row at rawEq
    rw [rawEq, ← List.cons_append, rowOf_append_return, rowOf_append_return]
  · rw [rowOf_of_ne returns]
    apply rowOf_of_ne
    rw [List.getLast?_cons]
    cases last : raw.getLast? with
    | none => simpa using other
    | some d => simpa [last] using returns

theorem rowsOf_cons_newline (rest : Text) : rowsOf ('\n' :: rest) = [] :: rowsOf rest := by
  rw [rowsOf, Text.splitLines_cons_newline]
  rfl

theorem rowsOf_cons_of_ne {c : Char} (notFeed : c ≠ '\n') (notReturn : c ≠ '\r')
    (rest : Text) : rowsOf (c :: rest) = (rowsOf rest).modifyHead (c :: ·) := by
  rw [rowsOf, rowsOf, Text.splitLines_cons_of_ne notFeed]
  cases Text.splitLines rest with
  | nil => rfl
  | cons first others =>
      simp only [List.modifyHead_cons, List.map_cons, rowOf_cons notReturn]

/-- A carriage return in front of every line feed leaves the lines as they are. -/
theorem rowsOf_withReturns {text : Text} (plain : '\r' ∉ text) :
    rowsOf text.withReturns = rowsOf text := by
  induction text with
  | nil => rfl
  | cons c rest ih =>
      rw [List.mem_cons, not_or] at plain
      obtain ⟨notReturn, restPlain⟩ := plain
      by_cases newline : c = '\n'
      · subst newline
        rw [Text.withReturns_cons_newline, rowsOf_cons_newline, ← ih restPlain, rowsOf,
          Text.splitLines_cons_of_ne (by decide), Text.splitLines_cons_newline]
        rfl
      · rw [Text.withReturns_cons_of_ne newline, rowsOf_cons_of_ne newline (Ne.symm notReturn),
          rowsOf_cons_of_ne newline (Ne.symm notReturn), ih restPlain]

theorem source_eq_of_rowsOf {text other : Text} (same : rowsOf other = rowsOf text) :
    other.source = text.source := by
  have count : other.source.lineCount = text.source.lineCount := by
    have lengths := congrArg List.length same
    rwa [rowsOf, rowsOf, List.length_map, List.length_map] at lengths
  have lines : other.source.line? = text.source.line? := by
    funext number
    have lineAt := (IsOf.plain : IsOf text text.source).rows 0 |>.line?_eq number
    have otherAt := (IsOf.plain : IsOf other other.source).rows 0 |>.line?_eq number
    rw [List.drop_zero, Nat.zero_add] at lineAt otherAt
    rw [lineAt, otherAt, same]
  exact congrArg₂ LineSource.mk count lines

end LineSource

/-! ### Documents with the same lines -/

section SameLines

variable {document other : IndexedText}

theorem IndexedText.line?_of_source (same : other.source = document.source) :
    other.line? = document.line? :=
  congrArg LineSource.line? same

theorem ResolvedRange.ofFinding_of_source (same : other.source = document.source)
    (finding : Finding) (rule : Option Rule) :
    ofFinding other finding rule = ofFinding document finding rule := by
  rw [ofFinding, ofFinding, lineOf, lineOf, same, IndexedText.line?_of_source same]

theorem Fix.ofRule_of_source (same : other.source = document.source) :
    ofRule other = ofRule document := by
  funext rule captures resolved
  have blanks : withBlanksAfter other = withBlanksAfter document := by
    funext range
    rw [withBlanksAfter, withBlanksAfter, IndexedText.line?_of_source same]
  rw [ofRule, ofRule, ofPrecise, ofPrecise, blanks]

theorem Diagnostic.ofFinding_of_source (same : other.source = document.source)
    (finding : Finding) : ofFinding other finding = ofFinding document finding := by
  rw [ofFinding, ofFinding, ResolvedRange.ofFinding_of_source same,
    Fix.ofRule_of_source same]

theorem Diagnostic.format_of_source (same : other.source = document.source) (file : Text)
    (diagnostic : Diagnostic) :
    format file other diagnostic = format file document diagnostic := by
  have columns : printedColumn other = printedColumn document := by
    funext position
    rw [printedColumn, printedColumn, IndexedText.line?_of_source same]
  rw [format, format, columns]

theorem Editor.Area.ofRange_of_source (same : other.source = document.source) :
    ofRange other = ofRange document := by
  have places : Place.ofPosition other = Place.ofPosition document := by
    funext position
    rw [Place.ofPosition, Place.ofPosition, IndexedText.line?_of_source same]
  funext range
  rw [ofRange, ofRange, places]

end SameLines

/-- Line endings do not matter: with a carriage return in front of every line feed a text
has the same diagnostics, with the same fixes, and each is printed and shown to an editor
as before. -/
theorem diagnostics_withReturns {text : Text} (plain : '\r' ∉ text) (findings : List Finding) :
    let document := IndexedText.ofText text
    let other := IndexedText.ofText text.withReturns
    Diagnostic.ofFindings other findings = Diagnostic.ofFindings document findings ∧
      ∀ diagnostic,
        (∀ file, Diagnostic.format file other diagnostic =
          Diagnostic.format file document diagnostic) ∧
        Editor.Published.ofDiagnostic other diagnostic =
          Editor.Published.ofDiagnostic document diagnostic := by
  intro document other
  have same : other.source = document.source := by
    rw [IndexedText.source_ofText, IndexedText.source_ofText]
    exact LineSource.source_eq_of_rowsOf (LineSource.rowsOf_withReturns plain)
  refine ⟨?_, fun diagnostic => ⟨?_, ?_⟩⟩
  · rw [Diagnostic.ofFindings, Diagnostic.ofFindings]
    exact List.map_congr_left fun finding _ => Diagnostic.ofFinding_of_source same finding
  · intro file
    exact Diagnostic.format_of_source same file diagnostic
  · rw [Editor.Published.ofDiagnostic, Editor.Published.ofDiagnostic,
      Editor.Area.ofRange_of_source same]

set_option maxRecDepth 4096 in
/-- The blank that is deleted with the word ends in front of the carriage return. -/
theorem diagnostics_withReturns_required :
    Diagnostic.ofFindings (.ofText "required \r\n".toList)
        [⟨[], 1, 1, [], "PROTO3_FIELDS_AVOID_REQUIRED".toList, none⟩] =
      [⟨.onLine 0 0 8, .warning, "PROTO3_FIELDS_AVOID_REQUIRED".toList, [],
        [⟨"Remove `required`".toList, [⟨.onLine 0 0 9, []⟩]⟩]⟩] := by
  have plain : '\r' ∉ "required \n".toList := by decide
  have endings : Text.withReturns "required \n".toList = "required \r\n".toList := by decide
  rw [← endings, (diagnostics_withReturns plain _).1]
  cbv

end Pinpoint
