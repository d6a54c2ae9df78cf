import Pinpoint.Proofs.Document.Places
import Pinpoint.Proofs.Finding.Lookup
import Pinpoint.Proofs.Lookup.Located

/-!
# Ranges of findings

Whatever a finding says, its range stands on one line of the document and comes
with the text that is there.  A range that was located starts at or behind the
place of the finding, and holds the token that the message names.
-/

namespace Pinpoint

namespace ResolvedRange

/-- How the range of a finding on a line comes about. -/
inductive Resolves (document : IndexedText) (finding : Finding) (rule : Option Rule)
    (line : Line) : ResolvedRange → Prop
  | fallback : Resolves document finding rule line (default line)
  | indentation (known : Rule) (ruleEq : rule = some known)
      (targetEq : known.target = .indentation) :
      Resolves document finding rule line (onLine line 0 line.firstNonBlank .indentation)
  | token (known : Rule) (ruleEq : rule = some known) (kind : TokenKind)
      (targetEq : known.target = .token kind) (found : Match)
      (located : locate document.source kind (lineOf document finding)
        (line.byteColumn (finding.column - 1)) (searchFor known finding) = .ok found) :
      Resolves document finding rule line ⟨⟨found.start, found.stop⟩, .token, found.text⟩

theorem resolves_ofFinding {document : IndexedText} {finding : Finding} {line : Line}
    (lineAt : document.line? (lineOf document finding) = some line) (rule : Option Rule) :
    Resolves document finding rule line (ofFinding document finding rule) := by
  rw [ofFinding]
  simp only [lineAt]
  cases rule with
  | none => exact .fallback
  | some known =>
      cases targetEq : known.target with
      | indentation =>
          simp only [targetEq]
          exact .indentation known rfl targetEq
      | token kind =>
          simp only [targetEq]
          cases located : locate document.source kind (lineOf document finding)
              (line.byteColumn (finding.column - 1)) (searchFor known finding) with
          | error error => exact .fallback
          | ok found => exact .token known rfl kind targetEq found located

theorem ofFinding_of_located {document : IndexedText} {finding : Finding} (rule : Rule)
    {line : Line} (lineAt : document.line? (lineOf document finding) = some line)
    {kind : TokenKind} (targetEq : rule.target = .token kind) {found : Match}
    (located : locate document.source kind (lineOf document finding)
      (line.byteColumn (finding.column - 1)) (searchFor rule finding) = .ok found) :
    ofFinding document finding (some rule) =
      ⟨⟨found.start, found.stop⟩, .token, found.text⟩ := by
  simp only [ofFinding, lineAt, targetEq, located]

theorem covers_onLine {document : IndexedText} {line : Line}
    (lineAt : document.line? line.number = some line) {start stop : Nat}
    (startColumn : line.HasColumn start) (stopColumn : line.HasColumn stop)
    (ordered : start ≤ stop) (source : RangeSource) :
    (onLine line start stop source).range.Covers document
      (onLine line start stop source).text := by
  obtain ⟨piece, cut⟩ :=
    Text.exists_between? startColumn.isBoundary stopColumn.isBoundary ordered
  have textEq : (onLine line start stop source).text = piece := Line.slice_of_between? cut
  rw [textEq]
  exact Range.covers_of_between? rfl lineAt cut

theorem covers_default {document : IndexedText} {line : Line}
    (lineAt : document.line? line.number = some line) :
    (default line).range.Covers document (default line).text := by
  have startColumn : line.HasColumn
      (if line.firstNonBlank = line.width then 0 else line.firstNonBlank) := by
    split
    · exact line.hasColumn_zero
    · exact line.hasColumn_firstNonBlank
  exact covers_onLine lineAt startColumn line.hasColumn_width startColumn.le_width _

theorem covers_located {text : Text} {line column : Nat} {found : Match}
    (genuine : found.Genuine text (IndexedText.ofText text).source line column) :
    (Range.mk found.start found.stop).Covers (.ofText text) found.text := by
  obtain ⟨home, homeAt, -, cut⟩ := genuine.onLine
  exact Range.covers_of_between? genuine.sameLine homeAt cut

/-- The range of a finding holds the text that comes with it. -/
theorem covers_of_resolves {text : Text} {finding : Finding} {rule : Option Rule} {line : Line}
    (lineAt : (IndexedText.ofText text).line? (lineOf (.ofText text) finding) = some line)
    {resolved : ResolvedRange}
    (resolves : Resolves (.ofText text) finding rule line resolved) :
    resolved.range.Covers (.ofText text) resolved.text := by
  have numberEq : line.number = lineOf (.ofText text) finding :=
    IndexedText.numbered_source _ _ _ lineAt
  have home : (IndexedText.ofText text).line? line.number = some line := numberEq ▸ lineAt
  cases resolves with
  | fallback => exact covers_default home
  | indentation known ruleEq targetEq =>
      exact covers_onLine home line.hasColumn_zero line.hasColumn_firstNonBlank
        (Nat.zero_le _) _
  | token known ruleEq kind targetEq found located =>
      exact covers_located (genuine_of_locate .indexed located)

theorem atMost_of_genuine {text : Text} {finding : Finding} {line : Line}
    (lineAt : (IndexedText.ofText text).line? (lineOf (.ofText text) finding) = some line)
    {found : Match}
    (genuine : found.Genuine text (IndexedText.ofText text).source
      (lineOf (.ofText text) finding) (line.byteColumn (finding.column - 1))) :
    (Position.mk (lineOf (.ofText text) finding)
      (line.byteColumn (finding.column - 1))).atMost found.start = true := by
  have behind := genuine.behindStart
  have within : line.byteColumn (finding.column - 1) ≤ line.width :=
    (line.hasColumn_byteColumn (finding.column - 1)).le_width
  have sourceLine : (IndexedText.ofText text).source.line?
      (lineOf (.ofText text) finding) = some line := lineAt
  rw [LineSource.clip, sourceLine, Option.map_some, Option.getD_some,
    Nat.min_eq_left within] at behind
  exact behind

end ResolvedRange

/-- The range of a finding holds the text that comes with it.  It is on the line of the
finding, unless it was located: then it starts there or behind, and holds the token that
the message names. -/
theorem ofFinding_covers (text : Text) (finding : Finding) (rule : Option Rule) :
    let document := IndexedText.ofText text
    let number := min (finding.line - 1) (document.source.lineCount - 1)
    let resolved := ResolvedRange.ofFinding document finding rule
    resolved.range.Covers document resolved.text ∧
      (resolved.source ≠ .token → resolved.range.start.line = number) ∧
      (resolved.source = .token →
        (∃ line, document.line? number = some line ∧
          (Position.mk number (line.byteColumn (finding.column - 1))).atMost
            resolved.range.start = true) ∧
        ∀ known, rule = some known →
          ∀ token, (known.readMessage finding.message).token = some token →
            resolved.text = token) := by
  intro document number resolved
  obtain ⟨line, lineAt⟩ := ResolvedRange.exists_line text finding
  have numberEq : line.number = number := IndexedText.numbered_source _ _ _ lineAt
  have resolves : ResolvedRange.Resolves document finding rule line resolved :=
    ResolvedRange.resolves_ofFinding lineAt rule
  have covers := ResolvedRange.covers_of_resolves lineAt resolves
  refine ⟨covers, ?_⟩
  clear_value resolved
  cases resolves with
  | fallback => exact ⟨fun _ => numberEq, fun isToken => nomatch isToken⟩
  | indentation known ruleEq targetEq =>
      exact ⟨fun _ => numberEq, fun isToken => nomatch isToken⟩
  | token known ruleEq kind targetEq found located =>
      have genuine := genuine_of_locate .indexed located
      refine ⟨fun other => absurd rfl other, fun _ =>
        ⟨⟨line, lineAt, ResolvedRange.atMost_of_genuine lineAt genuine⟩, ?_⟩⟩
      intro other otherEq token named
      obtain rfl := Option.some.inj (ruleEq.symm.trans otherEq)
      rw [ResolvedRange.searchFor, named] at located
      exact text_eq_of_locate .indexed located

set_option maxRecDepth 100000 in
/-- The finding is on a line that does not exist, and the token behind a comment with a
character of two bytes. -/
theorem ofFinding_covers_named :
    (ResolvedRange.ofFinding (.ofText "/*é*/message B".toList)
        ⟨[], 9, 2, "\"B\"".toList, [], none⟩
        (some ⟨"MESSAGE_NAMES_UPPER_CAMEL_CASE", .token .messageName, .rename .upperCamel,
          some Rule.namesToken⟩)).text = "B".toList := by
  have named : (Rule.readMessage ⟨"MESSAGE_NAMES_UPPER_CAMEL_CASE", .token .messageName,
      .rename .upperCamel, some Rule.namesToken⟩ "\"B\"".toList).token = some "B".toList := by
    cbv
  have lineAt : (IndexedText.ofText "/*é*/message B".toList).line?
      (ResolvedRange.lineOf (.ofText "/*é*/message B".toList)
        ⟨[], 9, 2, "\"B\"".toList, [], none⟩) = some ⟨0, "/*é*/message B".toList⟩ := by
    cbv
  have fits : (Pattern.exactly "B".toList).fits = true := Pattern.fits_exactly (by decide)
  have located : locate (IndexedText.ofText "/*é*/message B".toList).source .messageName
      (ResolvedRange.lineOf (.ofText "/*é*/message B".toList)
        ⟨[], 9, 2, "\"B\"".toList, [], none⟩) 1 (some (Pattern.wholeWord "B".toList)) =
      .ok ⟨"B".toList, ⟨0, 14⟩, ⟨0, 15⟩⟩ := by
    have compiles : (some (Pattern.wholeWord "B".toList)).map Pattern.parse? =
        (some (Pattern.exactly "B".toList)).map some := by
      rw [Option.map_some, Pattern.parse?_wholeWord, if_pos fits]
      rfl
    rw [locate, Lookup.start_eq rfl lineAt 1 compiles]
    cbv
  have resolvedEq := ResolvedRange.ofFinding_of_located
    ⟨"MESSAGE_NAMES_UPPER_CAMEL_CASE", .token .messageName, .rename .upperCamel,
      some Rule.namesToken⟩ lineAt rfl (by rw [ResolvedRange.searchFor, named]; exact located)
  have isToken := congrArg ResolvedRange.source resolvedEq
  exact ((ofFinding_covers _ _ _).2.2 isToken).2 _ rfl _ named

end Pinpoint
