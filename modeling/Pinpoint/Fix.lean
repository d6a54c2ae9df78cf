import Pinpoint.ResolvedRange

/-!
# Fixes

The edit that mends a finding, where its range is known precisely.
-/

namespace Pinpoint

/-- Replace a range by a text. -/
structure Edit where
  range : Range
  newText : Text
  deriving DecidableEq

/-- Edits that belong together, under a title. -/
structure Fix where
  title : Text
  edits : List Edit
  deriving DecidableEq

namespace Fix

/-- A fix of one edit. -/
def single (title : Text) (range : Range) (newText : Text) : Fix :=
  ⟨title, [⟨range, newText⟩]⟩

/-- A word and a text in backticks. -/
def ticked (words : String) (text : Text) : Text :=
  words.toList ++ " `".toList ++ text ++ "`".toList

/-- What separates a name from a word put before or after it: an underscore if
the name has no small letters. -/
def joiner (name : Text) : Text :=
  if name.any Text.isLower then [] else ['_']

/-- A range extended over the blanks that follow it on its last line. -/
def withBlanksAfter (document : IndexedText) (range : Range) : Range :=
  match document.line? range.stop.line with
  | none => range
  | some line =>
      let rest := (Text.dropBytes? range.stop.column line.text).getD []
      ⟨range.start, ⟨range.stop.line, range.stop.column + Text.blankWidth rest⟩⟩

/-- A replacement of a text, under a title, unless nothing changes; an empty
replacement is for blanks only. -/
def replacing (resolved : ResolvedRange) (mayEmpty : Bool) (title newText : Text) :
    Option Fix :=
  if newText = resolved.text || (newText.isEmpty && !mayEmpty) then none
  else some (single title resolved.range newText)

/-- The title of a renaming. -/
def renameTitle (current renamed : Text) : Text :=
  ticked "Rename" current ++ ticked " to" renamed

/-- The fix of a rule for a range that is known precisely. -/
def ofPrecise (document : IndexedText) (rule : Rule) (captures : Captures)
    (resolved : ResolvedRange) : Option Fix :=
  let current := resolved.text
  match rule.fix with
  | .nothing => none
  | .rename letters =>
      let renamed := letters.recase current
      replacing resolved false (renameTitle current renamed) renamed
  | .renameToExpected =>
      captures.expected.bind fun renamed =>
        replacing resolved false (renameTitle current renamed) renamed
  | .prepend =>
      captures.expected.bind fun expected =>
        let front := expected ++ joiner current
        replacing resolved false (ticked "Add prefix" front) (front ++ current)
  | .append =>
      captures.expected.bind fun expected =>
        let back := joiner current ++ expected
        replacing resolved false (ticked "Add suffix" back) (current ++ back)
  | .delete =>
      some (single (ticked "Remove" current) (withBlanksAfter document resolved.range) [])
  | .indent =>
      captures.expected.bind fun indentation =>
        replacing resolved true "Fix indentation".toList indentation

/-- The fix of a rule, if there is one. -/
def ofRule (document : IndexedText) (rule : Rule) (captures : Captures)
    (resolved : ResolvedRange) : Option Fix :=
  if resolved.precise then ofPrecise document rule captures resolved else none

end Fix

end Pinpoint
