import Pinpoint.Line
import Pinpoint.LookupError

/-!
# What is left of a line

The columns of a line that remain when some spans are taken out.
-/

namespace Pinpoint

namespace Line

/-- The columns between two bounds; bounds out of order mean that two of the
spans taken out overlap. -/
def gap (line : Line) (start stop : Nat) : Except LookupError (List Span) :=
  if stop < start then .error (.rangeIntersection line.number)
  else if start = stop then .ok []
  else .ok [⟨start, stop⟩]

/-- The columns from `start` on that lie between spans given from left to
right, and after the last of them. -/
def gapsFrom (line : Line) (start : Nat) : List Span → Except LookupError (List Span)
  | [] => line.gap start line.width
  | span :: rest =>
      match line.gap start span.start with
      | .error error => .error error
      | .ok first =>
          match gapsFrom line span.stop rest with
          | .error error => .error error
          | .ok others => .ok (first ++ others)

/-- The columns outside the excluded spans, from left to right.  The spans may
come in any order, but must lie within the line and not overlap. -/
def gaps (line : Line) (excluded : List Span) : Except LookupError (List Span) :=
  if excluded.isEmpty then .ok [line.span]
  else
    match excluded.find? fun span => !line.span.contains span with
    | some span => .error (.rangeBeyondLine line.number span line.width)
    | none => line.gapsFrom 0 (Span.sorted excluded)

end Line

end Pinpoint
