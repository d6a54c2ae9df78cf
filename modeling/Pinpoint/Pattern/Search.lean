import Pinpoint.Line
import Pinpoint.Pattern.Occurrence

/-!
# Searching a line

Occurrences of a pattern within given columns of a line.  The columns searched
are a text of their own: the pattern does not see what lies around them.
-/

namespace Pinpoint

namespace Line

/-- The first `limit` elements, where a limit of zero stands for all. -/
def limited {α : Type} (limit : Nat) (found : List α) : List α :=
  if limit = 0 then found else found.take limit

/-- Matches of a pattern within a span, from column `from` on. -/
def matchesIn (line : Line) (pattern : Pattern) (first : Nat) (seek : Span) :
    List Match :=
  let stop := min seek.stop line.width
  let start := max seek.start first
  if stop ≤ start then []
  else
    match Text.between? start stop line.text with
    | none => []
    | some window =>
        (pattern.occurrences window).map fun found =>
          Match.onLine line ⟨start + found.start, start + found.stop⟩

/-- Up to `limit` matches of a pattern within a span; no limit if it is
zero. -/
def findIn (line : Line) (seek : Span) (pattern : Pattern) (first limit : Nat) :
    List Match :=
  limited limit (line.matchesIn pattern first seek)

/-- Up to `limit` matches of a pattern within several spans, one after the
other; no limit if it is zero. -/
def findInSpans (line : Line) (spans : List Span) (pattern : Pattern)
    (first limit : Nat) : List Match :=
  match spans with
  | [] => []
  | span :: rest =>
      let found := line.findIn span pattern first limit
      if limit = 0 then found ++ line.findInSpans rest pattern first 0
      else if limit ≤ found.length then found
      else found ++ line.findInSpans rest pattern first (limit - found.length)

end Line

end Pinpoint
