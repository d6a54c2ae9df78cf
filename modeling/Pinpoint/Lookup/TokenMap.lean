import Pinpoint.Line
import Pinpoint.TokenKind

/-!
# Recorded tokens

The tokens met during a lookup, by kind and in the order of discovery.
-/

namespace Pinpoint

/-- Tokens with their kinds, in the order of discovery. -/
structure TokenMap where
  entries : List (TokenKind × Token)
  deriving DecidableEq

namespace TokenMap

/-- No tokens. -/
def empty : TokenMap :=
  ⟨[]⟩

/-- The tokens of a kind. -/
def get (tokens : TokenMap) (kind : TokenKind) : List Token :=
  tokens.entries.filterMap fun (other, token) => if other = kind then some token else none

/-- The first token of a kind. -/
def first? (tokens : TokenMap) (kind : TokenKind) : Option Token :=
  (tokens.get kind).head?

/-- Whether there is a token of a kind. -/
def contains (tokens : TokenMap) (kind : TokenKind) : Bool :=
  !(tokens.get kind).isEmpty

/-- Record tokens of a kind. -/
def extend (tokens : TokenMap) (kind : TokenKind) (found : List Token) : TokenMap :=
  ⟨tokens.entries ++ found.map (kind, ·)⟩

/-- Record a token. -/
def push (tokens : TokenMap) (kind : TokenKind) (token : Token) : TokenMap :=
  tokens.extend kind [token]

/-- The columns of a line that tokens of a kind cover. -/
def spansOn (tokens : TokenMap) (kind : TokenKind) (line : Line) : List Span :=
  (tokens.get kind).filterMap fun token => token.found.clampTo line

/-- Recorded tokens come after those of the same kind that were there, and do
not change the other kinds. -/
theorem get_extend (tokens : TokenMap) (kind other : TokenKind) (found : List Token) :
    (tokens.extend kind found).get other =
      tokens.get other ++ if kind = other then found else [] := by
  have mapped : ∀ found : List Token,
      (found.map (kind, ·)).filterMap
        (fun entry : TokenKind × Token => if entry.1 = other then some entry.2 else none) =
        if kind = other then found else [] := by
    intro found
    induction found with
    | nil => simp
    | cons token rest ih =>
        by_cases same : kind = other
        · simp_all
        · simp_all
  simp [get, extend, mapped]

end TokenMap

end Pinpoint
