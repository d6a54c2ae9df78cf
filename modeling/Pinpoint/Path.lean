import Pinpoint.Text

/-!
# Paths

Paths are kept as written.  A path starts with a slash, with a dot, or with
neither; its components are the pieces between slashes that are neither empty
nor a dot.
-/

namespace Pinpoint

/-- A path as written. -/
abbrev Path := Text

namespace Path

/-- The pieces of a text between slashes. -/
def pieces : Text → List Text
  | [] => [[]]
  | c :: rest =>
      match pieces rest with
      | [] => [[c]]
      | first :: others =>
          if c = '/' then [] :: first :: others else (c :: first) :: others

/-- Pieces with slashes between them. -/
def join : List Text → Text
  | [] => []
  | [piece] => piece
  | piece :: next :: rest => piece ++ '/' :: join (next :: rest)

/-- What a path starts with, and what follows. -/
def lead : Path → Text × Text
  | '/' :: rest => (['/'], rest)
  | ['.'] => (['.'], [])
  | '.' :: '/' :: rest => (['.'], '/' :: rest)
  | path => ([], path)

/-- Whether a piece is a component. -/
def isComponent (piece : Text) : Bool :=
  piece != [] && piece != ['.']

/-- Pieces without those after the last component. -/
def trimmed (pieces : List Text) : List Text :=
  (pieces.reverse.dropWhile fun piece => !isComponent piece).reverse

/-- The last component of a path, if it is a name. -/
def fileName? (path : Path) : Option Text :=
  match (trimmed (pieces (lead path).2)).getLast? with
  | none => none
  | some name => if name = ['.', '.'] then none else some name

/-- A path without its last component. -/
def parent? (path : Path) : Option Path :=
  let (start, body) := lead path
  match trimmed (pieces body) with
  | [] => if start = ['.'] then some [] else none
  | piece :: rest => some (start ++ join (trimmed (piece :: rest).dropLast))

/-- A path and its parents, nearest first, of which there are at most
`count`. -/
def selfAndParents : Nat → Path → List Path
  | 0, _ => []
  | count + 1, path =>
      path ::
        match parent? path with
        | none => []
        | some parent => selfAndParents count parent

/-- A path and its parents, nearest first.  Every parent is shorter than the
path. -/
def ancestors (path : Path) : List Path :=
  selfAndParents (path.length + 1) path

/-- A name within the folder of a path. -/
def child (folder : Path) (name : Text) : Path :=
  if folder = [] ∨ folder.getLast? = some '/' then folder ++ name
  else folder ++ '/' :: name

end Path

end Pinpoint
