import Pinpoint.Surroundings

/-!
# Files on a disk

The files that a program can see, in a list: those whose paths start with a
slash are below the root, and the others below the working folder.  Above the
working folder there are only folders, and nothing else in them.
-/

namespace Pinpoint

/-- Files with their contents, and folders, by their paths. -/
structure Disk where
  files : List (Path × Bytes)
  folders : List Path

/-- What a path leads to. -/
inductive Node where
  | file (content : Bytes)
  | folder

/-- Where a walk along a path is: at a node below the root or below the working
folder, given by the names that lead to it, or above the working folder. -/
inductive Spot where
  | inside (rooted : Bool) (names : List Text)
  | outside

namespace Disk

/-- The names that lead to the place of a path without detours. -/
def namesOf (path : Path) : List Text :=
  (Path.pieces path).filter Path.isComponent

/-- Whether a path starts at the root. -/
def isRooted (path : Path) : Bool :=
  path.head? == some '/'

/-- What stands at the place with the given names. -/
def nodeAt? (disk : Disk) (rooted : Bool) (names : List Text) : Option Node :=
  match disk.files.find? fun file => isRooted file.1 == rooted && namesOf file.1 == names with
  | some (_, content) => some (.file content)
  | none =>
      let known := (disk.files.map (·.1) ++ disk.folders).filter (isRooted · == rooted)
      if names.isEmpty || known.any fun path => names.isPrefixOf (namesOf path) then
        some .folder
      else none

/-- What stands at a spot. -/
def nodeOf? (disk : Disk) : Spot → Option Node
  | .inside rooted names => disk.nodeAt? rooted names
  | .outside => some .folder

/-- Longest name, in bytes. -/
def nameLimit : Nat :=
  255

/-- Longest path, in bytes. -/
def pathLimit : Nat :=
  4095

/-- Follow one piece of a path. -/
def step (disk : Disk) (spot : Spot) (piece : Text) : Except FileError Spot :=
  match disk.nodeOf? spot with
  | none => .error .notFound
  | some (.file _) => .error .notFolder
  | some .folder =>
      if !Path.isComponent piece then .ok spot
      else if piece = ['.', '.'] then
        match spot with
        | .inside false [] => .ok .outside
        | .inside rooted names => .ok (.inside rooted names.dropLast)
        | .outside => .ok .outside
      else if nameLimit < Text.width piece then .error .nameTooLong
      else
        match spot with
        | .outside => .error .notFound
        | .inside rooted names =>
            match disk.nodeAt? rooted (names ++ [piece]) with
            | none => .error .notFound
            | some _ => .ok (.inside rooted (names ++ [piece]))

/-- What a path leads to. -/
def open? (disk : Disk) (path : Path) : Except FileError Node :=
  if path = [] then .error .notFound
  else if path.contains (Char.ofNat 0) then .error .nulInName
  else if pathLimit < Text.width path then .error .nameTooLong
  else
    match (Path.pieces path).foldlM disk.step (.inside (isRooted path) []) with
    | .error error => .error error
    | .ok spot =>
        match disk.nodeOf? spot with
        | some node => .ok node
        | none => .error .notFound

/-- Whether a path leads to a file. -/
def isFile (disk : Disk) (path : Path) : Bool :=
  match disk.open? path with
  | .ok (.file _) => true
  | _ => false

/-- Whether a path leads to a folder. -/
def isFolder (disk : Disk) (path : Path) : Bool :=
  match disk.open? path with
  | .ok .folder => true
  | _ => false

/-- The content of a file. -/
def read (disk : Disk) (path : Path) : Except FileError Bytes :=
  match disk.open? path with
  | .error error => .error error
  | .ok .folder => .error .isFolder
  | .ok (.file content) => .ok content

end Disk

end Pinpoint
