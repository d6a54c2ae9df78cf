import Pinpoint.Host
import Pinpoint.Path

/-!
# Addresses of documents

Editors name documents by URIs.  A URI is kept in its normal form: the scheme
in small letters, the host in the form that all its spellings share, no dot
segments in the path, and escapes for everything that may not stand in it.
-/

namespace Pinpoint

/-- The part of a URI that names a machine. -/
structure Authority where
  /-- A name, and maybe a password after a colon. -/
  credentials : Text
  host : Host
  /-- The port, if it is not the one that goes without saying. -/
  port : Option Nat
  deriving DecidableEq

/-- The parts of a URI in normal form. -/
structure Uri where
  scheme : Text
  authority : Option Authority
  path : Text
  query : Option Text
  fragment : Option Text
  deriving DecidableEq

namespace Authority

/-- No machine. -/
def nowhere : Authority :=
  ⟨[], .nowhere, none⟩

/-- An authority as written. -/
def toText (authority : Authority) : Text :=
  let credentials := authority.credentials
  let port :=
    match authority.port with
    | some port => ':' :: Nat.toDigits 10 port
    | none => []
  (if credentials.isEmpty then [] else credentials ++ ['@']) ++ authority.host.toText ++ port

end Authority

namespace Uri

/-- The URI as written.  A path that starts with two slashes would look like an
authority without the dot in front of it. -/
def toText (uri : Uri) : Text :=
  let part (mark : Char) (content : Option Text) : Text :=
    match content with
    | some text => mark :: text
    | none => []
  let place :=
    match uri.authority with
    | some authority => '/' :: '/' :: authority.toText
    | none => if ['/', '/'].isPrefixOf uri.path then ['/', '.'] else []
  uri.scheme ++ ':' :: place ++ uri.path ++ part '?' uri.query ++ part '#' uri.fragment

/-- Characters that are escaped in a fragment. -/
def fragmentReserved : Text :=
  [' ', '"', '<', '>', Char.ofNat 0x60]

/-- Characters that are escaped in a path. -/
def pathReserved : Text :=
  fragmentReserved ++ ['#', '?', '\x7b', '\x7d']

/-- Characters that are escaped in a name or a password. -/
def credentialsReserved : Text :=
  pathReserved ++ ['/', ':', ';', '=', '@', '[', '\\', ']', '^', '|']

/-- Characters that are escaped in a query. -/
def queryReserved (special : Bool) : Text :=
  [' ', '"', '#', '<', '>'] ++ if special then [Char.ofNat 0x27] else []

/-- The schemes whose URIs always have a path, in which a backslash is a
slash. -/
def specialSchemes : List String :=
  ["http", "https", "ws", "wss", "ftp", "file"]

/-- The port that goes without saying under a scheme. -/
def impliedPort? (scheme : Text) : Option Nat :=
  match String.ofList scheme with
  | "http" => some 80
  | "ws" => some 80
  | "https" => some 443
  | "wss" => some 443
  | "ftp" => some 21
  | _ => none

/-- What stands before and after the first of a character. -/
def cutAt (mark : Char) (text : Text) : Text × Option Text :=
  match text.span (· != mark) with
  | (before, []) => (before, none)
  | (before, _ :: after) => (before, some after)

/-- What stands before and after the last of a character. -/
def cutAtLast (mark : Char) (text : Text) : Option Text × Text :=
  match cutAt mark text.reverse with
  | (after, before) => (before.map List.reverse, after.reverse)

/-! ## Paths -/

/-- A segment with its escaped dots as dots. -/
def plainDots : Text → Text
  | [] => []
  | '%' :: '2' :: c :: rest =>
      if c = 'e' ∨ c = 'E' then '.' :: plainDots rest
      else '%' :: '2' :: c :: plainDots rest
  | c :: rest => c :: plainDots rest

/-- Whether a segment is the letter of a drive. -/
def isDrive : Text → Bool
  | [letter, mark] => letter.isAlpha && (mark == ':' || mark == '|')
  | _ => false

/-- Whether a segment starts with the letter of a drive; a backslash ends it as
a slash does. -/
def startsWithDrive (segment : Text) : Bool :=
  isDrive (segment.takeWhile (· != '\\'))

/-- The segments of a path without the last one; the letter of a drive
stays. -/
def withoutLast (segments : List Text) : List Text :=
  if segments.getLast?.any startsWithDrive then segments else segments.dropLast

/-- A segment as it is kept at the end of the given ones. -/
def keptSegment (isFile : Bool) (done : List Text) (segment : Text) : Text :=
  if isFile && done.isEmpty && isDrive segment then segment.take 1 ++ [':']
  else Text.escape pathReserved segment

/-- Follow the segments of a path. -/
def walk (isFile : Bool) (done : List Text) : List Text → List Text
  | [] => done
  | segment :: rest =>
      let dots := plainDots segment
      if dots = ['.', '.'] then
        let shorter := withoutLast done
        walk isFile (if rest.isEmpty then shorter ++ [[]] else shorter) rest
      else if dots = ['.'] then
        walk isFile (if rest.isEmpty then done ++ [[]] else done) rest
      else walk isFile (done ++ [keptSegment isFile done segment]) rest

/-- The segments of a path in normal form, from what follows its first
slash. -/
def segments (isFile : Bool) (body : Text) : List Text :=
  walk isFile [] (Path.pieces body)

/-- A path of segments. -/
def pathOf (segments : List Text) : Text :=
  '/' :: Path.join segments

/-- A path of segments that starts with one slash only. -/
def filePathOf (segments : List Text) : Text :=
  '/' :: (Path.join segments).dropWhile (· == '/')

/-! ## Authorities -/

/-- A name and a password in normal form. -/
def normalCredentials (written : Text) : Text :=
  match cutAt ':' written with
  | (name, some password) =>
      Text.escape credentialsReserved name ++
        if password.isEmpty then [] else ':' :: Text.escape credentialsReserved password
  | (name, none) => Text.escape credentialsReserved name

/-- A host, up to the first colon that is not in brackets, and what follows. -/
def splitHost : (inside : Bool) → Text → Text × Text
  | _, [] => ([], [])
  | inside, c :: rest =>
      if c = ':' ∧ !inside then ([], c :: rest)
      else
        let inside := if c = '[' then true else if c = ']' then false else inside
        let (host, rest) := splitHost inside rest
        (c :: host, rest)

/-- The port that digits name, if they name one that does not go without
saying; nothing if it is too large. -/
def port? (scheme digits : Text) : Option (Option Nat) :=
  let port := Text.decimalNumber digits
  if digits.isEmpty then some none
  else if 65536 ≤ port then none
  else some (if impliedPort? scheme = some port then none else some port)

/-- An authority, and what follows its port. -/
def readAuthority? (special : Bool) (scheme : Text) (written : Text) (isLast : Bool) :
    Option (Authority × Text) := do
  let (before, place) := cutAtLast '@' written
  let credentials := normalCredentials (before.getD [])
  let (hostText, rest) := splitHost false place
  let host ← if special then Host.parse? hostText else Host.parseAny? hostText
  let isEmpty := host == .nowhere
  if isEmpty && (rest.head? == some ':' || !credentials.isEmpty) then none
  else if before == some [] && place.isEmpty && !isLast then none
  else
    let (digits, rest) := (rest.drop 1).span Char.isDigit
    let port ← port? scheme digits
    if rest.head?.all (!special && · == '\\') then some (⟨credentials, host, port⟩, rest)
    else none

/-! ## URIs -/

/-- The scheme of a URI, in small letters, and what follows its colon. -/
def readScheme? (text : Text) : Option (Text × Text) :=
  match cutAt ':' text with
  | (c :: scheme, some rest) =>
      let isPart (c : Char) : Bool := c.isAlphanum || c == '+' || c == '-' || c == '.'
      if c.isAlpha && scheme.all isPart then some ((c :: scheme).map Char.toLower, rest)
      else none
  | _ => none

/-- The host of a file; the machine at hand needs no name. -/
def fileHost? (written : Text) : Option Host :=
  if written.isEmpty then some .nowhere
  else
    (Host.parse? written).map fun host =>
      if host = .name "localhost".toList then .nowhere else host

/-- Authority and path of a file.  The letter of a drive is no host, and there
is no host before the letter of a drive. -/
def readFile? (body : Text) : Option (Authority × Text) :=
  match body with
  | '/' :: '/' :: rest =>
      let (written, path) := rest.span (· != '/')
      if isDrive written then some (.nowhere, filePathOf (segments true rest))
      else
        (fileHost? written).map fun host =>
          if host = .nowhere then (.nowhere, filePathOf (segments true path))
          else
            let found := segments true (path.drop 1)
            (⟨[], if found.head?.any isDrive then .nowhere else host, none⟩, filePathOf found)
  | '/' :: rest => some (.nowhere, filePathOf (segments true rest))
  | _ => some (.nowhere, filePathOf (segments true body))

/-- Authority and path of a URI that has an authority. -/
def readPlace? (special : Bool) (scheme body : Text) (isLast : Bool) :
    Option (Authority × Text) := do
  let (written, path) := body.span (· != '/')
  let (authority, rest) ← readAuthority? special scheme written (isLast && path.isEmpty)
  let path := rest ++ path
  let path :=
    match path with
    | '/' :: body => pathOf (segments false body)
    | [] => if special then ['/'] else []
    | body => pathOf (segments false body)
  return (authority, path)

/-- Authority and path of a URI whose scheme means nothing here. -/
def readOther? (scheme body : Text) (isLast : Bool) : Option (Option Authority × Text) :=
  match body with
  | '/' :: '/' :: rest =>
      (readPlace? false scheme rest isLast).map fun (authority, path) => (some authority, path)
  | '/' :: rest => some (none, pathOf (segments false rest))
  | _ => some (none, Text.escape [] body)

/-- Whether a character may not stand at the ends of a URI. -/
def isMargin (c : Char) : Bool :=
  c.toNat ≤ 32

/-- A URI text without what is ignored in it. -/
def cleaned (text : Text) : Text :=
  let inner := ((text.dropWhile isMargin).reverse.dropWhile isMargin).reverse
  inner.filter fun c => c != '\t' && c != '\n' && c != '\r'

/-- The URI of a text, in normal form. -/
def parse? (text : Text) : Option Uri := do
  let (scheme, rest) ← readScheme? (cleaned text)
  let (rest, fragment) := cutAt '#' rest
  let (body, query) := cutAt '?' rest
  let special := specialSchemes.any fun name => name.toList = scheme
  let body := if special then body.map fun c => if c = '\\' then '/' else c else body
  let isLast := query.isNone && fragment.isNone
  let (authority, path) ←
    if scheme = "file".toList then
      (readFile? body).map fun (authority, path) => (some authority, path)
    else if special then
      (readPlace? true scheme (body.dropWhile (· == '/')) isLast).map
        fun (authority, path) => (some authority, path)
    else readOther? scheme body isLast
  return ⟨scheme, authority, path, query.map (Text.escape (queryReserved special)),
    fragment.map (Text.escape fragmentReserved)⟩

/-- Whether a URI names no machine but this one. -/
def isLocal (uri : Uri) : Bool :=
  match uri.authority with
  | none => true
  | some authority =>
      authority.host == .nowhere || authority.host == .name "localhost".toList

/-- A path that ends in the letter of a drive gets a slash. -/
def closeDrive (path : Path) : Path :=
  if 2 < path.length ∧ isDrive (path.drop (path.length - 2)) then path ++ ['/'] else path

/-- The path of the document that a URI names: without escapes if it is the
path of a file, and as it is otherwise. -/
def filePath (uri : Uri) : Path :=
  if uri.isLocal ∧ uri.path.head? = some '/' then
    closeDrive (Text.unescape uri.path).decodeLossy
  else uri.path

end Uri

end Pinpoint
