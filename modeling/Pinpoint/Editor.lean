import Pinpoint.Editor.Place
import Pinpoint.Editor.Uri
import Pinpoint.Linter

/-!
# Serving an editor

A session with an editor.  The editor tells which documents are open and what
their texts are; the session lints them, publishes the diagnostics, and offers
the fixes that belong to a place.  The linter is a function from settings,
path and text, so a session can be followed without running anything.
-/

namespace Pinpoint

namespace Editor

/-- A message from the editor. -/
inductive Message where
  /-- The request to begin, with settings. -/
  | hello (options : Option Json)
  /-- The editor is ready. -/
  | ready
  | opened (uri : Uri) (version : Int) (text : Text)
  /-- The texts that a document had one after the other. -/
  | changed (uri : Uri) (version : Int) (texts : List Text)
  | saved (uri : Uri)
  | closed (uri : Uri)
  | configured (settings : Json)
  /-- The request for the fixes at a place. -/
  | fixesAt (uri : Uri) (area : Area)
  /-- The request to end. -/
  | goodbye
  /-- A message, maybe a request, whose parameters make no sense. -/
  | unreadable (isRequest : Bool)

/-- A diagnostic as shown by the editor. -/
structure Published where
  area : Area
  severity : Severity
  rule : Text
  message : Text
  deriving DecidableEq

/-- A diagnostic of a document as shown by the editor. -/
def Published.ofDiagnostic (document : IndexedText) (diagnostic : Diagnostic) : Published :=
  ⟨.ofRange document diagnostic.range, diagnostic.severity, diagnostic.rule,
    diagnostic.message⟩

/-- A fix that the editor can apply. -/
structure Action where
  title : Text
  diagnostic : Published
  uri : Uri
  edits : List (Area × Text)
  deriving DecidableEq

/-- A fix of a document as the editor applies it. -/
def Action.ofFix (document : IndexedText) (uri : Uri) (diagnostic : Published) (fix : Fix) :
    Action :=
  ⟨fix.title, diagnostic, uri,
    fix.edits.map fun edit => (.ofRange document edit.range, edit.newText)⟩

/-- A message to the editor that it did not ask for. -/
inductive Notice where
  /-- The diagnostics of a document, and the version they are for. -/
  | publish (uri : Uri) (diagnostics : List Published) (version : Option Int)
  | warning (message : String)
  | note (message : String)

/-- The answer to a message. -/
inductive Answer where
  /-- The message was no request. -/
  | nothing
  /-- What the session can do. -/
  | abilities
  /-- The fixes at a place, if the document is known. -/
  | actions (found : Option (List Action))
  /-- The session ends. -/
  | farewell
  /-- The request came before the first one. -/
  | tooEarly
  /-- The request came after the last one, or was a second first one. -/
  | refused
  /-- The parameters of the request make no sense. -/
  | misunderstood

/-- An open document. -/
structure Document where
  text : IndexedText
  version : Int
  /-- The diagnostics found last for this text. -/
  diagnostics : List Diagnostic
  deriving DecidableEq

/-- How far a session is. -/
inductive Phase where
  | waiting
  | running
  | ended
  deriving DecidableEq

/-- What a session knows. -/
structure Session where
  phase : Phase
  documents : List (Uri × Document)
  settings : Settings

/-- The linter: what a text of a path gives under the settings. -/
abbrev LintFunction := Settings → Path → Text → Lint

/-- What a message leads to. -/
structure Step where
  session : Session
  answer : Answer
  notices : List Notice
  runs : List Run

namespace Session

/-- A session before its first message. -/
def start : Session :=
  ⟨.waiting, [], .initial⟩

/-- An open document by its URI. -/
def find? (session : Session) (uri : Uri) : Option Document :=
  session.documents.lookup uri

/-- The documents with one of them replaced or added. -/
def put (uri : Uri) (document : Document) : List (Uri × Document) → List (Uri × Document)
  | [] => [(uri, document)]
  | (other, old) :: rest =>
      if other = uri then (uri, document) :: rest else (other, old) :: put uri document rest

/-- Remember a document. -/
def store (session : Session) (uri : Uri) (document : Document) : Session :=
  { session with documents := put uri document session.documents }

/-- Forget a document. -/
def forget (session : Session) (uri : Uri) : Session :=
  { session with documents := session.documents.filter fun entry => entry.1 ≠ uri }

/-- Nothing happens. -/
def idle (session : Session) (answer : Answer) : Step :=
  ⟨session, answer, [], []⟩

/-- Lint a document and publish the result. -/
def lint (lint : LintFunction) (session : Session) (uri : Uri) : Step :=
  match session.find? uri with
  | none => session.idle .nothing
  | some document =>
      let result := lint session.settings uri.filePath document.text.text
      match result.outcome with
      | .error error =>
          let message :=
            "protolint failed for " ++ String.ofList uri.toText ++ ": " ++ error.message
          ⟨session, .nothing, [.warning message], result.runs⟩
      | .ok findings =>
          let diagnostics := Diagnostic.ofFindings document.text findings
          let published := diagnostics.map (Published.ofDiagnostic document.text)
          ⟨session.store uri { document with diagnostics := diagnostics }, .nothing,
            [.publish uri published (some document.version)], result.runs⟩

/-- Lint several documents. -/
def lintAll (lint : LintFunction) (session : Session) : List Uri → Step
  | [] => session.idle .nothing
  | uri :: rest =>
      let first := session.lint lint uri
      let others := first.session.lintAll lint rest
      ⟨others.session, .nothing, first.notices ++ others.notices, first.runs ++ others.runs⟩

/-- Take over settings, or warn about them. -/
def configure (session : Session) (settings : Json) : Session × List Notice :=
  match Settings.ofJson settings with
  | .ok settings => ({ session with settings := settings }, [])
  | .error error =>
      (session, [.warning ("protolens: " ++ (LintError.settings error).message)])

/-- The fixes of a document whose diagnostics touch an area. -/
def fixesAt (document : Document) (uri : Uri) (area : Area) : List Action :=
  document.diagnostics.flatMap fun diagnostic =>
    let published := Published.ofDiagnostic document.text diagnostic
    if published.area.intersects area then
      diagnostic.fixes.map (Action.ofFix document.text uri published)
    else []

/-- Take in a message of a running session. -/
def handle (lint : LintFunction) (session : Session) : Message → Step
  | .hello _ => session.idle .refused
  | .ready => ⟨session, .nothing, [.note "protolens language server initialized"], []⟩
  | .opened uri version text =>
      (session.store uri ⟨.ofText text, version, []⟩).lint lint uri
  | .changed uri version texts =>
      match texts.getLast? with
      | none => session.idle .nothing
      | some text =>
          let stored := session.store uri ⟨.ofText text, version, []⟩
          if stored.settings.lintOnChange then stored.lint lint uri else stored.idle .nothing
  | .saved uri => session.lint lint uri
  | .closed uri => ⟨session.forget uri, .nothing, [.publish uri [] none], []⟩
  | .configured settings =>
      let (configured, notices) := session.configure settings
      let linted := configured.lintAll lint (configured.documents.map (·.1))
      { linted with notices := notices ++ linted.notices }
  | .fixesAt uri area =>
      session.idle (.actions ((session.find? uri).map fun document =>
        fixesAt document uri area))
  | .goodbye => { session with phase := .ended }.idle .farewell
  | .unreadable isRequest => session.idle (if isRequest then .misunderstood else .nothing)

/-- Whether a message asks for an answer. -/
def asksForAnswer : Message → Bool
  | .hello _ => true
  | .fixesAt _ _ => true
  | .goodbye => true
  | .unreadable isRequest => isRequest
  | _ => false

/-- Take in a message.  Before the first request and after the last one only
requests are answered, and only to be refused. -/
def step (lint : LintFunction) (session : Session) (message : Message) : Step :=
  match session.phase with
  | .running => session.handle lint message
  | .waiting =>
      match message with
      | .hello options =>
          let (configured, notices) :=
            match options with
            | some settings => session.configure settings
            | none => (session, [])
          ⟨{ configured with phase := .running }, .abilities, notices, []⟩
      | other => session.idle (if asksForAnswer other then .tooEarly else .nothing)
  | .ended => session.idle (if asksForAnswer message then .refused else .nothing)

end Session

end Editor

end Pinpoint
