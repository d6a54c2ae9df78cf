import Pinpoint.Editor
import Pinpoint.Json.Reader

/-!
# The language server protocol

How messages from and to an editor are written: JSON values, each behind a
header that gives its length in bytes.
-/

namespace Pinpoint

namespace Editor

/-- The name under which the server is known. -/
def serverName : String :=
  "protolens-lsp"

/-- The version of the server. -/
def serverVersion : String :=
  "0.1.0-alpha.3"

/-- An object with the given members. -/
def object (members : List (String × Json)) : Json :=
  .obj (members.map fun (name, value) => Json.member name value)

/-- A string as JSON. -/
def string (text : String) : Json :=
  .ofText text.toList

/-- A place as JSON. -/
def Place.toJson (place : Place) : Json :=
  object [("line", .nat place.line), ("character", .nat place.character)]

/-- An area as JSON. -/
def Area.toJson (area : Area) : Json :=
  object [("start", area.start.toJson), ("end", area.stop.toJson)]

/-- The number of a severity. -/
def severityNumber : Severity → Nat
  | .error => 1
  | .warning => 2
  | .info => 3

/-- A diagnostic as JSON. -/
def Published.toJson (published : Published) : Json :=
  object [("range", published.area.toJson),
    ("severity", .nat (severityNumber published.severity)),
    ("code", .ofText published.rule), ("source", string "protolint"),
    ("message", .ofText published.message)]

/-- A fix as JSON. -/
def Action.toJson (action : Action) : Json :=
  let edit (edit : Area × Text) : Json :=
    object [("range", edit.1.toJson), ("newText", .ofText edit.2)]
  let changes := Json.obj [(some action.uri.toText, .arr (action.edits.map edit))]
  object [("title", .ofText action.title), ("kind", string "quickfix"),
    ("diagnostics", .arr [action.diagnostic.toJson]), ("edit", object [("changes", changes)]),
    ("isPreferred", .bool true)]

/-- A message to the editor that it did not ask for, by method and
parameters. -/
def Notice.toJson : Notice → Json
  | .publish uri diagnostics version =>
      let members := [("uri", Json.ofText uri.toText),
        ("diagnostics", .arr (diagnostics.map Published.toJson))]
      let versions :=
        match version with
        | some version => [("version", Json.int version)]
        | none => []
      object [("method", string "textDocument/publishDiagnostics"),
        ("params", object (members ++ versions))]
  | .warning message =>
      object [("method", string "window/logMessage"),
        ("params", object [("type", .nat 2), ("message", string message)])]
  | .note message =>
      object [("method", string "window/logMessage"),
        ("params", object [("type", .nat 3), ("message", string message)])]

/-- What the server can do, as JSON. -/
def abilities : Json :=
  object
    [("capabilities", object
        [("codeActionProvider", object [("codeActionKinds", .arr [string "quickfix"])]),
          ("textDocumentSync", object [("change", .nat 1), ("openClose", .bool true),
            ("save", object [("includeText", .bool false)])])]),
      ("serverInfo", object [("name", string serverName), ("version", string serverVersion)])]

/-- Why a request was not served: a number and words. -/
structure Refusal where
  code : Int
  reason : String

/-- The answer to a request: its result, or why there is none. -/
def Answer.result : Answer → Except Refusal Json
  | .nothing => .ok .null
  | .abilities => .ok Editor.abilities
  | .actions none => .ok .null
  | .actions (some found) => .ok (.arr (found.map Action.toJson))
  | .farewell => .ok .null
  | .tooEarly => .error ⟨-32002, "Server not initialized"⟩
  | .refused => .error ⟨-32600, "Invalid request"⟩
  | .misunderstood => .error ⟨-32602, "Invalid params"⟩

/-- A line or a column from JSON, if it is not too large. -/
def coordinate? (json : Json) : Option Nat := do
  let n ← json.asNat?
  if n ≤ largest then some n else none

/-- A place from JSON. -/
def Place.ofJson? (json : Json) : Option Place := do
  let line ← coordinate? (← json.get? "line")
  let character ← coordinate? (← json.get? "character")
  return ⟨line, character⟩

/-- An area from JSON. -/
def Area.ofJson? (json : Json) : Option Area := do
  let start ← Place.ofJson? (← json.get? "start")
  let stop ← Place.ofJson? (← json.get? "end")
  return ⟨start, stop⟩

/-- A version from JSON, which has to fit into 32 bits. -/
def version? : Json → Option Int
  | .int version => if -Int.pow 2 31 ≤ version ∧ version < Int.pow 2 31 then some version else none
  | _ => none

/-- The document that the parameters of a message name. -/
def uri? (params : Json) : Option Uri := do
  Uri.parse? (← (← (← params.get? "textDocument").get? "uri").asText?)

/-- The texts of the changes that the parameters of a message list. -/
def texts? (params : Json) : Option (List Text) := do
  match ← params.get? "contentChanges" with
  | .arr changes => changes.mapM fun change => do (← change.get? "text").asText?
  | _ => none

/-- The options in the parameters of the first request. -/
def options? (params : Json) : Option Json :=
  match params.get? "initializationOptions" with
  | some .null => none
  | options => options

/-- Whether a method is that of a request, if it is known. -/
def isRequest? (method : String) : Option Bool :=
  match method with
  | "initialize" => some true
  | "initialized" => some false
  | "shutdown" => some true
  | "textDocument/didOpen" => some false
  | "textDocument/didChange" => some false
  | "textDocument/didSave" => some false
  | "textDocument/didClose" => some false
  | "workspace/didChangeConfiguration" => some false
  | "textDocument/codeAction" => some true
  | _ => none

/-- The message of a method, if its parameters make sense. -/
def Message.read? (method : String) (params : Json) : Option Message :=
  match method with
  | "initialize" => some (.hello (options? params))
  | "initialized" => some .ready
  | "shutdown" => some .goodbye
  | "textDocument/didOpen" => do
      let document ← params.get? "textDocument"
      let version ← version? (← document.get? "version")
      return .opened (← uri? params) version (← (← document.get? "text").asText?)
  | "textDocument/didChange" => do
      let document ← params.get? "textDocument"
      let version ← version? (← document.get? "version")
      return .changed (← uri? params) version (← texts? params)
  | "textDocument/didSave" => do return .saved (← uri? params)
  | "textDocument/didClose" => do return .closed (← uri? params)
  | "workspace/didChangeConfiguration" => do return .configured (← params.get? "settings")
  | "textDocument/codeAction" => do
      return .fixesAt (← uri? params) (← Area.ofJson? (← params.get? "range"))
  | _ => none

/-- The message of a method and its parameters, if the method is known. -/
def Message.ofJson? (method : Text) (params : Json) : Option Message :=
  (isRequest? (String.ofList method)).map fun isRequest =>
    (Message.read? (String.ofList method) params).getD (.unreadable isRequest)

/-- A value behind its header. -/
def frame (json : Json) : Text :=
  let body := json.compact
  "Content-Length: ".toList ++ Nat.toDigits 10 (Text.width body) ++ "\r\n\r\n".toList ++ body

/-- A message to the editor with the version of the protocol. -/
def versioned (json : Json) : Json :=
  match json with
  | .obj members => .obj (Json.member "jsonrpc" (string "2.0") :: members)
  | other => other

/-- The response to a request. -/
def response (id : Json) (result : Except Refusal Json) : Json :=
  match result with
  | .ok json => object [("result", json), ("id", id)]
  | .error refusal =>
      object [("error", object [("code", .int refusal.code), ("message", string refusal.reason)]),
        ("id", id)]

/-- The header lines of a frame, of up to `count` bytes, and what follows
them. -/
def readHeader? : Nat → Bytes → Option (Text × Bytes)
  | 0, _ => none
  | _ + 1, 13 :: 10 :: 13 :: 10 :: rest => some ([], rest)
  | count + 1, byte :: rest =>
      (readHeader? count rest).map fun (header, rest) => (Char.ofNat byte.toNat :: header, rest)
  | _ + 1, [] => none

/-- The length that the lines of a header give. -/
def lengthOf? (header : Text) : Option Nat :=
  (Text.splitLines header).findSome? fun line =>
    let (name, value) := Uri.cutAt ':' line
    if name.map Char.toLower = "content-length".toList then
      value.map fun digits => Text.decimalNumber (digits.filter Char.isDigit)
    else none

/-- The first frame of the input, and what follows it. -/
def readFrame? (input : Bytes) : Option (Bytes × Bytes) := do
  let (header, rest) ← readHeader? (input.length + 1) input
  let length ← lengthOf? header
  if length ≤ rest.length then some (rest.take length, rest.drop length) else none

/-- What the server writes for one frame, the session after it, and the
commands that were run. -/
def serveFrame (lint : LintFunction) (session : Session) (body : Bytes) :
    Text × Session × List Run :=
  let idle : Text × Session × List Run := ([], session, [])
  match body.decode?.bind Json.read? with
  | none => idle
  | some (json, _) =>
      match (json.get? "method").bind Json.asText? with
      | none => idle
      | some method =>
          let id := json.get? "id"
          let answer (result : Except Refusal Json) : Text :=
            match id with
            | some id => frame (versioned (response id result))
            | none => []
          match Message.ofJson? method ((json.get? "params").getD .null) with
          | none => (answer (.error ⟨-32601, "Method not found"⟩), session, [])
          | some message =>
              let step := session.step lint message
              let notices := step.notices.flatMap fun notice => frame (versioned notice.toJson)
              (notices ++ answer step.answer.result, step.session, step.runs)

/-- What the server writes for up to `count` frames of the input, and the
commands that were run. -/
def serveFrames (lint : LintFunction) : Nat → Session → Bytes → Text × List Run
  | 0, _, _ => ([], [])
  | count + 1, session, input =>
      match readFrame? input with
      | none => ([], [])
      | some (body, rest) =>
          let (written, session, runs) := serveFrame lint session body
          let (more, moreRuns) := serveFrames lint count session rest
          (written ++ more, runs ++ moreRuns)

/-- What the server writes for its whole input, and the commands that were
run. -/
def serve (lint : LintFunction) (input : Bytes) : Text × List Run :=
  serveFrames lint input.length .start input

end Editor

end Pinpoint
