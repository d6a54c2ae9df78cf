import Pinpoint.Proofs.Editor.Messages

/-!
# Histories of a session

What a session knows follows from the messages that it has taken in: the text of a
document is that of the last message about it, its diagnostics are those of the last lint
of this text that succeeded, and the settings are the last ones that could be read.
-/

namespace Pinpoint

namespace Editor

/-! ### What a history tells

A history has its newest message first. -/

section

variable (lint : LintFunction) (options : Option Json) (uri : Uri)

/-- The text of a document by the last message about it, unless this closed it. -/
def snapshot? (history : List Message) : Option Snapshot :=
  (history.findSome? (Message.tells? uri)).join

/-- The last settings that could be read, from the first request on. -/
def settingsOf (history : List Message) : Settings :=
  ((history.findSome? Message.settings?).or
    (options.bind fun json => (Settings.ofJson json).toOption)).getD .initial

/-- The findings of the lint that the newest message led to, if it led to one that
succeeded. -/
def newFindings? (message : Message) (earlier : List Message) : Option (List Finding) :=
  if message.asksFor (settingsOf options (message :: earlier)) uri then
    (snapshot? uri (message :: earlier)).bind fun snapshot =>
      (lint (settingsOf options (message :: earlier)) uri.filePath snapshot.text).outcome.toOption
  else none

/-- The findings of the last lint that succeeded since the last message about the text of
a document. -/
def findings? : List Message → Option (List Finding)
  | [] => none
  | message :: earlier =>
      (newFindings? lint options uri message earlier).or
        (if (message.tells? uri).isSome then none else findings? earlier)

/-- A session that began with the given options, after a history. -/
def Session.after : List Message → Session
  | [] => (Session.start.step lint (.hello options)).session
  | message :: earlier => ((Session.after earlier).step lint message).session

/-- All that such a session has sent without being asked. -/
def Session.sent : List Message → List Notice
  | [] => (Session.start.step lint (.hello options)).notices
  | message :: earlier =>
      Session.sent earlier ++ ((Session.after lint options earlier).step lint message).notices

/-- What was published last for a document. -/
def lastPublished? (notices : List Notice) : Option (List Published × Option Int) :=
  (notices.filterMap (Notice.published? uri)).getLast?

end

section

variable (lint : LintFunction) (options : Option Json) (uri : Uri) (message : Message)
  (earlier : List Message)

theorem snapshot?_cons : snapshot? uri (message :: earlier) =
    match message.tells? uri with
    | some told => told
    | none => snapshot? uri earlier := by
  rw [snapshot?, List.findSome?_cons]
  cases message.tells? uri with
  | some told => rfl
  | none => rfl

theorem settingsOf_cons : settingsOf options (message :: earlier) =
    message.settings?.getD (settingsOf options earlier) := by
  rw [settingsOf, List.findSome?_cons]
  cases message.settings? with
  | some settings => rfl
  | none => rfl

end

namespace Session

variable (lint : LintFunction) (options : Option Json)

/-- A session that knows what its history tells. -/
structure Follows (lint : LintFunction) (options : Option Json) (history : List Message)
    (session : Session) : Prop where
  running : session.phase = .running
  distinct : session.uris.Nodup
  settings_eq : session.settings = settingsOf options history
  find?_eq : ∀ uri, session.find? uri = (snapshot? uri history).map fun snapshot =>
    snapshot.document.withFindings (findings? lint options uri history)

theorem follows_hello :
    (Session.start.step lint (.hello options)).session.Follows lint options [] := by
  cases options with
  | none => exact ⟨rfl, List.nodup_nil, rfl, fun uri => rfl⟩
  | some json =>
      have documentsEq : (start.step lint (.hello (some json))).session.documents = [] :=
        documents_configure start json
      refine ⟨rfl, ?_, settings_configure start json, ?_⟩
      · rw [uris, documentsEq]
        exact List.nodup_nil
      · intro uri
        rw [find?, documentsEq]
        rfl

variable {lint options} {history : List Message} {session : Session}

theorem Follows.step_eq (follows : session.Follows lint options history) (message : Message) :
    session.step lint message = session.handle lint message := by
  unfold step
  rw [follows.running]

/-- What a message tells is taken in as the history says. -/
theorem Follows.find?_receive (follows : session.Follows lint options history)
    (message : Message) (uri : Uri) : (session.receive message).find? uri =
      (snapshot? uri (message :: history)).map fun snapshot =>
        snapshot.document.withFindings
          (if (message.tells? uri).isSome then none else findings? lint options uri history) := by
  rw [Session.find?_receive, snapshot?_cons]
  cases message.tells? uri with
  | some told => rfl
  | none => exact follows.find?_eq uri

theorem Follows.settings_receive (follows : session.Follows lint options history)
    (message : Message) :
    (session.receive message).settings = settingsOf options (message :: history) := by
  rw [Session.settings_receive, settingsOf_cons, follows.settings_eq]

/-- The findings of a lint are those that the history tells of. -/
theorem Follows.newFindings?_eq (follows : session.Follows lint options history)
    (message : Message) (uri : Uri) :
    newFindings? lint options uri message history =
      if uri ∈ (session.receive message).asked message then
        ((session.receive message).find? uri).bind
          (Document.findings? lint (session.receive message).settings uri)
      else none := by
  have receivedEq := follows.find?_receive message uri
  rw [newFindings?, follows.settings_receive]
  cases told : snapshot? uri (message :: history) with
  | none =>
      rw [told, Option.map_none] at receivedEq
      have notAsked : uri ∉ (session.receive message).asked message := by
        rw [mem_asked_iff, receivedEq]
        simp
      rw [if_neg notAsked]
      split
      · rfl
      · rfl
  | some snapshot =>
      rw [told, Option.map_some] at receivedEq
      have asked : uri ∈ (session.receive message).asked message ↔
          message.asksFor (settingsOf options (message :: history)) uri = true := by
        rw [mem_asked_iff, receivedEq, follows.settings_receive]
        simp
      by_cases isAsked : message.asksFor (settingsOf options (message :: history)) uri = true
      · rw [if_pos isAsked, if_pos (asked.mpr isAsked), receivedEq]
        rw [Option.bind_some, Option.bind_some, Document.findings?, Document.lintUnder,
          Document.text_withFindings]
        rfl
      · rw [if_neg isAsked, if_neg (asked.not.mpr isAsked)]

/-- A message takes a session that follows its history to one that does. -/
theorem Follows.step (follows : session.Follows lint options history) {message : Message}
    (goesOn : message ≠ .goodbye) :
    (session.step lint message).session.Follows lint options (message :: history) := by
  have handles := handles_handle lint session message follows.distinct goesOn
  have receivedDistinct := nodup_receive session message follows.distinct
  have relinted := relinted_lintAll lint (session.receive message)
    ((session.receive message).asked message) (receivedDistinct.filter _)
  rw [follows.step_eq, handles.session_eq]
  constructor
  · rw [relinted.phase_eq, phase_receive, follows.running]
  · rw [relinted.uris_eq]
    exact receivedDistinct
  · rw [relinted.settings_eq, follows.settings_receive]
  · intro uri
    rw [relinted.find?_eq, findings?, follows.newFindings?_eq, follows.find?_receive]
    cases told : snapshot? uri (message :: history) with
    | none => simp
    | some snapshot =>
        rw [Option.map_some, Option.map_some, Option.map_some]
        by_cases isAsked : uri ∈ (session.receive message).asked message
        · rw [if_pos isAsked, if_pos isAsked, Option.bind_some]
          rw [Document.withFindings_withFindings]
        · rw [if_neg isAsked, if_neg isAsked]
          rfl

variable (lint options) in
theorem follows_after (goesOn : ∀ message ∈ history, message ≠ .goodbye) :
    (after lint options history).Follows lint options history := by
  induction history with
  | nil => exact follows_hello lint options
  | cons message earlier ih =>
      have before := ih fun other member => goesOn other (List.mem_cons_of_mem _ member)
      exact before.step (goesOn message List.mem_cons_self)

/-- A message about another document changes neither what is known about a document nor
what is published for it. -/
theorem Follows.step_of_uri_ne (follows : session.Follows lint options history)
    {message : Message} {uri other : Uri} (isAbout : message.uri? = some other)
    (apart : other ≠ uri) : (session.step lint message).session.find? uri = session.find? uri ∧
      (session.step lint message).notices.filterMap (Notice.published? uri) = [] := by
  have goesOn : message ≠ .goodbye := by
    rintro rfl
    simp [Message.uri?] at isAbout
  have tellsNone : message.tells? uri = none := by
    cases message <;> simp_all [Message.uri?, Message.tells?]
  have asksForNone : ∀ settings, message.asksFor settings uri = false := by
    intro settings
    cases message <;> simp_all [Message.uri?, Message.asksFor]
  have notAsked : uri ∉ (session.receive message).asked message := by
    rw [mem_asked_iff, asksForNone]
    simp
  have receivedDistinct := nodup_receive session message follows.distinct
  have handles := handles_handle lint session message follows.distinct goesOn
  rw [follows.step_eq]
  constructor
  · have relinted := relinted_lintAll lint (session.receive message)
      ((session.receive message).asked message) (receivedDistinct.filter _)
    rw [handles.session_eq, relinted.find?_eq, if_neg notAsked, Session.find?_receive, tellsNone]
  · have reported := reported_lintAll lint (session.receive message)
      ((session.receive message).asked message) (receivedDistinct.filter _)
    rw [handles.published_eq uri (by simp [tellsNone]), reported.published_eq, if_neg notAsked]

/-- What is published for an open document are the findings of a lint that succeeds. -/
theorem Follows.published_step (follows : session.Follows lint options history)
    {message : Message} (goesOn : message ≠ .goodbye) {uri : Uri} {snapshot : Snapshot}
    (told : snapshot? uri (message :: history) = some snapshot) :
    (session.step lint message).notices.filterMap (Notice.published? uri) =
      ((newFindings? lint options uri message history).map fun findings =>
        (snapshot.document.withFindings (some findings)).published).toList := by
  have receivedDistinct := nodup_receive session message follows.distinct
  have handles := handles_handle lint session message follows.distinct goesOn
  have reported := reported_lintAll lint (session.receive message)
    ((session.receive message).asked message) (receivedDistinct.filter _)
  have staysOpen : message.tells? uri ≠ some none := by
    intro closes
    rw [snapshot?_cons, closes] at told
    simp at told
  rw [follows.step_eq, handles.published_eq uri staysOpen, reported.published_eq,
    follows.newFindings?_eq, follows.find?_receive, told, Option.map_some]
  by_cases isAsked : uri ∈ (session.receive message).asked message
  · rw [if_pos isAsked, if_pos isAsked, Option.bind_some, Option.bind_some]
    simp only [Document.withFindings_withFindings, Option.some_or]
  · rw [if_neg isAsked, if_neg isAsked]
    rfl

/-- The editor shows the findings that the history tells of. -/
theorem lastPublished?_sent (goesOn : ∀ message ∈ history, message ≠ .goodbye) {uri : Uri}
    {snapshot : Snapshot} {findings : List Finding}
    (told : snapshot? uri history = some snapshot)
    (found : findings? lint options uri history = some findings) :
    lastPublished? uri (sent lint options history) =
      some (snapshot.document.withFindings (some findings)).published := by
  induction history with
  | nil => simp [findings?] at found
  | cons message earlier ih =>
      have earlierGoesOn : ∀ message ∈ earlier, message ≠ .goodbye :=
        fun other member => goesOn other (List.mem_cons_of_mem _ member)
      have published := (follows_after lint options earlierGoesOn).published_step
        (goesOn message List.mem_cons_self) told
      rw [lastPublished?, sent, List.filterMap_append, published, List.getLast?_append]
      rw [findings?] at found
      cases new : newFindings? lint options uri message earlier with
      | some newFindings =>
          rw [new, Option.some_or] at found
          obtain rfl := Option.some.inj found
          rfl
      | none =>
          rw [new, Option.none_or] at found
          -- The message told nothing about the document, so this is as it was.
          cases tells : message.tells? uri with
          | some newlyTold => simp [tells] at found
          | none =>
              rw [tells] at found
              rw [snapshot?_cons, tells] at told
              exact ih earlierGoesOn told found

/-- The lints that a message leads to. -/
theorem Follows.runs_step (follows : session.Follows lint options history) {message : Message}
    (goesOn : message ≠ .goodbye) : ∃ linted : List Uri, linted.Nodup ∧
      (∀ uri, uri ∈ linted ↔
        message.asksFor (settingsOf options (message :: history)) uri = true ∧
          (snapshot? uri (message :: history)).isSome = true) ∧
      (session.step lint message).runs = linted.flatMap fun uri =>
        ((snapshot? uri (message :: history)).map fun snapshot =>
          (lint (settingsOf options (message :: history)) uri.filePath snapshot.text).runs).getD
            [] := by
  have receivedDistinct := nodup_receive session message follows.distinct
  have handles := handles_handle lint session message follows.distinct goesOn
  have reported := reported_lintAll lint (session.receive message)
    ((session.receive message).asked message) (receivedDistinct.filter _)
  refine ⟨(session.receive message).asked message, receivedDistinct.filter _, ?_, ?_⟩
  · intro uri
    rw [mem_asked_iff, follows.settings_receive, follows.find?_receive, Option.isSome_map]
  · rw [follows.step_eq, handles.runs_eq, reported.runs_eq, follows.settings_receive]
    apply List.flatMap_congr
    intro uri member
    rw [follows.find?_receive, Option.map_map]
    apply congrArg (Option.getD · [])
    apply congrArg (Option.map · _)
    funext snapshot
    rw [Function.comp_apply, Document.lintUnder, Document.text_withFindings]
    rfl

end Session

/-- What a session knows after a history, and what it has published: the documents that
are open with their last texts and versions, the findings of the last lint of each text
that succeeded, and nothing of the messages about other documents.  All lints are under
the last settings that could be read. -/
theorem session_of_history (lint : LintFunction) (options : Option Json)
    {history : List Message} (goesOn : ∀ message ∈ history, message ≠ .goodbye) :
    (∀ uri, (Session.after lint options history).find? uri =
      (snapshot? uri history).map fun snapshot =>
        ⟨.ofText snapshot.text, snapshot.version,
          ((findings? lint options uri history).map
            (Diagnostic.ofFindings (.ofText snapshot.text))).getD []⟩) ∧
    (∀ uri snapshot findings, snapshot? uri history = some snapshot →
      findings? lint options uri history = some findings →
      lastPublished? uri (Session.sent lint options history) =
        some ((Diagnostic.ofFindings (.ofText snapshot.text) findings).map
          (Published.ofDiagnostic (.ofText snapshot.text)), some snapshot.version)) ∧
    (∀ uri message other, message.uri? = some other → other ≠ uri →
      ((Session.after lint options history).step lint message).session.find? uri =
        (Session.after lint options history).find? uri ∧
      ((Session.after lint options history).step lint message).notices.filterMap
        (Notice.published? uri) = []) ∧
    ∀ message, message ≠ .goodbye → ∃ linted : List Uri, linted.Nodup ∧
      (∀ uri, uri ∈ linted ↔
        message.asksFor (settingsOf options (message :: history)) uri = true ∧
          (snapshot? uri (message :: history)).isSome = true) ∧
      ((Session.after lint options history).step lint message).runs =
        linted.flatMap fun uri => ((snapshot? uri (message :: history)).map fun snapshot =>
          (lint (settingsOf options (message :: history)) uri.filePath snapshot.text).runs).getD
            [] := by
  have follows := Session.follows_after lint options goesOn
  refine ⟨?documents, ?published, ?others, ?lints⟩
  case documents =>
    intro uri
    rw [follows.find?_eq]
    apply congrArg (Option.map · _)
    funext snapshot
    cases findings? lint options uri history with
    | none => rfl
    | some findings => rfl
  case published =>
    intro uri snapshot findings told found
    exact Session.lastPublished?_sent goesOn told found
  case others =>
    intro uri message other isAbout apart
    exact follows.step_of_uri_ne isAbout apart
  case lints =>
    intro message goesOn
    exact follows.runs_step goesOn

/-- A document that is opened, changed and saved.  The lint on saving is not for the text
that was opened. -/
theorem session_of_history_changed :
    let uri : Uri := ⟨"file".toList, none, "/a.proto".toList, none, none⟩
    let finding : Finding := ⟨[], 1, 1, "unused".toList, [], none⟩
    let lint : LintFunction := fun _ _ text =>
      if text = "b".toList then ⟨.ok [finding], []⟩ else ⟨.error .report, []⟩
    let history : List Message :=
      [.saved uri, .changed uri 2 ["c".toList, "b".toList], .opened uri 1 "a".toList]
    (Session.after lint none history).find? uri =
        some ⟨.ofText "b".toList, 2, Diagnostic.ofFindings (.ofText "b".toList) [finding]⟩ ∧
      lastPublished? uri (Session.sent lint none history) =
        some ((Diagnostic.ofFindings (.ofText "b".toList) [finding]).map
          (Published.ofDiagnostic (.ofText "b".toList)), some 2) := by
  intro uri finding lint history
  have goesOn : ∀ message ∈ history, message ≠ .goodbye := by simp [history]
  have told : snapshot? uri history = some ⟨"b".toList, 2⟩ := rfl
  have found : findings? lint none uri history = some [finding] := rfl
  obtain ⟨documents, published, -, -⟩ := session_of_history lint none goesOn
  constructor
  · rw [documents uri, told, found]
    rfl
  · exact published uri _ _ told found

end Editor

end Pinpoint
