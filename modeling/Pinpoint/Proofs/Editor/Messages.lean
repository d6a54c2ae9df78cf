import Mathlib.Data.List.Nodup
import Pinpoint.Proofs.Editor.Documents

/-!
# What a message leads to

A session takes in what a message tells, about a document or the settings, and then lints
the open documents that the message asks for.
-/

namespace Pinpoint

namespace Editor

/-- The text of a document as the editor told it. -/
structure Snapshot where
  text : Text
  version : Int

/-- The document of a snapshot, before it is linted. -/
def Snapshot.document (snapshot : Snapshot) : Document :=
  ⟨.ofText snapshot.text, snapshot.version, []⟩

namespace Message

/-- What a message tells about the text of a document: a new one, or that it is closed. -/
def tells? (uri : Uri) : Message → Option (Option Snapshot)
  | .opened other version text => if other = uri then some (some ⟨text, version⟩) else none
  | .changed other version texts =>
      if other = uri then texts.getLast?.map fun text => some ⟨text, version⟩ else none
  | .closed other => if other = uri then some none else none
  | _ => none

/-- The settings of a message, if it has some that can be read. -/
def settings? : Message → Option Settings
  | .configured json => (Settings.ofJson json).toOption
  | _ => none

/-- Whether a message asks for a lint of a document, should this be open. -/
def asksFor (settings : Settings) (uri : Uri) : Message → Bool
  | .opened other _ _ => other == uri
  | .changed other _ texts => other == uri && !texts.isEmpty && settings.lintOnChange
  | .saved other => other == uri
  | .configured _ => true
  | _ => false

/-- The document that a message is about, if it is about one. -/
def uri? : Message → Option Uri
  | .opened uri _ _ => some uri
  | .changed uri _ _ => some uri
  | .saved uri => some uri
  | .closed uri => some uri
  | .fixesAt uri _ => some uri
  | _ => none

end Message

namespace Session

variable (lint : LintFunction) (session : Session) (message : Message)

/-- A session that has taken in what a message tells, and has not linted yet. -/
def receive (session : Session) : Message → Session
  | .opened uri version text => session.store uri ⟨.ofText text, version, []⟩
  | .changed uri version texts =>
      match texts.getLast? with
      | none => session
      | some text => session.store uri ⟨.ofText text, version, []⟩
  | .closed uri => session.forget uri
  | .configured json => (session.configure json).1
  | _ => session

/-- The open documents that a message asks to lint. -/
def asked (session : Session) (message : Message) : List Uri :=
  session.uris.filter fun uri => message.asksFor session.settings uri

theorem find?_receive (uri : Uri) : (session.receive message).find? uri =
    match message.tells? uri with
    | some told => told.map Snapshot.document
    | none => session.find? uri := by
  cases message with
  | opened other version text =>
      rw [receive, find?_store, Message.tells?]
      by_cases same : other = uri
      · simp only [if_pos same, if_pos same.symm]
        rfl
      · simp only [if_neg same, if_neg (Ne.symm same)]
  | changed other version texts =>
      rw [receive, Message.tells?]
      cases texts.getLast? with
      | none =>
          by_cases same : other = uri
          · simp only [if_pos same]
            rfl
          · simp only [if_neg same]
      | some text =>
          simp only [find?_store]
          by_cases same : other = uri
          · simp only [if_pos same, if_pos same.symm]
            rfl
          · simp only [if_neg same, if_neg (Ne.symm same)]
  | closed other =>
      rw [receive, find?_forget, Message.tells?]
      by_cases same : other = uri
      · simp only [if_pos same, if_pos same.symm]
        rfl
      · simp only [if_neg same, if_neg (Ne.symm same)]
  | configured json =>
      rw [receive, configure]
      cases Settings.ofJson json with
      | ok settings => rfl
      | error error => rfl
  | hello options => rfl
  | ready => rfl
  | saved other => rfl
  | fixesAt other area => rfl
  | goodbye => rfl
  | unreadable isRequest => rfl

theorem settings_configure (json : Json) : (session.configure json).1.settings =
    (Settings.ofJson json).toOption.getD session.settings := by
  rw [configure]
  cases Settings.ofJson json with
  | ok settings => rfl
  | error error => rfl

theorem documents_configure (json : Json) :
    (session.configure json).1.documents = session.documents := by
  rw [configure]
  cases Settings.ofJson json with
  | ok settings => rfl
  | error error => rfl

theorem settings_receive :
    (session.receive message).settings = message.settings?.getD session.settings := by
  cases message with
  | configured json => exact settings_configure session json
  | changed uri version texts =>
      rw [receive]
      cases texts.getLast? with
      | none => rfl
      | some text => rfl
  | _ => rfl

theorem phase_receive : (session.receive message).phase = session.phase := by
  cases message with
  | configured json =>
      rw [receive, configure]
      cases Settings.ofJson json with
      | ok settings => rfl
      | error error => rfl
  | changed uri version texts =>
      rw [receive]
      cases texts.getLast? with
      | none => rfl
      | some text => rfl
  | _ => rfl

theorem nodup_receive (distinct : session.uris.Nodup) : (session.receive message).uris.Nodup := by
  cases message with
  | opened uri version text => exact nodup_store uri _ session distinct
  | changed uri version texts =>
      rw [receive]
      cases texts.getLast? with
      | none => exact distinct
      | some text => exact nodup_store uri _ session distinct
  | closed uri => exact nodup_forget uri session distinct
  | configured json =>
      rw [receive, configure]
      cases Settings.ofJson json with
      | ok settings => exact distinct
      | error error => exact distinct
  | _ => exact distinct

theorem mem_asked_iff (uri : Uri) : uri ∈ session.asked message ↔
    message.asksFor session.settings uri = true ∧ (session.find? uri).isSome = true := by
  rw [asked, List.mem_filter, mem_uris_iff]
  exact and_comm

theorem lintAll_singleton (uri : Uri) : session.lintAll lint [uri] = session.lint lint uri := by
  have lints := lints_lint lint session uri
  rw [lintAll, lintAll]
  generalize session.lint lint uri = step at lints ⊢
  cases lints with
  | unknown missing => rfl
  | failed document warning found noFindings =>
      simp only [idle, List.append_nil]
  | linted document findings found findingsEq =>
      simp only [idle, List.append_nil]

theorem asked_eq_nil (asksForNone : ∀ uri, message.asksFor session.settings uri = false) :
    session.asked message = [] := by
  rw [asked, List.filter_eq_nil_iff]
  intro uri member
  rw [asksForNone uri]
  simp

/-- A message that asks for one document lints it, if it is open. -/
theorem lintAll_asked (distinct : session.uris.Nodup) {uri : Uri}
    (asksForOne : ∀ other, message.asksFor session.settings other = (uri == other)) :
    session.lintAll lint (session.asked message) = session.lint lint uri := by
  have askedEq : session.asked message = session.uris.filter (· == uri) := by
    rw [asked]
    exact List.filter_congr fun other member => (asksForOne other).trans BEq.comm
  rw [askedEq, List.filter_beq]
  by_cases isOpen : uri ∈ session.uris
  · rw [List.count_eq_one_of_mem distinct isOpen]
    exact lintAll_singleton lint session uri
  · have missing : session.find? uri = none := by
      rw [mem_uris_iff] at isOpen
      simpa using isOpen
    rw [List.count_eq_zero_of_not_mem isOpen, lint_of_none lint session missing]
    rfl

/-- What a message leads to: the session takes in what it tells, and lints the documents
that it asks for.  Apart from the lints, only a document that is closed gets its
diagnostics published. -/
structure Handles (lint : LintFunction) (before : Session) (message : Message) (step : Step) :
    Prop where
  session_eq : step.session =
    ((before.receive message).lintAll lint ((before.receive message).asked message)).session
  runs_eq : step.runs =
    ((before.receive message).lintAll lint ((before.receive message).asked message)).runs
  published_eq : ∀ uri, message.tells? uri ≠ some none →
    step.notices.filterMap (Notice.published? uri) =
      ((before.receive message).lintAll lint
        ((before.receive message).asked message)).notices.filterMap (Notice.published? uri)

theorem handles_of_lintAll {step : Step} {before : Session}
    (stepEq : step =
      (before.receive message).lintAll lint ((before.receive message).asked message)) :
    Handles lint before message step := by
  rw [stepEq]
  exact ⟨rfl, rfl, fun uri told => rfl⟩

theorem handles_of_asksForNone {step : Step} (sessionEq : step.session = session.receive message)
    (runsEq : step.runs = [])
    (noticesEq : ∀ uri, message.tells? uri ≠ some none →
      step.notices.filterMap (Notice.published? uri) = [])
    (asksForNone : ∀ uri,
      message.asksFor (session.receive message).settings uri = false) :
    Handles lint session message step := by
  have askedEq := asked_eq_nil (session.receive message) message asksForNone
  constructor
  · rw [askedEq, sessionEq]
    rfl
  · rw [askedEq, runsEq]
    rfl
  · intro uri told
    rw [askedEq, noticesEq uri told]
    rfl

theorem handles_handle (distinct : session.uris.Nodup) (goesOn : message ≠ .goodbye) :
    Handles lint session message (session.handle lint message) := by
  have receivedDistinct := nodup_receive session message distinct
  cases message with
  | opened uri version text =>
      apply handles_of_lintAll
      rw [lintAll_asked lint _ _ receivedDistinct fun other => rfl]
      rfl
  | changed uri version texts =>
      rw [handle]
      cases lastEq : texts.getLast? with
      | none =>
          obtain rfl := List.getLast?_eq_none_iff.mp lastEq
          apply handles_of_asksForNone
          · rfl
          · rfl
          · exact fun uri told => rfl
          · intro other
            simp [Message.asksFor]
      | some text =>
          have notEmpty : texts.isEmpty = false := by
            cases texts with
            | nil => simp at lastEq
            | cons first rest => rfl
          have receiveEq : session.receive (.changed uri version texts) =
              session.store uri ⟨.ofText text, version, []⟩ := by
            rw [receive]
            simp only [lastEq]
          simp only
          by_cases onChange :
              (session.store uri ⟨.ofText text, version, []⟩).settings.lintOnChange = true
          · rw [if_pos onChange]
            apply handles_of_lintAll
            rw [lintAll_asked lint _ _ receivedDistinct, receiveEq]
            intro other
            rw [receiveEq, Message.asksFor, notEmpty, onChange]
            simp
          · rw [if_neg onChange]
            apply handles_of_asksForNone
            · exact receiveEq.symm
            · rfl
            · exact fun uri told => rfl
            · intro other
              rw [receiveEq, Message.asksFor]
              simp [onChange]
  | saved uri =>
      apply handles_of_lintAll
      rw [lintAll_asked lint _ _ receivedDistinct fun other => rfl]
      rfl
  | closed uri =>
      apply handles_of_asksForNone
      · rfl
      · rfl
      · intro other told
        have apart : uri ≠ other := by
          intro same
          simp [Message.tells?, same] at told
        rw [handle, List.filterMap_cons]
        simp only [Notice.published?, if_neg apart]
        rfl
      · exact fun other => rfl
  | configured json =>
      have askedEq : (session.receive (.configured json)).asked (.configured json) =
          (session.configure json).1.documents.map (·.1) := by
        rw [asked]
        exact List.filter_eq_self.mpr fun uri member => rfl
      rw [handle]
      constructor
      · rw [askedEq]
        rfl
      · rw [askedEq]
        rfl
      · intro uri told
        have ownEq : (session.configure json).2.filterMap (Notice.published? uri) = [] := by
          rw [configure]
          cases Settings.ofJson json with
          | ok settings => rfl
          | error error => rfl
        simp only
        rw [askedEq, List.filterMap_append, ownEq]
        rfl
  | goodbye => exact absurd rfl goesOn
  | ready =>
      exact handles_of_asksForNone lint session _ rfl rfl (fun uri told => rfl) fun uri => rfl
  | hello options =>
      exact handles_of_asksForNone lint session _ rfl rfl (fun uri told => rfl) fun uri => rfl
  | fixesAt uri area =>
      exact handles_of_asksForNone lint session _ rfl rfl (fun uri told => rfl) fun uri => rfl
  | unreadable isRequest =>
      exact handles_of_asksForNone lint session _ rfl rfl (fun uri told => rfl) fun uri => rfl

end Session

end Editor

end Pinpoint
