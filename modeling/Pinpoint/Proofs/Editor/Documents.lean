import Mathlib.Data.List.Basic
import Pinpoint.Editor

/-!
# Open documents

The documents of a session are kept by URI, each once.  A lint replaces the diagnostics
of its own document, if it succeeds, and publishes them; it changes nothing else.
-/

namespace Pinpoint

namespace Editor

/-- What a notice says about the diagnostics of a document. -/
def Notice.published? (uri : Uri) : Notice → Option (List Published × Option Int)
  | .publish other diagnostics version => if other = uri then some (diagnostics, version) else none
  | .warning _ => none
  | .note _ => none

namespace Document

/-- The diagnostics of a document as they are published. -/
def published (document : Document) : List Published × Option Int :=
  (document.diagnostics.map (Published.ofDiagnostic document.text), some document.version)

/-- A document with the diagnostics of new findings, where there is a list of these. -/
def withFindings (document : Document) : Option (List Finding) → Document
  | some findings => { document with diagnostics := Diagnostic.ofFindings document.text findings }
  | none => document

/-- What the linter says about a document under settings. -/
def lintUnder (lint : LintFunction) (settings : Settings) (uri : Uri) (document : Document) :
    Lint :=
  lint settings uri.filePath document.text.text

/-- The findings of a lint that succeeds. -/
def findings? (lint : LintFunction) (settings : Settings) (uri : Uri) (document : Document) :
    Option (List Finding) :=
  (document.lintUnder lint settings uri).outcome.toOption

theorem text_withFindings (document : Document) (findings : Option (List Finding)) :
    (document.withFindings findings).text = document.text := by
  cases findings with
  | none => rfl
  | some findings => rfl

/-- New findings take the place of old ones. -/
theorem withFindings_withFindings (document : Document) (old new : Option (List Finding)) :
    (document.withFindings old).withFindings new = document.withFindings (new.or old) := by
  cases new with
  | none => rfl
  | some findings =>
      cases old with
      | none => rfl
      | some old => rfl

end Document

namespace Session

/-! ### Documents by URI -/

section

variable (uri other : Uri) (document : Document) (session : Session)

theorem lookup_cons_eq (first : Uri) (rest : List (Uri × Document)) :
    ((first, document) :: rest).lookup other =
      if other = first then some document else rest.lookup other := by
  by_cases same : other = first
  · rw [List.lookup_cons, if_pos same, beq_iff_eq.mpr same]
  · rw [List.lookup_cons, if_neg same, beq_eq_false_iff_ne.mpr same]

theorem lookup_put (documents : List (Uri × Document)) :
    (put uri document documents).lookup other =
      if other = uri then some document else documents.lookup other := by
  induction documents with
  | nil =>
      rw [put, lookup_cons_eq]
  | cons entry rest ih =>
      obtain ⟨first, old⟩ := entry
      rw [put]
      by_cases isFirst : first = uri
      · subst isFirst
        rw [if_pos rfl, lookup_cons_eq, lookup_cons_eq]
        by_cases same : other = first
        · rw [if_pos same, if_pos same]
        · rw [if_neg same, if_neg same, if_neg same]
      · rw [if_neg isFirst, lookup_cons_eq, lookup_cons_eq, ih]
        by_cases same : other = first
        · subst same
          rw [if_pos rfl, if_pos rfl, if_neg isFirst]
        · rw [if_neg same, if_neg same]

theorem lookup_filter_ne (documents : List (Uri × Document)) :
    (documents.filter fun entry => entry.1 ≠ uri).lookup other =
      if other = uri then none else documents.lookup other := by
  induction documents with
  | nil => simp
  | cons entry rest ih =>
      obtain ⟨first, old⟩ := entry
      rw [lookup_cons_eq]
      by_cases isFirst : first = uri
      · subst isFirst
        rw [List.filter_cons_of_neg (by simp), ih]
        by_cases same : other = first
        · rw [if_pos same, if_pos same]
        · rw [if_neg same, if_neg same, if_neg same]
      · rw [List.filter_cons_of_pos (by simp [isFirst]), lookup_cons_eq, ih]
        by_cases same : other = first
        · subst same
          rw [if_pos rfl, if_pos rfl, if_neg isFirst]
        · rw [if_neg same, if_neg same]

/-- A document that is stored again keeps its place; a new one becomes the last. -/
theorem map_fst_put (documents : List (Uri × Document)) :
    (put uri document documents).map (·.1) =
      if uri ∈ documents.map (·.1) then documents.map (·.1)
      else documents.map (·.1) ++ [uri] := by
  induction documents with
  | nil => rfl
  | cons entry rest ih =>
      obtain ⟨first, old⟩ := entry
      rw [put]
      by_cases isFirst : first = uri
      · subst isFirst
        simp
      · have others : uri ∈ ((first, old) :: rest).map (·.1) ↔ uri ∈ rest.map (·.1) := by
          rw [List.map_cons, List.mem_cons]
          exact or_iff_right (Ne.symm isFirst)
        rw [if_neg isFirst, List.map_cons, ih]
        by_cases isOpen : uri ∈ rest.map (·.1)
        · rw [if_pos isOpen, if_pos (others.mpr isOpen)]
          rfl
        · rw [if_neg isOpen, if_neg fun member => isOpen (others.mp member)]
          rfl

@[simp]
theorem find?_store : (session.store uri document).find? other =
    if other = uri then some document else session.find? other :=
  lookup_put uri other document session.documents

@[simp]
theorem find?_forget : (session.forget uri).find? other =
    if other = uri then none else session.find? other :=
  lookup_filter_ne uri other session.documents

/-- The URIs of the open documents. -/
def uris : List Uri :=
  session.documents.map (·.1)

theorem mem_uris_iff : uri ∈ session.uris ↔ (session.find? uri).isSome = true := by
  rw [uris, find?]
  induction session.documents with
  | nil => simp
  | cons entry rest ih =>
      obtain ⟨first, old⟩ := entry
      rw [List.map_cons, List.mem_cons, lookup_cons_eq, ih]
      by_cases same : uri = first
      · rw [if_pos same]
        exact ⟨fun _ => rfl, fun _ => Or.inl same⟩
      · rw [if_neg same]
        exact or_iff_right same

theorem uris_store : (session.store uri document).uris =
    if uri ∈ session.uris then session.uris else session.uris ++ [uri] :=
  map_fst_put uri document session.documents

theorem nodup_store (distinct : session.uris.Nodup) :
    (session.store uri document).uris.Nodup := by
  rw [uris_store]
  by_cases isOpen : uri ∈ session.uris
  · rw [if_pos isOpen]
    exact distinct
  · rw [if_neg isOpen, List.nodup_append]
    refine ⟨distinct, by simp, ?_⟩
    intro stored member added isAdded
    rw [List.mem_singleton.mp isAdded]
    rintro rfl
    exact isOpen member

theorem nodup_forget (distinct : session.uris.Nodup) : (session.forget uri).uris.Nodup :=
  (List.filter_sublist.map _).nodup distinct

end

/-! ### Lints -/

/-- A lint of some documents keeps everything but their diagnostics. -/
structure Relinted (lint : LintFunction) (linted : List Uri) (before after : Session) :
    Prop where
  phase_eq : after.phase = before.phase
  settings_eq : after.settings = before.settings
  uris_eq : after.uris = before.uris
  find?_eq : ∀ uri, after.find? uri =
    if uri ∈ linted then
      (before.find? uri).map fun document =>
        document.withFindings (document.findings? lint before.settings uri)
    else before.find? uri

/-- What a lint of some documents publishes, and what it runs. -/
structure Reported (lint : LintFunction) (linted : List Uri) (before : Session) (step : Step) :
    Prop where
  published_eq : ∀ uri, step.notices.filterMap (Notice.published? uri) =
    if uri ∈ linted then
      ((before.find? uri).bind fun document =>
        (document.findings? lint before.settings uri).map fun findings =>
          (document.withFindings (some findings)).published).toList
    else []
  runs_eq : step.runs = linted.flatMap fun uri =>
    ((before.find? uri).map fun document =>
      (document.lintUnder lint before.settings uri).runs).getD []

/-- What the lint of a document may come to. -/
inductive Lints (lint : LintFunction) (session : Session) (uri : Uri) : Step → Prop
  | unknown (missing : session.find? uri = none) : Lints lint session uri (session.idle .nothing)
  | failed (document : Document) (warning : String) (found : session.find? uri = some document)
      (noFindings : document.findings? lint session.settings uri = none) :
      Lints lint session uri ⟨session, .nothing, [.warning warning],
        (document.lintUnder lint session.settings uri).runs⟩
  | linted (document : Document) (findings : List Finding)
      (found : session.find? uri = some document)
      (findingsEq : document.findings? lint session.settings uri = some findings) :
      Lints lint session uri ⟨session.store uri (document.withFindings (some findings)), .nothing,
        [.publish uri (document.withFindings (some findings)).published.1
          (document.withFindings (some findings)).published.2],
        (document.lintUnder lint session.settings uri).runs⟩

variable (lint : LintFunction) (session : Session)

theorem lints_lint (uri : Uri) : Lints lint session uri (session.lint lint uri) := by
  rw [Session.lint]
  cases found : session.find? uri with
  | none => exact .unknown found
  | some document =>
      cases outcomeEq : (lint session.settings uri.filePath document.text.text).outcome with
      | error error =>
          have noFindings : document.findings? lint session.settings uri = none := by
            rw [Document.findings?, Document.lintUnder, outcomeEq]
            rfl
          simp only [outcomeEq]
          exact .failed document _ found noFindings
      | ok findings =>
          have findingsEq : document.findings? lint session.settings uri = some findings := by
            rw [Document.findings?, Document.lintUnder, outcomeEq]
            rfl
          simp only [outcomeEq]
          exact .linted document findings found findingsEq

theorem lint_of_none {uri : Uri} (missing : session.find? uri = none) :
    session.lint lint uri = session.idle .nothing := by
  rw [Session.lint]
  simp only [missing]

theorem relinted_lint (uri : Uri) :
    Relinted lint [uri] session (session.lint lint uri).session := by
  have lints := lints_lint lint session uri
  generalize session.lint lint uri = step at lints ⊢
  cases lints with
  | unknown missing =>
      refine ⟨rfl, rfl, rfl, ?_⟩
      intro other
      by_cases same : other = uri
      · rw [if_pos (by simp [same]), same, missing]
        exact missing
      · rw [if_neg (by simp [same])]
        rfl
  | failed document warning found noFindings =>
      refine ⟨rfl, rfl, rfl, ?_⟩
      intro other
      by_cases same : other = uri
      · rw [if_pos (by simp [same]), same, found, Option.map_some, noFindings]
        rfl
      · rw [if_neg (by simp [same])]
  | linted document findings found findingsEq =>
      have isOpen : uri ∈ session.uris := by
        rw [mem_uris_iff, found]
        rfl
      refine ⟨rfl, rfl, ?_, ?_⟩
      · rw [uris_store, if_pos isOpen]
      · intro other
        rw [find?_store]
        by_cases same : other = uri
        · rw [if_pos same, if_pos (by simp [same]), same, found, Option.map_some, findingsEq]
        · rw [if_neg same, if_neg (by simp [same])]

theorem reported_lint (uri : Uri) : Reported lint [uri] session (session.lint lint uri) := by
  have lints := lints_lint lint session uri
  generalize session.lint lint uri = step at lints ⊢
  cases lints with
  | unknown missing =>
      constructor
      · intro other
        by_cases same : other = uri
        · rw [if_pos (by simp [same]), same, missing]
          rfl
        · rw [if_neg (by simp [same])]
          rfl
      · rw [List.flatMap_singleton, missing]
        rfl
  | failed document warning found noFindings =>
      constructor
      · intro other
        by_cases same : other = uri
        · rw [if_pos (by simp [same]), same, found, Option.bind_some, noFindings]
          rfl
        · rw [if_neg (by simp [same])]
          rfl
      · rw [List.flatMap_singleton, found]
        rfl
  | linted document findings found findingsEq =>
      constructor
      · intro other
        by_cases same : other = uri
        · rw [if_pos (by simp [same]), same, found, Option.bind_some, findingsEq,
            List.filterMap_cons]
          simp only [Notice.published?, if_true]
          rfl
        · rw [if_neg (by simp [same]), List.filterMap_cons]
          simp only [Notice.published?, if_neg (Ne.symm same)]
          rfl
      · rw [List.flatMap_singleton, found]
        rfl

theorem relinted_lintAll (linted : List Uri) (distinct : linted.Nodup) :
    Relinted lint linted session (session.lintAll lint linted).session := by
  induction linted generalizing session with
  | nil => exact ⟨rfl, rfl, rfl, fun uri => rfl⟩
  | cons first rest ih =>
      rw [List.nodup_cons] at distinct
      have head := relinted_lint lint session first
      have tail := ih (session.lint lint first).session distinct.2
      refine ⟨tail.phase_eq.trans head.phase_eq, tail.settings_eq.trans head.settings_eq,
        tail.uris_eq.trans head.uris_eq, ?_⟩
      intro uri
      have step := tail.find?_eq uri
      rw [head.find?_eq, head.settings_eq] at step
      rw [lintAll]
      simp only
      rw [step]
      by_cases isFirst : uri = first
      · subst isFirst
        rw [if_neg distinct.1, if_pos (by simp), if_pos List.mem_cons_self]
      · rw [if_neg (show uri ∉ [first] by simp [isFirst])]
        by_cases later : uri ∈ rest
        · rw [if_pos later, if_pos (List.mem_cons_of_mem _ later)]
        · rw [if_neg later, if_neg (by simp [isFirst, later])]

theorem reported_lintAll (linted : List Uri) (distinct : linted.Nodup) :
    Reported lint linted session (session.lintAll lint linted) := by
  induction linted generalizing session with
  | nil => exact ⟨fun uri => rfl, rfl⟩
  | cons first rest ih =>
      rw [List.nodup_cons] at distinct
      have step := relinted_lint lint session first
      have head := reported_lint lint session first
      have tail := ih (session.lint lint first).session distinct.2
      -- The first lint changes none of the documents that are linted later.
      have unchanged : ∀ uri ∈ rest, (session.lint lint first).session.find? uri =
          session.find? uri := by
        intro uri later
        have other : uri ∉ [first] := by
          rw [List.mem_singleton]
          rintro rfl
          exact distinct.1 later
        rw [step.find?_eq, if_neg other]
      rw [lintAll]
      constructor
      · intro uri
        simp only
        rw [List.filterMap_append, head.published_eq, tail.published_eq, step.settings_eq]
        by_cases isFirst : uri = first
        · subst isFirst
          rw [if_neg distinct.1, if_pos (by simp), if_pos List.mem_cons_self, List.append_nil]
        · rw [if_neg (show uri ∉ [first] by simp [isFirst]), List.nil_append]
          by_cases later : uri ∈ rest
          · rw [if_pos later, if_pos (List.mem_cons_of_mem _ later), unchanged uri later]
          · rw [if_neg later, if_neg (by simp [isFirst, later])]
      · simp only
        have tailRuns := tail.runs_eq
        rw [step.settings_eq] at tailRuns
        rw [head.runs_eq, tailRuns, List.flatMap_singleton, List.flatMap_cons]
        apply congrArg
        apply List.flatMap_congr
        intro uri later
        rw [unchanged uri later]

end Session

end Editor

end Pinpoint
