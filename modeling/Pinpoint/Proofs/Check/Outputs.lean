import Mathlib.Data.List.Forall2
import Pinpoint.CommandLine
import Pinpoint.Proofs.Check.Arguments
import Pinpoint.Proofs.Linter.Runs

/-!
# What a check leaves behind

Every file is checked on its own, with the same settings, and contributes its part to what
is printed, to the complaints and to the status.  A file that fails takes nothing away from
the others.
-/

namespace Pinpoint

namespace Check

/-- The part of a file in a check: what is found, if the file can be checked, what is
printed of it, what is complained about, and the commands that are run. -/
structure Share where
  found : Option (List Finding)
  printed : Text
  complaint : Text
  runs : List Run

/-- The line about a file that cannot be checked. -/
def complaintAbout (path : Path) (error : LintError) : Text :=
  "error: ".toList ++ path ++ ": ".toList ++ error.message.toList ++ ['\n']

/-- The part that a file has in a check, whatever other files there are. -/
inductive Contributes (around : Surroundings) (settings : Settings) (path : Path) : Share → Prop
  | unreadable {cause : FileError} (readEq : around.read path = .error cause) :
      Contributes around settings path ⟨none, [], complaintAbout path (.file cause), []⟩
  | notText {content : Bytes} (readEq : around.read path = .ok content)
      (decodeEq : content.decode? = none) :
      Contributes around settings path ⟨none, [], complaintAbout path (.file .notText), []⟩
  | unlinted {content : Bytes} {text : Text} {error : LintError} {runs : List Run}
      (readEq : around.read path = .ok content) (decodeEq : content.decode? = some text)
      (lints : Linter.Lints around settings path content (.error error) runs) :
      Contributes around settings path ⟨none, [], complaintAbout path error, runs⟩
  | linted {content : Bytes} {text : Text} {findings : List Finding} {runs : List Run}
      (readEq : around.read path = .ok content) (decodeEq : content.decode? = some text)
      (lints : Linter.Lints around settings path content (.ok findings) runs) :
      Contributes around settings path
        ⟨some findings, (Diagnostic.ofFindings (IndexedText.ofText text) findings).flatMap
          (Diagnostic.format path (IndexedText.ofText text)), [], runs⟩

/-- The check of a file gives its share. -/
structure FileCheck.Gives (check : FileCheck) (share : Share) : Prop where
  printed : check.printed = share.printed
  complaint : check.complaint = share.complaint
  runs : check.runs = share.runs
  failed : check.failed = true ↔ share.found = none
  reported : check.printed ≠ [] ↔ ∃ finding others, share.found = some (finding :: others)

theorem format_ne_nil (path : Path) (document : IndexedText) (diagnostic : Diagnostic) :
    diagnostic.format path document ≠ [] := by
  simp [Diagnostic.format]

/-- Something is printed of a file exactly if something is found in it. -/
theorem flatMap_format_ne_nil_iff (path : Path) (document : IndexedText)
    (findings : List Finding) :
    (Diagnostic.ofFindings document findings).flatMap (Diagnostic.format path document) ≠ [] ↔
      findings ≠ [] := by
  cases findings with
  | nil => simp [Diagnostic.ofFindings]
  | cons finding others => simp [Diagnostic.ofFindings, format_ne_nil]

/-! ### One file -/

section OneFile

variable {around : Surroundings} {settings : Settings} {path : Path}

theorem exists_contributes (around : Surroundings) (settings : Settings) (path : Path) :
    ∃ share, Contributes around settings path share := by
  cases readEq : around.read path with
  | error cause => exact ⟨_, .unreadable readEq⟩
  | ok content =>
      cases decodeEq : content.decode? with
      | none => exact ⟨_, .notText readEq decodeEq⟩
      | some text =>
          have lints : Linter.Lints around settings path content _ _ :=
            (Linter.lintFile_eq_iff_lints readEq).1 rfl
          cases outcomeEq : (Linter.lintFile around settings path).outcome with
          | error error => exact ⟨_, .unlinted readEq decodeEq (outcomeEq ▸ lints)⟩
          | ok findings => exact ⟨_, .linted readEq decodeEq (outcomeEq ▸ lints)⟩

/-- What the check of a file leaves is its share. -/
theorem Contributes.gives {share : Share} (contributes : Contributes around settings path share) :
    (checkFile around settings path).Gives share := by
  rw [checkFile, Surroundings.readText]
  cases contributes with
  | unreadable readEq =>
      rw [readEq]
      exact ⟨rfl, rfl, rfl, by simp [FileCheck.failed], by simp [FileCheck.printed]⟩
  | notText readEq decodeEq =>
      simp only [readEq, decodeEq]
      exact ⟨rfl, rfl, rfl, by simp [FileCheck.failed], by simp [FileCheck.printed]⟩
  | unlinted readEq decodeEq lints =>
      simp only [readEq, decodeEq, (Linter.lintFile_eq_iff_lints readEq).2 lints]
      exact ⟨rfl, rfl, rfl, by simp [FileCheck.failed, Except.map],
        by simp [FileCheck.printed, Except.map]⟩
  | linted readEq decodeEq lints =>
      simp only [readEq, decodeEq, (Linter.lintFile_eq_iff_lints readEq).2 lints]
      refine ⟨rfl, rfl, rfl, by simp [FileCheck.failed, Except.map], ?_⟩
      simp only [FileCheck.printed, Except.map, flatMap_format_ne_nil_iff, Option.some.injEq]
      exact List.ne_nil_iff_exists_cons

/-- Something is found of a file exactly as it can be read as text and linted. -/
theorem Contributes.found_eq {share : Share}
    (contributes : Contributes around settings path share) :
    share.found = (around.readText path).toOption.bind fun _ =>
      (Linter.lintFile around settings path).outcome.toOption := by
  rw [Surroundings.readText]
  cases contributes with
  | unreadable readEq =>
      rw [readEq]
      rfl
  | notText readEq decodeEq =>
      simp only [readEq, decodeEq]
      rfl
  | unlinted readEq decodeEq lints | linted readEq decodeEq lints =>
      simp only [readEq, decodeEq, (Linter.lintFile_eq_iff_lints readEq).2 lints]
      rfl

/-- A file has one share, since all of it follows from what is read and from the reply. -/
theorem Contributes.unique {share other : Share}
    (contributes : Contributes around settings path share)
    (same : Contributes around settings path other) : share = other := by
  obtain ⟨printed, complaint, runs, -, -⟩ := contributes.gives
  obtain ⟨samePrinted, sameComplaint, sameRuns, -, -⟩ := same.gives
  have found := contributes.found_eq.trans same.found_eq.symm
  cases share
  cases other
  rw [Share.mk.injEq]
  exact ⟨found, printed.symm.trans samePrinted, complaint.symm.trans sameComplaint,
    runs.symm.trans sameRuns⟩

end OneFile

/-! ### All files -/

theorem exists_shares (around : Surroundings) (settings : Settings) (files : List Path) :
    ∃ shares, List.Forall₂ (Contributes around settings) files shares ∧
      List.Forall₂ FileCheck.Gives (files.map (checkFile around settings)) shares := by
  induction files with
  | nil => exact ⟨[], .nil, .nil⟩
  | cons path files ih =>
      obtain ⟨share, contributes⟩ := exists_contributes around settings path
      obtain ⟨shares, allContribute, allGive⟩ := ih
      exact ⟨share :: shares, .cons contributes allContribute, .cons contributes.gives allGive⟩

section Lists

variable {α β γ : Type} {first : List α} {second : List β}

theorem flatMap_eq_of_forall₂ {f : α → List γ} {g : β → List γ}
    (same : List.Forall₂ (fun a b => f a = g b) first second) :
    first.flatMap f = second.flatMap g := by
  have mapEq : first.map f = second.map g := by
    rw [← List.forall₂_eq_eq_eq, List.forall₂_map_left_iff, List.forall₂_map_right_iff]
    exact same
  rw [List.flatMap_def, List.flatMap_def, mapEq]

theorem exists_mem_iff_of_forall₂ {p : α → Prop} {q : β → Prop}
    (same : List.Forall₂ (fun a b => p a ↔ q b) first second) :
    (∃ a ∈ first, p a) ↔ ∃ b ∈ second, q b := by
  induction same with
  | nil => simp
  | cons headIff _ ih => simp only [List.exists_mem_cons_iff, headIff, ih]

end Lists

/-- The status tells of failures first, and of findings if there is no failure. -/
theorem status_iff (checks : List FileCheck) :
    (status checks = 2 ↔ ∃ check ∈ checks, check.failed = true) ∧
    (status checks = 1 ↔ (¬ ∃ check ∈ checks, check.failed = true) ∧
      ∃ check ∈ checks, check.printed ≠ []) ∧
    (status checks = 0 ↔ (¬ ∃ check ∈ checks, check.failed = true) ∧
      ¬ ∃ check ∈ checks, check.printed ≠ []) := by
  have printed : (checks.any fun check => !check.printed.isEmpty) = true ↔
      ∃ check ∈ checks, check.printed ≠ [] := by
    simp
  rw [status, ← List.any_eq_true, ← printed]
  split
  · rename_i failed
    simp [failed]
  · rename_i noneFailed
    split
    · rename_i somePrinted
      simp [noneFailed, somePrinted]
    · rename_i nonePrinted
      simp [noneFailed, nonePrinted]

theorem status_of_gives {checks : List FileCheck} {shares : List Share}
    (gives : List.Forall₂ FileCheck.Gives checks shares) :
    (status checks = 2 ↔ ∃ share ∈ shares, share.found = none) ∧
    (status checks = 1 ↔ (∀ share ∈ shares, share.found ≠ none) ∧
      ∃ share ∈ shares, ∃ finding others, share.found = some (finding :: others)) ∧
    (status checks = 0 ↔ ∀ share ∈ shares, share.found = some []) := by
  have failed := exists_mem_iff_of_forall₂ (gives.imp fun _ _ one => one.failed)
  have reported := exists_mem_iff_of_forall₂ (gives.imp fun _ _ one => one.reported)
  have noneFailed : (¬ ∃ share ∈ shares, share.found = none) ↔
      ∀ share ∈ shares, share.found ≠ none := by
    simp
  obtain ⟨two, one, zero⟩ := status_iff checks
  rw [failed] at two
  rw [failed, reported, noneFailed] at one zero
  refine ⟨two, one, zero.trans ?_⟩
  constructor
  · rintro ⟨noFailure, nothing⟩ share member
    match foundEq : share.found with
    | none => exact absurd foundEq (noFailure share member)
    | some [] => rfl
    | some (finding :: others) => exact absurd ⟨share, member, finding, others, foundEq⟩ nothing
  · intro allClean
    refine ⟨fun share member => by simp [allClean share member], ?_⟩
    rintro ⟨share, member, finding, others, foundEq⟩
    simp [allClean share member] at foundEq

/-! ### The command -/

section Command

variable {around : Surroundings} {arguments : List Text}

theorem run_check (input : Bytes) : CommandLine.run around ("check".toList :: arguments) input =
    CommandLine.check around arguments := by
  rw [CommandLine.run]
  simp only [String.ofList_toList]

/-- Bad arguments keep everything from being checked. -/
theorem check_of_error {error : UsageError} (parsed : parseArguments arguments = .error error) :
    (CommandLine.check around arguments).status = 2 ∧
      (CommandLine.check around arguments).stdout = [] ∧
      (CommandLine.check around arguments).runs = [] := by
  rw [CommandLine.check, parsed]
  exact ⟨rfl, rfl, rfl⟩

/-- Good arguments have every file checked. -/
theorem check_of_ok {options : Options} (parsed : parseArguments arguments = .ok options) :
    ∃ shares, List.Forall₂ (Contributes around options.settings) options.files shares ∧
      (CommandLine.check around arguments).stdout = shares.flatMap (·.printed) ∧
      (CommandLine.check around arguments).stderr = shares.flatMap (·.complaint) ∧
      (CommandLine.check around arguments).runs = shares.flatMap (·.runs) ∧
      ((CommandLine.check around arguments).status = 2 ↔ ∃ share ∈ shares, share.found = none) ∧
      ((CommandLine.check around arguments).status = 1 ↔ (∀ share ∈ shares, share.found ≠ none) ∧
        ∃ share ∈ shares, ∃ finding others, share.found = some (finding :: others)) ∧
      ((CommandLine.check around arguments).status = 0 ↔
        ∀ share ∈ shares, share.found = some []) := by
  obtain ⟨shares, contribute, gives⟩ := exists_shares around options.settings options.files
  rw [CommandLine.check, parsed]
  exact ⟨shares, contribute, flatMap_eq_of_forall₂ (gives.imp fun _ _ one => one.printed),
    flatMap_eq_of_forall₂ (gives.imp fun _ _ one => one.complaint),
    flatMap_eq_of_forall₂ (gives.imp fun _ _ one => one.runs), status_of_gives gives⟩

end Command

/-- Bad arguments end a check with status two and nothing printed.  Otherwise the last value
of each option counts, every file has a share of its own, what is left behind is the shares
one after the other, and the status is two if a file failed, one if something was found in a
file, and zero if nothing was found in any. -/
theorem outputs_of_check (around : Surroundings) (arguments : List Text) (input : Bytes) :
    let output := CommandLine.run around ("check".toList :: arguments) input
    let settings : Settings :=
      { executable := (lastValue? linterOption arguments).getD "protolint".toList
        extraArgs := []
        lintOnChange := true
        configPath := lastValue? configOption arguments }
    (((∃ argument ∈ arguments, isUnknown argument = true) ∨ filesOf arguments = []) ∧
      output.status = 2 ∧ output.stdout = [] ∧ output.runs = []) ∨
    ((∀ argument ∈ arguments, isUnknown argument = false) ∧ filesOf arguments ≠ [] ∧
      ∃ shares, List.Forall₂ (Contributes around settings) (filesOf arguments) shares ∧
        output.stdout = shares.flatMap (·.printed) ∧
        output.stderr = shares.flatMap (·.complaint) ∧
        output.runs = shares.flatMap (·.runs) ∧
        (output.status = 2 ↔ ∃ share ∈ shares, share.found = none) ∧
        (output.status = 1 ↔ (∀ share ∈ shares, share.found ≠ none) ∧
          ∃ share ∈ shares, ∃ finding others, share.found = some (finding :: others)) ∧
        (output.status = 0 ↔ ∀ share ∈ shares, share.found = some [])) := by
  intro output settings
  have outputEq : output = CommandLine.check around arguments := run_check input
  have parsed := parseArguments_eq arguments
  rw [outputEq]
  cases unknownEq : arguments.find? isUnknown with
  | some option =>
      rw [unknownEq] at parsed
      have unknown : ∃ argument ∈ arguments, isUnknown argument = true :=
        ⟨option, List.mem_of_find?_eq_some unknownEq, List.find?_some unknownEq⟩
      exact Or.inl ⟨Or.inl unknown, check_of_error parsed⟩
  | none =>
      rw [unknownEq] at parsed
      have known : ∀ argument ∈ arguments, isUnknown argument = false := by
        simpa using unknownEq
      by_cases noFile : filesOf arguments = []
      · simp only [noFile, if_true] at parsed
        exact Or.inl ⟨Or.inr noFile, check_of_error parsed⟩
      · simp only [noFile, if_false] at parsed
        have optionsEq : Options.withArguments ⟨.initial, []⟩ arguments =
            ⟨settings, filesOf arguments⟩ := by
          have configEq : (lastValue? configOption arguments).or Settings.initial.configPath =
              lastValue? configOption arguments := Option.or_none
          rw [Options.withArguments, configEq, List.nil_append]
          rfl
        rw [optionsEq] at parsed
        exact Or.inr ⟨known, noFile, check_of_ok parsed⟩

/-- The command that lints a file with `lint` and the configuration in `conf`. -/
def confCommand (file : String) : Command :=
  ⟨"lint".toList, ["lint", "-reporter=json", "-config_dir_path", "conf", file].map String.toList⟩

/-- What `lint` finds in one of two files. -/
def braceFinding : Finding :=
  ⟨"a.proto".toList, 1, 1, "\x7b".toList, "R".toList, none⟩

/-- The report of this finding. -/
def braceReport : Bytes :=
  Bytes.ofText "\x7b\"lints\":[[\"a.proto\",1,1,\"\x7b\",\"R\"]]\x7d".toList

/-- Surroundings of two files that are alike, in the first of which `lint` finds something. -/
def twoFiles : Surroundings where
  read path :=
    if path = "a.proto".toList ∨ path = "c.proto".toList then .ok (Bytes.ofText ['x'])
    else .error .notFound
  isFile path := path == "conf/protolint.yml".toList
  standIn _ _ := .error .notFound
  reply command _ :=
    if command = confCommand "a.proto" then .ok ⟨braceReport, [], .exited 1⟩
    else if command = confCommand "c.proto" then .ok ⟨[], [], .exited 0⟩
    else .error .notFound

/-- The settings of a check for which `lint` and a configuration in `conf` are chosen. -/
def confSettings : Settings :=
  ⟨"lint".toList, [], true, some "conf/protolint.yml".toList⟩

theorem isCommand_confCommand (file : String) :
    Linter.IsCommand twoFiles.isFile confSettings file.toList (confCommand file) :=
  .mk (.ofFile rfl) (.configured "conf".toList)

theorem contributes_found : Contributes twoFiles confSettings "a.proto".toList
    ⟨some [braceFinding], "a.proto:1:1-2: warning[R] \x7b\n".toList, [],
      [⟨confCommand "a.proto", some ['x']⟩]⟩ := by
  have printed : (Diagnostic.ofFindings (IndexedText.ofText ['x']) [braceFinding]).flatMap
      (Diagnostic.format "a.proto".toList (IndexedText.ofText ['x'])) =
        "a.proto:1:1-2: warning[R] \x7b\n".toList := by
    decide +kernel
  have parsed : Report.parse? braceReport.decodeLossy = some [braceFinding] := by
    decide +kernel
  have decoded : (Bytes.ofText ['x']).decodeLossy = ['x'] := by decide
  have lints : Linter.Lints twoFiles confSettings "a.proto".toList (Bytes.ofText ['x'])
      (.ok [braceFinding]) [⟨confCommand "a.proto", some ['x']⟩] :=
    decoded ▸ .started (isCommand_confCommand "a.proto") rfl
      (.found (.inr rfl) (.stdout (by decide)) parsed)
  rw [← printed]
  exact .linted rfl (by decide) lints

theorem contributes_missing : Contributes twoFiles confSettings "b.proto".toList
    ⟨none, [], complaintAbout "b.proto".toList (.file .notFound), []⟩ :=
  .unreadable rfl

theorem contributes_clean : Contributes twoFiles confSettings "c.proto".toList
    ⟨some [], [], [], [⟨confCommand "c.proto", some ['x']⟩]⟩ := by
  have decoded : (Bytes.ofText ['x']).decode? = some ['x'] := by decide
  exact .linted rfl decoded (.started (isCommand_confCommand "c.proto") rfl
    (.found (.inl rfl) (.stderr (by decide)) (by decide)))

/-- Three files, of which the second is missing, with options between them: the last ones count
for all files. -/
theorem outputs_of_check_between_options :
    let arguments := ["a.proto", "--protolint=other", "b.proto", "--config=conf/protolint.yml",
      "c.proto", "--protolint=lint"].map String.toList
    let output := CommandLine.run twoFiles ("check".toList :: arguments) []
    output.status = 2 ∧ output.stdout = "a.proto:1:1-2: warning[R] \x7b\n".toList ∧
      output.stderr = "error: b.proto: No such file or directory (os error 2)\n".toList ∧
      output.runs.map Run.command = [confCommand "a.proto", confCommand "c.proto"] := by
  intro arguments output
  have filesEq : filesOf arguments =
      ["a.proto".toList, "b.proto".toList, "c.proto".toList] := by decide
  have linterEq : lastValue? linterOption arguments = some "lint".toList := by decide
  have configEq : lastValue? configOption arguments = some "conf/protolint.yml".toList := by
    decide
  obtain ⟨bad, -⟩ | ⟨-, -, shares, contribute, printed, complained, ran, failed, -, -⟩ :=
    outputs_of_check twoFiles arguments []
  · exact absurd bad (by decide)
  · rw [filesEq, linterEq, configEq] at contribute
    obtain _ | ⟨isFirst, _ | ⟨isSecond, _ | ⟨isThird, ⟨⟩⟩⟩⟩ := contribute
    obtain rfl := isFirst.unique contributes_found
    obtain rfl := isSecond.unique contributes_missing
    obtain rfl := isThird.unique contributes_clean
    refine ⟨failed.2 ⟨_, List.mem_cons_of_mem _ List.mem_cons_self, rfl⟩, printed.trans ?_,
      complained.trans ?_, (congrArg (List.map Run.command) ran).trans rfl⟩
    · decide
    · decide

end Check

end Pinpoint
