import Pinpoint.Linter
import Pinpoint.Proofs.Linter.Discovery

/-!
# What linting a file means

A file is linted with one command, which names the folder of its configuration and the file.
The findings are in the report among what the command prints, and there are none if it cannot
be run or ends in any other way than the linter does after its work.
-/

namespace Pinpoint

namespace Linter

/-- The folder whose configuration is used for a file, given the one that was chosen: a chosen
file stands for its folder, and without a choice the nearest configured folder is used. -/
inductive UsesFolder (isFile : Path → Bool) (path : Path) : Option Path → Option Path → Prop
  | nearest {found : Option Path} (finds : Config.Finds isFile path found) :
      UsesFolder isFile path none found
  | ofFile {chosen : Path} (file : isFile chosen = true) :
      UsesFolder isFile path (some chosen) (Path.parent? chosen)
  | folder {chosen : Path} (noFile : isFile chosen = false) :
      UsesFolder isFile path (some chosen) (some chosen)

/-- The arguments of the linter for a file. -/
inductive Asks (settings : Settings) (path : Path) : Option Path → List Text → Prop
  | unconfigured : Asks settings path none
      ("lint".toList :: "-reporter=json".toList :: (settings.extraArgs ++ [path]))
  | configured (folder : Path) : Asks settings path (some folder)
      ("lint".toList :: "-reporter=json".toList :: "-config_dir_path".toList :: folder ::
        (settings.extraArgs ++ [path]))

/-- The command that lints a file in given surroundings. -/
inductive IsCommand (isFile : Path → Bool) (settings : Settings) (path : Path) : Command → Prop
  | mk {folder : Option Path} {args : List Text}
      (usesFolder : UsesFolder isFile path settings.configPath folder)
      (asks : Asks settings path folder args) :
      IsCommand isFile settings path ⟨settings.executable, args⟩

/-- Where a reply has its report: in what is printed regularly if there is a brace in it, and
otherwise in what is printed as errors. -/
inductive ReportsIn (reply : Reply) : Text → Prop
  | stdout (braced : '{' ∈ reply.stdout.decodeLossy) : ReportsIn reply reply.stdout.decodeLossy
  | stderr (bare : '{' ∉ reply.stdout.decodeLossy) : ReportsIn reply reply.stderr.decodeLossy

/-- What a reply of the linter means.  The linter has done its work if it ends with zero or
one. -/
inductive Means (reply : Reply) : Except LintError (List Finding) → Prop
  | failed (failure : reply.ending ≠ .exited 0 ∧ reply.ending ≠ .exited 1) :
      Means reply (.error (.linterFailed reply.ending (Text.trim reply.stderr.decodeLossy)))
  | garbled {report : Text} (success : reply.ending = .exited 0 ∨ reply.ending = .exited 1)
      (reportsIn : ReportsIn reply report) (parseEq : Report.parse? report = none) :
      Means reply (.error .report)
  | found {report : Text} {findings : List Finding}
      (success : reply.ending = .exited 0 ∨ reply.ending = .exited 1)
      (reportsIn : ReportsIn reply report) (parseEq : Report.parse? report = some findings) :
      Means reply (.ok findings)

/-- What linting a file with a given content gives, and the commands that are run for it. -/
inductive Lints (around : Surroundings) (settings : Settings) (path : Path) (content : Bytes) :
    Except LintError (List Finding) → List Run → Prop
  | unstarted {command : Command} {cause : FileError}
      (isCommand : IsCommand around.isFile settings path command)
      (replyEq : around.reply command (some content) = .error cause) :
      Lints around settings path content (.error (.spawn settings.executable cause)) []
  | started {command : Command} {reply : Reply} {outcome : Except LintError (List Finding)}
      (isCommand : IsCommand around.isFile settings path command)
      (replyEq : around.reply command (some content) = .ok reply) (means : Means reply outcome) :
      Lints around settings path content outcome [⟨command, some content.decodeLossy⟩]

/-! ### The command -/

section Commands

variable {isFile : Path → Bool} {settings : Settings} {path : Path}

theorem folderFor_eq_iff_usesFolder {folder : Option Path} :
    Config.folderFor isFile settings path = folder ↔
      UsesFolder isFile path settings.configPath folder := by
  rw [Config.folderFor]
  cases settings.configPath with
  | none =>
      have finds := Config.finds_bind_discover isFile path
      constructor
      · rintro rfl
        exact .nearest finds
      · rintro ⟨same⟩
        exact finds.unique same
  | some chosen =>
      cases chosenIs : isFile chosen with
      | true =>
          simp only [chosenIs, if_true]
          constructor
          · rintro rfl
            exact .ofFile chosenIs
          · rintro (_ | _ | noFile)
            · rfl
            · exact absurd chosenIs (by simp [noFile])
      | false =>
          simp only [chosenIs, Bool.false_eq_true, if_false]
          constructor
          · rintro rfl
            exact .folder chosenIs
          · rintro (_ | file | _)
            · exact absurd file (by simp [chosenIs])
            · rfl

theorem args_command_eq_iff_asks {folder : Option Path} {args : List Text} :
    (command settings path folder).args = args ↔ Asks settings path folder args := by
  constructor
  · rintro rfl
    cases folder with
    | none => exact .unconfigured
    | some folder => exact .configured folder
  · rintro (_ | folder) <;> rfl

theorem command_eq_iff_isCommand {asked : Command} :
    command settings path (Config.folderFor isFile settings path) = asked ↔
      IsCommand isFile settings path asked := by
  constructor
  · rintro rfl
    exact .mk (folderFor_eq_iff_usesFolder.1 rfl) (args_command_eq_iff_asks.1 rfl)
  · rintro ⟨usesFolder, asks⟩
    rw [folderFor_eq_iff_usesFolder.2 usesFolder, ← args_command_eq_iff_asks.2 asks]
    rfl

theorem IsCommand.program_eq {asked : Command} (isCommand : IsCommand isFile settings path asked) :
    asked.program = settings.executable := by
  cases isCommand
  rfl

end Commands

/-! ### The reply -/

theorem succeeded_iff (ending : Ending) :
    succeeded ending = true ↔ ending = .exited 0 ∨ ending = .exited 1 := by
  cases ending <;> simp [succeeded]

section Replies

variable {reply : Reply}

theorem ReportsIn.eq {report : Text} (reportsIn : ReportsIn reply report) :
    (if reply.stdout.decodeLossy.contains '{' then reply.stdout.decodeLossy
      else reply.stderr.decodeLossy) = report := by
  cases reportsIn with
  | stdout braced => exact if_pos (List.contains_iff_mem.2 braced)
  | stderr bare => exact if_neg (mt List.contains_iff_mem.1 bare)

theorem exists_reportsIn (reply : Reply) : ∃ report, ReportsIn reply report := by
  by_cases braced : '{' ∈ reply.stdout.decodeLossy
  · exact ⟨_, .stdout braced⟩
  · exact ⟨_, .stderr braced⟩

/-- A reply is read as what it means. -/
theorem readReply_eq_iff_means {outcome : Except LintError (List Finding)} :
    readReply reply = outcome ↔ Means reply outcome := by
  rw [readReply]
  constructor
  · rintro rfl
    by_cases success : reply.ending = .exited 0 ∨ reply.ending = .exited 1
    · obtain ⟨report, reportsIn⟩ := exists_reportsIn reply
      simp only [(succeeded_iff _).2 success, if_true, reportsIn.eq]
      cases parseEq : Report.parse? report with
      | none => exact .garbled success reportsIn parseEq
      | some findings => exact .found success reportsIn parseEq
    · rw [if_neg (mt (succeeded_iff _).1 success)]
      exact .failed (not_or.1 success)
  · intro means
    cases means with
    | failed failure => exact if_neg (mt (succeeded_iff _).1 (not_or.2 failure))
    | garbled success reportsIn parseEq =>
        simp only [(succeeded_iff _).2 success, if_true, reportsIn.eq, parseEq]
    | found success reportsIn parseEq =>
        simp only [(succeeded_iff _).2 success, if_true, reportsIn.eq, parseEq]

end Replies

/-! ### Files -/

section Files

variable {around : Surroundings} {settings : Settings} {path : Path} {content : Bytes}

/-- A file that can be read is linted as it is. -/
theorem lintFile_eq_iff_lints {outcome : Except LintError (List Finding)} {runs : List Run}
    (readEq : around.read path = .ok content) :
    lintFile around settings path = ⟨outcome, runs⟩ ↔
      Lints around settings path content outcome runs := by
  rw [lintFile, readEq, run]
  constructor
  · intro lintEq
    have isCommand := command_eq_iff_isCommand.1 (Eq.refl (command settings path
      (Config.folderFor around.isFile settings path)))
    cases replyEq : around.reply _ (Except.ok content).toOption with
    | error cause =>
        rw [replyEq] at lintEq
        cases lintEq
        exact .unstarted isCommand replyEq
    | ok reply =>
        rw [replyEq] at lintEq
        cases lintEq
        exact .started isCommand replyEq (readReply_eq_iff_means.1 rfl)
  · intro lints
    cases lints with
    | unstarted isCommand replyEq =>
        rw [command_eq_iff_isCommand.2 isCommand]
        simp only [Except.toOption, replyEq, isCommand.program_eq]
    | started isCommand replyEq means =>
        rw [command_eq_iff_isCommand.2 isCommand]
        simp only [Except.toOption, replyEq, readReply_eq_iff_means.2 means]
        rfl

/-- Linting a file has one outcome. -/
theorem Lints.unique {first second : Except LintError (List Finding)}
    {firstRuns secondRuns : List Run} (readEq : around.read path = .ok content)
    (isFirst : Lints around settings path content first firstRuns)
    (isSecond : Lints around settings path content second secondRuns) :
    first = second ∧ firstRuns = secondRuns := by
  have same := ((lintFile_eq_iff_lints readEq).2 isFirst).symm.trans
    ((lintFile_eq_iff_lints readEq).2 isSecond)
  exact ⟨congrArg Lint.outcome same, congrArg Lint.runs same⟩

end Files

end Linter

end Pinpoint
