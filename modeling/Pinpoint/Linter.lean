import Pinpoint.Linter.Config
import Pinpoint.Linter.Error
import Pinpoint.Report

/-!
# Running the linter

The linter is run on a file as it is, or on a text that is not saved yet.  In
the second case the text is put into a file of the same name in a folder of
its own, and linted with the configuration that applies to the real file.
-/

namespace Pinpoint

/-- A command that was run, and the text of the linted file as the command
sees it. -/
structure Run where
  command : Command
  seen : Option Text

/-- Findings or an error, and the commands that were run. -/
structure Lint where
  outcome : Except LintError (List Finding)
  runs : List Run

namespace Linter

/-- The command that lints a file. -/
def command (settings : Settings) (file : Path) (configFolder : Option Path) : Command :=
  let config :=
    match configFolder with
    | some folder => ["-config_dir_path".toList, folder]
    | none => []
  ⟨settings.executable,
    ["lint".toList, "-reporter=json".toList] ++ config ++ settings.extraArgs ++ [file]⟩

/-- Whether the linter did its work: it found nothing, or reported what it
found. -/
def succeeded : Ending → Bool
  | .exited code => code == 0 || code == 1
  | .killed _ | .dumped _ => false

/-- The findings in a reply of the linter.  The report is what it printed
regularly, if that has a brace, and otherwise what it printed as errors. -/
def readReply (reply : Reply) : Except LintError (List Finding) :=
  let stdout := reply.stdout.decodeLossy
  let stderr := reply.stderr.decodeLossy
  if succeeded reply.ending then
    match Report.parse? (if stdout.contains '\x7b' then stdout else stderr) with
    | some findings => .ok findings
    | none => .error .report
  else .error (.linterFailed reply.ending (Text.trim stderr))

/-- Run a command on a file with the given content, or on one that cannot be
read. -/
def run (around : Surroundings) (command : Command) (content : Option Bytes) : Lint :=
  match around.reply command content with
  | .error cause => ⟨.error (.spawn command.program cause), []⟩
  | .ok reply => ⟨readReply reply, [⟨command, content.map Bytes.decodeLossy⟩]⟩

/-- Lint a file as it is. -/
def lintFile (around : Surroundings) (settings : Settings) (path : Path) : Lint :=
  let folder := Config.folderFor around.isFile settings path
  run around (command settings path folder) (around.read path).toOption

/-- Name of the file that stands in for the one of a path. -/
def standInName (path : Path) : Text :=
  (Path.fileName? path).getD "buffer.proto".toList

/-- Lint a text for the file of a path. -/
def lintText (around : Surroundings) (settings : Settings) (path : Path) (text : Text) : Lint :=
  match around.standIn (standInName path) text with
  | .error cause => ⟨.error (.file cause), []⟩
  | .ok standIn =>
      let folder := Config.folderFor around.isFile settings path
      let lint := run around (command settings standIn folder) (some (Bytes.ofText text))
      { lint with
        outcome := lint.outcome.map fun findings =>
          findings.map fun finding => { finding with filename := path } }

end Linter

end Pinpoint
