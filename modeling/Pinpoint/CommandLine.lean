import Pinpoint.Check
import Pinpoint.Editor.Wire
import Pinpoint.World

/-!
# The command line

What the program prints for its arguments and its input, and the status it
ends with.
-/

namespace Pinpoint

namespace CommandLine

/-- What a run of the program leaves behind. -/
structure Output where
  stdout : Text
  stderr : Text
  status : Nat
  runs : List Run

/-- Lines of text. -/
def lines (texts : List String) : Text :=
  texts.flatMap fun text => text.toList ++ ['\n']

/-- The program and its version. -/
def versionLine : String :=
  Editor.serverName ++ " " ++ Editor.serverVersion

/-- How the program is used. -/
def usage : Text :=
  lines
    [versionLine,
      "",
      "Usage:",
      "  protolens-lsp [--stdio]              Serve LSP over stdio",
      "  protolens-lsp check <file.proto>...  Lint files and print diagnostics",
      "  protolens-lsp --version              Print the version",
      "",
      "Check options:",
      "  --protolint=<path>   protolint executable (default: protolint)",
      "  --config=<path>      protolint config directory or file"]

/-- How checking is used. -/
def checkUsage : String :=
  "Usage: protolens-lsp check [--protolint=<path>] [--config=<path>] <file.proto>..."

/-- Check files. -/
def check (around : Surroundings) (arguments : List Text) : Output :=
  match Check.parseArguments arguments with
  | .error error => ⟨[], lines ["error: " ++ error.message, checkUsage], 2, []⟩
  | .ok options =>
      let checks := options.files.map (Check.checkFile around options.settings)
      ⟨checks.flatMap (·.printed), checks.flatMap (·.complaint), Check.status checks,
        checks.flatMap (·.runs)⟩

/-- Serve an editor. -/
def serve (around : Surroundings) (input : Bytes) : Output :=
  let (written, runs) := Editor.serve (Linter.lintText around) input
  ⟨written, [], 0, runs⟩

/-- Run the program. -/
def run (around : Surroundings) (arguments : List Text) (input : Bytes) : Output :=
  match arguments with
  | [] => serve around input
  | first :: rest =>
      match String.ofList first with
      | "--stdio" => serve around input
      | "check" => check around rest
      | "--version" => ⟨lines [versionLine], [], 0, []⟩
      | "-V" => ⟨lines [versionLine], [], 0, []⟩
      | "--help" => ⟨usage, [], 0, []⟩
      | "-h" => ⟨usage, [], 0, []⟩
      | other => ⟨usage, lines ["error: unknown argument `" ++ other ++ "`"], 2, []⟩

end CommandLine

end Pinpoint
