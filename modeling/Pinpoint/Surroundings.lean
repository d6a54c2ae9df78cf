import Pinpoint.Path
import Pinpoint.Text.Bytes

/-!
# Surroundings

What a program finds around it: files, and other programs that it can run.
Nothing is taken for granted about them.  Every file may be missing or hold
any bytes, and every command may print anything and end in any way.
-/

namespace Pinpoint

/-- A reason why a file cannot be used. -/
inductive FileError where
  | notFound
  | permissionDenied
  | notFolder
  | isFolder
  | nameTooLong
  | notText
  | nulInName
  /-- Any other reason, in the words of the system. -/
  | other (wording : String)
  deriving DecidableEq

/-- The wording of an error. -/
def FileError.message : FileError → String
  | notFound => "No such file or directory (os error 2)"
  | permissionDenied => "Permission denied (os error 13)"
  | notFolder => "Not a directory (os error 20)"
  | isFolder => "Is a directory (os error 21)"
  | nameTooLong => "File name too long (os error 36)"
  | notText => "stream did not contain valid UTF-8"
  | nulInName => "file name contained an unexpected NUL byte"
  | other wording => wording

/-- A program and its arguments. -/
structure Command where
  program : Text
  args : List Text
  deriving DecidableEq

/-- How a program ended. -/
inductive Ending where
  | exited (code : Nat)
  | killed (signal : Nat)
  /-- As if killed, with an image of its memory left behind. -/
  | dumped (signal : Nat)
  deriving DecidableEq

namespace Ending

/-- The end of a program with a status, of which the system keeps one byte. -/
def ofStatus (status : Int) : Ending :=
  exited (status % 256).toNat

/-- Names of the signals that end a program. -/
def signalNames : List (Nat × String) :=
  [(1, "SIGHUP"), (2, "SIGINT"), (3, "SIGQUIT"), (4, "SIGILL"), (5, "SIGTRAP"), (6, "SIGABRT"),
    (7, "SIGBUS"), (8, "SIGFPE"), (9, "SIGKILL"), (10, "SIGUSR1"), (11, "SIGSEGV"),
    (12, "SIGUSR2"), (13, "SIGPIPE"), (14, "SIGALRM"), (15, "SIGTERM"), (16, "SIGSTKFLT"),
    (24, "SIGXCPU"), (25, "SIGXFSZ"), (26, "SIGVTALRM"), (27, "SIGPROF"), (29, "SIGIO"),
    (30, "SIGPWR"), (31, "SIGSYS")]

/-- A signal in words. -/
def signalLabel (signal : Nat) : String :=
  match signalNames.lookup signal with
  | some name => s!"signal: {signal} ({name})"
  | none => s!"signal: {signal}"

/-- How a program ended, in words. -/
def label : Ending → String
  | exited code => s!"exit status: {code}"
  | killed signal => signalLabel signal
  | dumped signal => signalLabel signal ++ " (core dumped)"

end Ending

/-- What a program prints, and how it ends. -/
structure Reply where
  stdout : Bytes
  stderr : Bytes
  ending : Ending

/-- What can be read, written and run. -/
structure Surroundings where
  /-- The content of the file that a path leads to. -/
  read : Path → Except FileError Bytes
  /-- Whether a path leads to a file, and not to a folder or nowhere. -/
  isFile : Path → Bool
  /-- Put a text into a file of the given name in a new folder.  The path of
  that file is given back. -/
  standIn : Text → Text → Except FileError Path
  /-- Run a command on a file with the given content, or on one that cannot be
  read. -/
  reply : Command → Option Bytes → Except FileError Reply

namespace Surroundings

/-- The content of a file as text. -/
def readText (around : Surroundings) (path : Path) : Except FileError Text :=
  match around.read path with
  | .error error => .error error
  | .ok content =>
      match content.decode? with
      | none => .error .notText
      | some text => .ok text

end Surroundings

end Pinpoint
