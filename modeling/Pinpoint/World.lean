import Pinpoint.Disk

/-!
# Worlds

Surroundings that are given by lists: the files there are, and the programs
that can be run.  What a program prints depends only on the name of the file
that it is given last.
-/

namespace Pinpoint

/-- What a program does, depending on the name of the file it is given. -/
structure Program where
  usual : Reply
  byFile : List (Text × Reply)

/-- The reply of a program to a file. -/
def Program.reply (program : Program) (path : Path) : Reply :=
  ((Path.fileName? path).bind fun name => program.byFile.lookup name).getD program.usual

/-- Files and programs. -/
structure World where
  disk : Disk
  programs : List (Text × Program)

namespace World

/-- Run a command. -/
def run (world : World) (command : Command) : Except FileError Reply :=
  match world.programs.lookup command.program with
  | some program => .ok (program.reply (command.args.getLast?.getD []))
  | none =>
      if command.program.contains '/' && world.disk.isFolder command.program then
        .error .permissionDenied
      else .error .notFound

/-- The folder for texts that are not saved. -/
def standInFolder : Path :=
  "<mirror>".toList

/-- The path of a file of the given name in the folder for texts that are not
saved. -/
def standIn (name : Text) : Except FileError Path :=
  if name.contains (Char.ofNat 0) then .error .nulInName
  else if Disk.nameLimit < Text.width name then .error .nameTooLong
  else .ok (Path.child standInFolder name)

/-- What a world offers. -/
def surroundings (world : World) : Surroundings where
  read := world.disk.read
  isFile := world.disk.isFile
  standIn name _ := standIn name
  reply command _ := world.run command

instance : Coe World Surroundings :=
  ⟨surroundings⟩

end World

end Pinpoint
