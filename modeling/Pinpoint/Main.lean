import Pinpoint.CommandLine

/-!
# The program

Reads what the command line names, and prints what the run leaves behind.  An
editor is served message by message.  No other program is started from here,
so linting always ends with a linter that is not found.
-/

namespace Pinpoint

namespace Main

/-- What a path leads to, as far as it can be read. -/
def readNode? (path : String) : IO (Option Node) := do
  try
    let content ← IO.FS.readBinFile path
    return some (.file content.toList)
  catch
    | .inappropriateType _ code _ => return if code = 21 then some .folder else none
    | _ => return none

/-- The files and folders among some paths. -/
def readDisk (paths : List String) : IO Disk := do
  let mut disk : Disk := ⟨[], []⟩
  for path in paths do
    match ← readNode? path with
    | some (.file content) => disk := { disk with files := (path.toList, content) :: disk.files }
    | some .folder => disk := { disk with folders := path.toList :: disk.folders }
    | none => pure ()
  return disk

/-- The header of the next message; nothing at the end of the input. -/
partial def readHeader? (input : IO.FS.Stream) (header : Text) : IO (Option Text) := do
  let line ← input.getLine
  if line.isEmpty then return none
  else if line = "\r\n" then return some header
  else readHeader? input (header ++ line.toList)

/-- The next bytes of the input, as many as are asked for; nothing if there
are not enough. -/
partial def readBytes? (input : IO.FS.Stream) (count : Nat) (done : Bytes) :
    IO (Option Bytes) := do
  if count = 0 then return some done
  else
    let part ← input.read count.toUSize
    if part.isEmpty then return none
    else readBytes? input (count - part.size) (done ++ part.toList)

/-- Serve an editor until its input ends. -/
partial def serve (around : Surroundings) (input output : IO.FS.Stream)
    (session : Editor.Session) : IO Unit := do
  let some header ← readHeader? input [] | return
  let some length := Editor.lengthOf? header | return
  let some body ← readBytes? input length [] | return
  let (written, next, _) := Editor.serveFrame (Linter.lintText around) session body
  output.putStr (String.ofList written)
  output.flush
  serve around input output next

end Main

end Pinpoint

/-- Serve an editor or check files, as the arguments say. -/
def main (arguments : List String) : IO UInt32 := do
  let disk ← Pinpoint.Main.readDisk (arguments.drop 1)
  let world : Pinpoint.World := ⟨disk, []⟩
  if arguments.isEmpty || arguments.head? = some "--stdio" then
    Pinpoint.Main.serve world (← IO.getStdin) (← IO.getStdout) .start
    return 0
  else
    let output := Pinpoint.CommandLine.run world (arguments.map String.toList) []
    IO.print (String.ofList output.stdout)
    IO.eprint (String.ofList output.stderr)
    return output.status.toUInt32
