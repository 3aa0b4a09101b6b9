import PacketFilter.Program

/-!
# The command

The command takes a picture of the files that its words name, runs the program on the picture, and
writes back the files that changed. What cannot be read counts as not there.
-/
open PacketFilter

namespace PacketFilter.Main

/-- The file name that leads to a place. -/
def fileName (place : Place) : String :=
  match place with
  | "/" :: rest => "/" ++ "/".intercalate rest
  | _ => "/".intercalate place

/-- What lies at a place at the moment. -/
def look (place : Place) : IO (List (Place × Entry)) := do
  try
    let bytes ← IO.FS.readBinFile (fileName place)
    return [(place, .file bytes.toList)]
  catch
    | .inappropriateType .. => return [(place, .directory)]
    | _ => return []

/-- The places that the beginnings of a path lead to, without the empty one. -/
def placesTo (path : String) : List Place :=
  let components := pathComponents path
  (List.range components.length).map fun count => (components.take (count + 1)).foldl .enter []

/-- A picture of what lies at the paths and on the ways to them. -/
def picture (paths : List String) : IO Disk := do
  return ⟨(← ((paths.flatMap placesTo).eraseDups).mapM look).flatten⟩

/-- Write back a file if it is not what it was. -/
def writeBack (before : Disk) (entry : Place × Entry) : IO Unit := do
  match entry with
  | (place, .file bytes) =>
    if before.entry? place = some (.file bytes) then return
    else IO.FS.writeBinFile (fileName place) bytes.toByteArray
  | _ => return

/-- The files that the words of a command line name. -/
def namedPaths (words : List String) : List String :=
  match CommandLine.read words with
  | .ok invocation => invocation.paths
  | .error _ => []

end PacketFilter.Main

/-- Run the command on its words. -/
def main (words : List String) : IO UInt32 := do
  let before ← Main.picture (Main.namedPaths words)
  let finished := Program.run before words
  for entry in finished.disk.entries do Main.writeBack before entry
  (← IO.getStdout).putStr finished.output
  (← IO.getStderr).putStr finished.warnings
  return finished.exitCode.toUInt32
