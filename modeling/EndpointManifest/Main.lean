import EndpointManifest.CommandLine.Run

/-!
The program on a real disk: the directories that a run may look at are read, the run is computed,
and what it changed is written back.
-/

namespace EndpointManifest.CommandLine

/-- Reads what stands at a path. Directories that hold what was fetched or generated are empty here,
and so are those that are only linked to. -/
partial def readTree (path : String) : IO Tree := do
  let place ← IO.FS.realPath path
  if ← place.isDir then
    let mut entries : List (Text × Tree) := []
    for entry in ← place.readDir do
      let name := entry.fileName.toList
      let path := entry.path.toString
      let linked := (← IO.FS.realPath path).toString != path
      let isDir ← entry.path.isDir
      let node : Tree ←
        if isDir && (linked || !Discovery.entersDir name) then pure (.dir []) else readTree path
      entries := entries ++ [(name, node)]
    return .dir entries
  else
    return .file (← IO.FS.readBinFile path).toList

def locationOf (path : String) : List Text := (Path.ofText path.toList).parts

def graft (node : Tree) : List Text → Tree → Tree
  | name :: rest, .dir entries =>
    .dir (Tree.putEntry name (graft node rest ((entries.lookup name).getD (.dir []))) entries)
  | [], _ | _, .file _ => node

/-- The paths that an argument may name: itself, or a value attached to an option. -/
def pathsOf (argument : String) : List String :=
  [argument, "=".intercalate ((argument.splitOn "=").drop 1),
    String.ofList (argument.toList.drop 2)]

def readDisk (arguments : List String) : IO Disk := do
  let workingDir := (← IO.currentDir).toString
  let mut top := graft (← readTree workingDir) (locationOf workingDir) (.dir [])
  for path in arguments.flatMap pathsOf do
    try
      let place := (← IO.FS.realPath path).toString
      let parts := locationOf place
      if (top.get? parts).isNone || parts.any (!Discovery.entersDir ·) then
        top := graft (← readTree place) parts top
    catch _ => pure ()
  return { top, workingDir := locationOf workingDir }

def writeChanges (before after : Disk) : IO Unit := do
  let old := before.top.files
  for (location, octets) in after.top.files do
    if old.lookup location != some octets then
      let path (parts : List Text) : String := String.ofList ('/' :: Text.join ['/'] parts)
      IO.FS.createDirAll (path location.dropLast)
      IO.FS.writeBinFile (path location) ⟨octets.toArray⟩

end EndpointManifest.CommandLine

open EndpointManifest

def main (arguments : List String) : IO UInt32 := do
  let disk ← CommandLine.readDisk arguments
  let outcome := CommandLine.run disk (arguments.map String.toList)
  CommandLine.writeChanges disk outcome.disk
  IO.print (String.ofList outcome.output)
  IO.eprint (String.ofList outcome.errorText)
  return outcome.exitCode.toUInt32
