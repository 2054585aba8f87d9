import ModuleReadme.CommandLine.Program
import ModuleReadme.Log.Record
import Std.Time

/-!
# The command line

The outer layer: it copies the files that the command line names from the disk into a workspace,
runs the program there, writes the result back to the disk and prints what the program says.
-/

namespace ModuleReadme

/-!
## Places on the disk

A place of the workspace is a list of names from the root of the disk.
-/

/-- The text of an absolute path, from the place that it leads to. -/
def diskPath (place : Place) : String := "/" ++ "/".intercalate (place.map Text.display)

def placeOf (path : String) : Place := ((path.splitOn "/").filter (· != "")).map Text.encode

/-- The tree with a directory at a place, unless something is there already. -/
def withDirectory (root : Tree) (place : Place) : Tree :=
  match root.at? place with
  | some _ => root
  | none => root.put place (.directory [])

/-!
## Copies of the disk

Only what a run can look at is copied: the module with everything below it, and the way to each of
the two paths on the command line. Links on a way are copied along with what they lead to.
-/

def contentOf (path : String) : IO Content := do
  try return .bytes (← IO.FS.readBinFile path)
  catch
    | .permissionDenied .. => return .sealed .permissionDenied
    | error => return .sealed (.other (toString error))

/-- What is on the disk at a place: a file or a link as it is, a directory without its entries. A
link is copied as a link to the place that it leads to in the end. -/
def shallowCopy (place : Place) : IO (Option Tree) := do
  let path := diskPath place
  try
    let real ← IO.FS.realPath path
    if real.toString != path then return some (.link (Path.ofString real.toString))
    else if ← real.isDir then return some (.directory [])
    else return some (.file (← contentOf path))
  catch _ => return none

/-- What is on the disk at a place, with everything below it. -/
partial def deepCopy (place : Place) : IO (Option Tree) := do
  match ← shallowCopy place with
  | some (.directory _) =>
    let real ← IO.FS.realPath (diskPath place)
    let mut entries := []
    for entry in ← real.readDir do
      let name := Text.encode entry.fileName
      if let some t ← deepCopy (place ++ [name]) then entries := (name, t) :: entries
    return some (.directory entries)
  | copy => return copy

/-- Copies from the disk what lies on the way that some steps take from a place, and says where the
way ends. -/
def copyWay (root : Tree) (place : Place) : List Path.Step → IO (Tree × Place)
  | [] => return (root, place)
  -- These stay where they are.
  | .here :: rest | .slashAtEnd :: rest => copyWay root place rest
  | .up :: rest => copyWay root place.dropLast rest
  | .entry name :: rest => do
    let next := place ++ [name]
    match ← shallowCopy next with
    | none => return (root, next)
    | some (.link target) =>
      let real := placeOf target.display
      -- The way goes on at the place that the link leads to.
      let root := withDirectory (root.put next (.link target)) real.dropLast
      let copy ← shallowCopy real
      copyWay (if (root.at? real).isSome then root else root.put real (copy.getD (.directory [])))
        real rest
    | some copy =>
      copyWay (if (root.at? next).isSome then root else root.put next copy) next rest

/-- A workspace with everything that a run with these options looks at. -/
def workspaceFor (o : Options) : IO Workspace := do
  let current := placeOf (← IO.currentDir).toString
  let start (p : Path) : Place := if p.isAbsolute then [] else current
  -- Relative paths start from the current directory, so that has to be there.
  let root := withDirectory (.directory []) current
  let (root, _) ← copyWay root (start o.readmePath) o.readmePath.steps
  let (root, place) ← copyWay root (start o.modulePath) o.modulePath.steps
  let root ← do
    match ← deepCopy place with
    | some t => pure (root.put place t)
    | none => pure root
  return { root, current }

/-!
## Running

Of the workspace after the run only the file that a run can write goes back to the disk.
-/

def writeBack (w : Workspace) (path : Path) : IO Unit := do
  if let .ok (.file (.bytes content)) := w.find path then
    if let some directory := path.directory? then IO.FS.createDirAll directory.display
    IO.FS.writeBinFile path.display content

def localTime : IO Timestamp := do
  let now ← Std.Time.PlainDateTime.now
  return {
    year := now.date.year.toInt
    month := now.date.month.toNat
    day := now.date.day.toNat
    hour := now.time.hour.toNat
    minute := now.time.minute.toNat
    second := now.time.second.val.toNat }

def runOnDisk (arguments : List String) : IO UInt32 := do
  let environment ← IO.getEnv "RUST_LOG"
  let w ← match Options.ofArguments arguments with
    | .ok o => workspaceFor o
    | .error _ => pure { root := .directory [], current := [] }
  let (changed, exit) := w.program arguments environment (← localTime)
  -- Nothing goes back from a run that failed.
  if exit.status = 0 then
    if let .ok o := Options.ofArguments arguments then
      match o.format, o.outputPath with
      | .json, none => pure ()
      | _, _ => writeBack changed o.readmePath
  for event in exit.events do
    IO.eprint ("[" ++ event.level.name ++ " " ++ event.target ++ "] " ++ event.recordText)
  IO.print exit.output
  if let some report := exit.report then IO.eprint report
  return exit.status.toUInt32

end ModuleReadme

def main (arguments : List String) : IO UInt32 := ModuleReadme.runOnDisk arguments
