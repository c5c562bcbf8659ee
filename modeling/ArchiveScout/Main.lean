import ArchiveScout.Archive.Zip
import ArchiveScout.Command.Program

/-!
# ArchiveScout.Main

**The program.** All it does is decided in `Command.program`. This module loads the files
that the command line names, hands over the arguments, the environment and the input, and
writes what comes out. Tools cannot be started from here, so the toolbox is empty.

An output directory that is there already is loaded as a directory with one node of the
empty name, to which no path leads. When that node is gone in the end, the directory was
removed.
-/

namespace ArchiveScout.Disk

open ArchiveScout.File (Location Tree)

/-- What has to be loaded for a command line: the files it names, the directory for
output, and whether the user may be asked something. -/
structure Needs where
  files : List String := []
  output : String := ""
  input : Bool := false

/-- What has to be loaded for a command line. -/
def needs (arguments : List String) : Needs :=
  match Command.Invocation.ofArguments arguments with
  | .ok { command := .search o, .. } => ⟨o.files, o.output, o.genSources⟩
  | .ok { command := .decode o, .. } => ⟨o.files, o.output, true⟩
  | _ => {}

/-- The path of a location. -/
def pathOf (loc : Location) : String := "/" ++ "/".intercalate loc

/-- Loads a file, if it can be read. -/
def loadFile (t : Tree) (path : String) : IO Tree := do
  try
    let content := Archive.contentOf (← IO.FS.readBinFile path).toList
    let t := ((File.Path.parent? path).map fun dir => (t.makeDirectories dir).1).getD t
    return (t.write path content).toOption.getD t
  catch _ => return t

/-- Loads the output directory of a file, if it is there. -/
def loadOutput (root : String) (t : Tree) (file : String) : IO Tree := do
  try
    let dir := Decode.outputDir { outputRoot := root } file
    let _ ← IO.FS.Handle.mk dir .read
    let t := (t.makeDirectories dir).1
    match t.locate dir with
    | .ok (loc, _) => return t.put (loc ++ [""]) .directory
    | .error _ => return t
  catch _ => return t

/-- The bytes behind an archive that were there before. -/
def tailAt (before : Tree) (loc : Location) : List UInt8 :=
  match before.get? loc with
  | some (.file (.archive packed)) => packed.tail
  | _ => []

/-- Removes what is gone from the disk, and writes what is new. Archives are never made,
but bytes can have come behind one. -/
def save (before after : Tree) : IO Unit := do
  for (loc, _) in before.nodes do
    if loc.getLast? = some "" && (after.get? loc).isNone then
      IO.FS.removeDirAll (pathOf loc.dropLast)
  for (loc, node) in after.nodes do
    if before.get? loc ≠ some node then
      match node with
      | .directory => IO.FS.createDirAll (pathOf loc)
      | .file (.bytes data) =>
        IO.FS.createDirAll (pathOf loc.dropLast)
        IO.FS.writeBinFile (pathOf loc) (ByteArray.mk data.toArray)
      | .file (.archive packed) =>
        let added := packed.tail.drop (tailAt before loc).length
        let handle ← IO.FS.Handle.mk (pathOf loc) .append
        handle.write (ByteArray.mk added.toArray)

/-- The environment of the program. -/
def environment : IO Command.Environment := do
  let home ← IO.getEnv "HOME"
  let data := (← IO.getEnv "XDG_DATA_HOME").filter File.Path.isAbsolute
  return {
    cfrJar := ← IO.getEnv "CFR_JAR"
    dataDirectory := data.orElse fun _ => home.map (File.Path.join · ".local/share")
    tools := {
      java := (← IO.getEnv "CLASS_EXPLORER_JAVA").getD "java"
      javap := (← IO.getEnv "CLASS_EXPLORER_JAVAP").getD "javap"
      call := fun _ _ => none } }

/-- The tree with everything that a command line needs. -/
def load (n : Needs) : IO Tree := do
  let cwd := Tree.steps ((← IO.getEnv "PWD").getD "")
  let t ← n.files.foldlM loadFile (.ofCwd cwd)
  n.files.foldlM (loadOutput n.output) t

/-- Runs the program and gives its exit code. -/
def run (arguments : List String) : IO UInt32 := do
  let n := needs arguments
  let t ← load n
  let input ← if n.input then Text.lines <$> (do (← IO.getStdin).readToEnd) else pure []
  let ending := Command.program (← environment) arguments t (.ofLines input)
  IO.print ending.stdout
  IO.eprint ending.stderr
  save t ending.tree
  return ending.code.toUInt32

end ArchiveScout.Disk

/-- The program. -/
def main (arguments : List String) : IO UInt32 := ArchiveScout.Disk.run arguments
