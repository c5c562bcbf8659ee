import ArchiveScout.File.Path

/-!
# ArchiveScout.File.Tree

**A tree of directories and files.** A tree knows what stands at each location, that
is, at each list of names from the root. The root is always a directory. Paths are
looked up name by name: each name on the way has to be a directory, two points lead
back, and relative paths start at the working directory.

Every operation on one path either gives the changed tree or says why it is refused, so
a refused operation changes nothing.
-/

namespace ArchiveScout.File

/-- A member of an archive. -/
structure Member where
  name : String
  data : List UInt8
deriving DecidableEq, Repr

/-- An archive, and the bytes that stand behind its end. -/
structure Packed where
  members : List Member
  tail : List UInt8 := []
deriving DecidableEq, Repr

/-- Members stand for the archive of them, with nothing behind it. -/
instance : Coe (List Member) Packed := ⟨fun members => { members }⟩

/-- What a file holds: plain bytes, or an archive. -/
inductive Content where
  | bytes (data : List UInt8)
  | archive (packed : Packed)
deriving DecidableEq, Repr

/-- The bytes of a text. -/
def Content.ofText (text : String) : Content := .bytes text.toUTF8.toList

/-- The content with bytes behind it. -/
def Content.append (data : List UInt8) : Content → Content
  | .bytes start => .bytes (start ++ data)
  | .archive packed => .archive { packed with tail := packed.tail ++ data }

/-- What stands at a location. -/
inductive Node where
  | directory
  | file (content : Content)
deriving DecidableEq, Repr

/-- Why an operation on a tree is refused. -/
inductive Fault where
  | notFound
  | exists
  | noDevice
  | notDirectory
  | isDirectory
  | nameTooLong
  | nulInName
deriving DecidableEq, Repr

/-- The wording of a refusal. -/
def Fault.message : Fault → String
  | .notFound => "No such file or directory (os error 2)"
  | .exists => "File exists (os error 17)"
  | .noDevice => "No such device (os error 19)"
  | .notDirectory => "Not a directory (os error 20)"
  | .isDirectory => "Is a directory (os error 21)"
  | .nameTooLong => "File name too long (os error 36)"
  | .nulInName => "file name contained an unexpected NUL byte"

/-- The names on the way from the root. -/
abbrev Location := List String

/-- A location and those that it is inside of, the root first. -/
def Location.inward (loc : Location) : List Location :=
  (List.range (loc.length + 1)).map loc.take

/-- A tree with a working directory. -/
structure Tree where
  cwd : Location := []
  nodes : List (Location × Node) := []
deriving DecidableEq, Repr

namespace Tree

/-- What stands at a location. -/
def get? (t : Tree) (loc : Location) : Option Node :=
  if loc = [] then some .directory else t.nodes.lookup loc

/-- The tree with a node put at a location, in place of what stood there. -/
def put (t : Tree) (loc : Location) (node : Node) : Tree :=
  { t with nodes := (loc, node) :: t.nodes.filter fun entry => entry.1 != loc }

/-- The tree without a location and everything below it. -/
def removeBelow (t : Tree) (loc : Location) : Tree :=
  { t with nodes := t.nodes.filter fun entry => !loc.isPrefixOf entry.1 }

/-- How many bytes a name may have. -/
def nameLimit : Nat := 255

/-- How many bytes a path may have. -/
def pathLimit : Nat := 4095

/-- The pieces of a path that are names or two points. -/
def steps (path : String) : List String :=
  (Path.pieces path).filter fun piece => piece != "" && piece != "."

/-- Where the names of a path start. -/
def start (t : Tree) (path : String) : Location := if Path.isAbsolute path then [] else t.cwd

/-- The location that names lead to from a location. -/
def descend (t : Tree) (loc : Location) : List String → Except Fault Location
  | [] => .ok loc
  | name :: names =>
    if t.get? loc ≠ some .directory then .error .notDirectory
    else if name = ".." then t.descend loc.dropLast names
    else if nameLimit < name.utf8ByteSize then .error .nameTooLong
    else if (t.get? (loc ++ [name])).isNone then .error .notFound
    else t.descend (loc ++ [name]) names

/-- Refuses texts that are no paths. -/
def checkPath (path : String) : Except Fault Unit :=
  if path.toList.contains '\x00' then .error .nulInName
  else if path.isEmpty then .error .notFound
  else if pathLimit < path.utf8ByteSize then .error .nameTooLong
  else .ok ()

/-- Whether a path can only stand for a directory: it ends in a slash or in points. -/
def namesDirectory (path : String) : Bool :=
  match (Path.pieces path).getLast? with
  | some piece => piece = "" || piece = "." || piece = ".."
  | none => false

/-- The location of a path, and what stands there. -/
def locate (t : Tree) (path : String) : Except Fault (Location × Node) := do
  checkPath path
  let loc ← t.descend (t.start path) (steps path)
  match t.get? loc with
  | none => .error .notFound
  | some node =>
    if namesDirectory path && node != .directory then .error .notDirectory
    else return (loc, node)

/-- The location that a path gives to something new, which may be taken. `none` when
the path ends in points and so stands for a directory that is there. -/
def target (t : Tree) (path : String) : Except Fault (Option Location) := do
  checkPath path
  let last := ((Path.pieces path).filter (· ≠ "")).getLast?
  match (steps path).getLast? with
  | none => return none
  | some name =>
    if last = some "." ∨ last = some ".." then
      let loc ← t.descend (t.start path) (steps path)
      if t.get? loc = some .directory then return none else .error .notDirectory
    else
      let outer ← t.descend (t.start path) (steps path).dropLast
      if t.get? outer ≠ some .directory then .error .notDirectory
      else if nameLimit < name.utf8ByteSize then .error .nameTooLong
      else return some (outer ++ [name])

/-- Whether something stands at a path. -/
def exists? (t : Tree) (path : String) : Bool := (t.locate path).isOk

/-- Whether a directory stands at a path. -/
def isDirectory (t : Tree) (path : String) : Bool :=
  match t.locate path with
  | .ok (_, .directory) => true
  | _ => false

/-- Whether a file stands at a path. -/
def isFile (t : Tree) (path : String) : Bool :=
  match t.locate path with
  | .ok (_, .file _) => true
  | _ => false

/-- Makes one directory. -/
def makeDirectory (t : Tree) (path : String) : Except Fault Tree := do
  match ← t.target path with
  | none => .error .exists
  | some loc => if (t.get? loc).isSome then .error .exists else return t.put loc .directory

/-- Makes a directory after those that it is inside of, the longest path first. What
has been made stays when a further directory is refused. -/
def makeDirectoriesOf (t : Tree) : List String → Tree × Option Fault
  | [] => (t, none)
  | path :: outer =>
    if path.isEmpty then (t, none)
    else match t.makeDirectory path with
      | .ok t => (t, none)
      | .error .notFound =>
        match t.makeDirectoriesOf outer with
        | (t, some fault) => (t, some fault)
        | (t, none) =>
          match t.makeDirectory path with
          | .ok t => (t, none)
          | .error fault => (t, if t.isDirectory path then none else some fault)
      | .error fault => (t, if t.isDirectory path then none else some fault)

/-- Makes a directory and those that it is inside of, as far as they are missing. -/
def makeDirectories (t : Tree) (path : String) : Tree × Option Fault :=
  t.makeDirectoriesOf (Path.ancestors path)

/-- The location where a file can be written. -/
def fileTarget (t : Tree) (path : String) : Except Fault Location := do
  match ← t.target path with
  | none => .error .isDirectory
  | some loc =>
    if namesDirectory path ∨ t.get? loc = some .directory then .error .isDirectory
    else return loc

/-- Writes a file, in place of one that is there. -/
def write (t : Tree) (path : String) (content : Content) : Except Fault Tree := do
  return t.put (← t.fileTarget path) (.file content)

/-- Writes bytes at the end of a file, which is made if it is missing. -/
def append (t : Tree) (path : String) (data : List UInt8) : Except Fault Tree := do
  let loc ← t.fileTarget path
  match t.get? loc with
  | some (.file content) => return t.put loc (.file (content.append data))
  | _ => return t.put loc (.file (.bytes data))

/-- Removes a directory with everything below it. -/
def removeDirectory (t : Tree) (path : String) : Except Fault Tree := do
  match ← t.locate path with
  | (_, .file _) => .error .notDirectory
  | (loc, .directory) => return t.removeBelow loc

/-- The names of what stands directly in a directory. -/
def children (t : Tree) (loc : Location) : List (String × Node) :=
  t.nodes.filterMap fun (inner, node) =>
    match inner.getLast? with
    | some name => if inner.dropLast = loc then some (name, node) else none
    | none => none

/-- A tree that holds nothing but its working directory. -/
def ofCwd (cwd : Location) : Tree :=
  { cwd, nodes := (cwd.inward.filter (· ≠ [])).map fun loc => (loc, .directory) }

/-- The content of a file. -/
def read (t : Tree) (path : String) : Except Fault Content := do
  match ← t.locate path with
  | (_, .file content) => return content
  | (_, .directory) => .error .isDirectory

end Tree

end ArchiveScout.File
