import ArchiveScout.Archive.ClassEntry
import ArchiveScout.File.Tree

/-!
# ArchiveScout.Archive.Catalog

**The members of an archive, split into classes and resources.** Members that stand
for directories are left out. Listing writes backslashes as slashes; reading a member
takes its exact name, and of several members with one name the last.
-/

namespace ArchiveScout.Archive

open ArchiveScout.File (Tree Member Content Fault)

/-- What is wrong with a file that is no archive. -/
inductive Damage where
  /-- The file is shorter than any archive. -/
  | tooShort
  /-- The record at the end of archives is missing. -/
  | noEnd
deriving DecidableEq, Repr

/-- The wording of damage. -/
def Damage.message : Damage → String
  | .tooShort => "invalid Zip archive: Invalid zip header"
  | .noEnd => "invalid Zip archive: Could not find central directory end"

/-- Why an archive or a member cannot be read. -/
inductive ReadError where
  | opening (path : String) (fault : Fault)
  | mapping (path : String) (fault : Fault)
  | damaged (path : String) (damage : Damage)
  | noMember (name : String)
deriving DecidableEq, Repr

/-- The wording of an error, from the outermost circumstance to the cause. -/
def ReadError.chain : ReadError → List String
  | .opening path fault => [s!"Failed to open archive: {path}", fault.message]
  | .mapping path fault => [s!"Failed to mmap archive: {path}", fault.message]
  | .damaged path damage => [s!"Failed to read zip structure: {path}", damage.message]
  | .noMember name => [s!"Entry not found: {name}", "specified file not found in archive"]

/-- The first bytes of the record at the end of archives. -/
def endSignature : List UInt8 := [0x50, 0x4B, 0x05, 0x06]

/-- The length of the record at the end of archives, in bytes. -/
def endLength : Nat := 22

/-- How many bytes there may be behind the record. -/
def endSlack : Nat := 65535

/-- How far from the end of the file the record may start, in bytes. -/
def endReach : Nat := endLength + endSlack

/-- Whether the bytes hold `pattern`. -/
def holds (pattern : List UInt8) : List UInt8 → Bool
  | [] => pattern.isEmpty
  | b :: bs => pattern.isPrefixOf (b :: bs) || holds pattern bs

/-- Whether bytes hold the record of an archive where it is looked for. -/
def holdsEnd (data : List UInt8) : Bool :=
  endLength ≤ data.length &&
    holds endSignature
      ((data.take (data.length - endLength + 4)).drop (data.length - endReach))

/-- The members of a file. Bytes that end in the record of an archive have none. The last
record of a file counts, so an archive is not found below bytes that hold another one,
nor below too many bytes. -/
def membersOf : Content → Except Damage (List Member)
  | .archive packed =>
    if holdsEnd packed.tail then .ok []
    else if packed.tail.length ≤ endSlack then .ok packed.members
    else .error .noEnd
  | .bytes data =>
    if data.length < endLength then .error .tooShort
    else if holdsEnd data then .ok []
    else .error .noEnd

/-- The members of the archive at a path. -/
def openArchive (t : Tree) (path : String) : Except ReadError (List Member) :=
  match t.locate path with
  | .error fault => .error (.opening path fault)
  | .ok (_, .directory) => .error (.mapping path .noDevice)
  | .ok (_, .file content) =>
    match membersOf content with
    | .ok members => .ok members
    | .error damage => .error (.damaged path damage)

/-- The classes and resources of an archive, in order. -/
structure Catalog where
  /-- Paths such as `com/app/Main$1`. -/
  classes : List String
  /-- The names of all other members. -/
  resources : List String
deriving DecidableEq, Repr

/-- Whether a member stands for a directory. -/
def isDirectoryName (name : String) : Bool :=
  name.toList.getLast? = some '/' || name.toList.getLast? = some '\\'

/-- The name under which a member is listed. -/
def listedName (name : String) : String := Text.replaceChar '\\' '/' name

/-- The path of the class that a listed name stands for. -/
def classPath? (name : String) : Option String :=
  (Text.dropTail? ".class".toList name.toList).map String.ofList

/-- The catalog of some members. -/
def Catalog.ofMembers (members : List Member) : Catalog :=
  let names := (members.filter fun m => !isDirectoryName m.name).map fun m => listedName m.name
  { classes := sorted (names.filterMap classPath?)
    resources := sorted (names.filter fun name => (classPath? name).isNone) }

/-- The catalog of the archive at a path. -/
def catalog (t : Tree) (path : String) : Except ReadError Catalog := do
  return Catalog.ofMembers (← openArchive t path)

/-- The last member with a name. -/
def findMember? (members : List Member) (name : String) : Option Member :=
  members.reverse.find? fun m => m.name == name

/-- The bytes of a member of the archive at a path. -/
def readMember (t : Tree) (path name : String) : Except ReadError (List UInt8) := do
  match findMember? (← openArchive t path) name with
  | some m => return m.data
  | none => .error (.noMember name)

end ArchiveScout.Archive
