import ArchiveScout.Archive.ClassEntry
import ArchiveScout.File.Tree

/-!
# ArchiveScout.Decode.OutputPaths

**Where the sources of a class are written.** A class has two files, one for each kind
of source. Both names come from the class, by its path or, flattened, by its simple
name. When either file exists, or has been handed out before, both get the first
suffix `~2`, `~3`, ... with which both are free.
-/

namespace ArchiveScout.Decode

open ArchiveScout.Archive (ClassEntry)
open ArchiveScout.File (Component Path.join Path.components Tree)

/-- The kinds of text that a class has. -/
inductive Kind where
  /-- The source text. -/
  | java
  /-- The listing. -/
  | smali
deriving DecidableEq, Repr

/-- The two files of a class. -/
structure OutputPaths where
  java : String
  smali : String
deriving DecidableEq, Repr

/-- The file for one kind of text. -/
def OutputPaths.of (paths : OutputPaths) : Kind → String
  | .java => paths.java
  | .smali => paths.smali

/-- The paths of one output directory: how they are made, and which have been handed
out. -/
structure PathResolver where
  root : String
  flatten : Bool
  assigned : List (List Component) := []
deriving DecidableEq, Repr

namespace PathResolver

/-- The name that the files of a class start with. -/
def baseOf (r : PathResolver) (entry : ClassEntry) : String :=
  if r.flatten then entry.simpleName else entry.aliasPath

/-- A base name with the suffix for an index; the first index has none. -/
def stem (base : String) (index : Nat) : String :=
  if index ≤ 1 then base else base ++ "~" ++ toString index

/-- The files for a base name and an index. -/
def candidate (r : PathResolver) (base : String) (index : Nat) : OutputPaths :=
  let stem := stem base index
  if r.flatten then
    { java := Path.join r.root (stem ++ ".java"), smali := Path.join r.root (stem ++ ".smali") }
  else
    { java := Path.join (Path.join r.root "java") (stem ++ ".java")
      smali := Path.join (Path.join r.root "smali") (stem ++ ".smali") }

/-- Whether a path has neither been handed out nor exists. -/
def isFree (r : PathResolver) (t : Tree) (path : String) : Bool :=
  !r.assigned.contains (Path.components path) && !t.exists? path

/-- Whether both files for an index are free. -/
def bothFree (r : PathResolver) (t : Tree) (base : String) (index : Nat) : Bool :=
  let c := r.candidate base index
  r.isFree t c.java && r.isFree t c.smali

/-- As many indices as suffice: every one that is not free is so because of another
path that has been handed out or exists. -/
def searchBound (r : PathResolver) (t : Tree) : Nat := r.assigned.length + t.nodes.length + 1

/-- The first index from one on with which both files are free. -/
def freeIndex (r : PathResolver) (t : Tree) (base : String) : Nat :=
  let bound := r.searchBound t
  ((List.range bound).find? fun i => r.bothFree t base (i + 1)).getD bound + 1

/-- The files of a class, which are handed out. -/
def resolve (r : PathResolver) (t : Tree) (entry : ClassEntry) : OutputPaths × PathResolver :=
  let base := r.baseOf entry
  let c := r.candidate base (r.freeIndex t base)
  (c, { r with assigned := Path.components c.java :: Path.components c.smali :: r.assigned })

end PathResolver

end ArchiveScout.Decode
