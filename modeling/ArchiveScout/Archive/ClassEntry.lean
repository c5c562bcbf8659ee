import ArchiveScout.Archive.ClassName

/-!
# ArchiveScout.Archive.ClassEntry

**Top-level classes and the classes inside them.** A class whose path is the path of
another class of the archive, a dollar sign and more is written together with that
class. The outermost such class is the top-level class; dollar signs at the start of
a simple name belong to it and never divide.
-/

namespace ArchiveScout.Archive

open ArchiveScout.Text (cutLast)

/-- The package of a class path, with its last slash, and the simple name. -/
def splitSimple (path : List Char) : List Char × List Char :=
  match cutLast '/' path with
  | some (package, simple) => (package ++ ['/'], simple)
  | none => ([], path)

/-- What stands in front of each dollar sign of `rest`, with `before` in front of it,
from the shortest to the longest. -/
def cutsAtDollar (before : List Char) : List Char → List (List Char)
  | [] => []
  | c :: rest =>
    if c = '$' then before :: cutsAtDollar (before ++ [c]) rest
    else cutsAtDollar (before ++ [c]) rest

/-- The paths that a class may be inside of, the outermost first. -/
def outerPaths (path : List Char) : List (List Char) :=
  let (package, simple) := splitSimple path
  cutsAtDollar (package ++ simple.takeWhile (· = '$')) (simple.dropWhile (· = '$'))

/-- The outermost known class that a class is inside of, or the class itself. -/
def topLevelClass (known : String → Bool) (path : String) : String :=
  (((outerPaths path.toList).map String.ofList).find? known).getD path

/-- A top-level class with the paths of the classes inside it. -/
structure ClassEntry where
  /-- `com.app.Main` -/
  fullName : String
  /-- `Lcom/app/Main;` -/
  rawName : String
  /-- `Main` -/
  simpleName : String
  /-- `com/app/Main` -/
  aliasPath : String
  /-- Paths such as `com/app/Main$1`. -/
  inner : List String
deriving DecidableEq, Repr

/-- The entry of a class path, with given paths inside it. -/
def ClassEntry.ofPath (path : String) (inner : List String := []) : ClassEntry :=
  { fullName := dotted path
    rawName := Archive.rawName path
    simpleName := String.ofList (splitSimple path.toList).2
    aliasPath := path
    inner }

/-- Texts in the order of their characters. -/
def sorted (texts : List String) : List String :=
  texts.mergeSort fun a b => decide (a ≤ b)

/-- The entries of the classes with given paths: one for each top-level class, in
order, each with the paths that fold into it. -/
def groupClasses (paths : List String) : List ClassEntry :=
  let top := topLevelClass paths.contains
  (sorted (paths.map top)).eraseDups.map fun t =>
    ClassEntry.ofPath t (paths.filter fun p => top p == t && p != t)

end ArchiveScout.Archive
