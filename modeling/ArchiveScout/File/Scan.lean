import ArchiveScout.File.IgnoreRules
import ArchiveScout.File.Tree

/-!
# ArchiveScout.File.Scan

**Finding archives.** An input that is a file is taken as it is given. An input that
is a directory stands for all archives below it, in the order of their paths. The walk
leaves out what the rules of the directories on the way and above forbid; of several
directories with a rule for a path, the nearest one decides.
-/

namespace ArchiveScout.File

open ArchiveScout.Text (dropHead?)

/-- The extensions of archives. -/
def archiveExtensions : List String := ["jar", "apk", "dex", "aar"]

/-- Whether a path has the extension of an archive, in any letter case. -/
def isArchive (path : String) : Bool :=
  match Path.extension? path with
  | some ext => archiveExtensions.contains (String.ofList (ext.toList.map Char.toLower))
  | none => false

/-- The rules in a directory, with the directory's path as the paths below it start. -/
structure RuleSet where
  directory : String
  rules : List IgnoreRule

/-- A path without a single point and a slash in front of it. -/
def dropPoint (path : String) : String :=
  match path.toList with
  | '.' :: '/' :: cs => String.ofList cs
  | _ => path

/-- What of a path stands below a directory, both compared as texts: a path with a slash
loses the path of the directory and one slash. Of what stands in front of either, only
one point and slash are passed over, so paths that are the same by their components may
still differ here. -/
def below (directory path : String) : String :=
  let directory := dropPoint directory
  let path := dropPoint path
  if Path.components directory = [.current] ∨ !path.toList.contains '/' then path
  else
    let rest := (dropHead? directory.toList path.toList).getD path.toList
    String.ofList ((dropHead? ['/'] rest).getD rest)

/-- What the rules of directories, the nearest first, say of a path. -/
def verdict? (sets : List RuleSet) (path : String) (isDirectory : Bool) : Option Bool :=
  sets.findSome? fun set =>
    IgnoreRule.verdict? set.rules (below set.directory path) isDirectory

/-- The rules in the directory at a location. -/
def rulesAt (t : Tree) (loc : Location) : List IgnoreRule :=
  match t.get? (loc ++ [IgnoreRule.fileName]) with
  | some (.file (.bytes data)) => IgnoreRule.ofBytes data
  | _ => []

/-- The path of a location from the root. -/
def absolutePath (loc : Location) : String := "/" ++ "/".intercalate loc

/-- The rules of the directories above a location, the nearest first. -/
def rulesAbove (t : Tree) (loc : Location) : List RuleSet :=
  loc.inward.dropLast.reverse.map fun outer => ⟨absolutePath outer, rulesAt t outer⟩

/-- The files that a walk visits below a directory, as paths behind the path of the
directory. `near` holds the rules of the directories that the walk is in, which see
paths as the walk writes them, and `above` those of the directories around the walk,
which see paths from the root. The fuel bounds the depth. -/
def walk (t : Tree) (above : List RuleSet) :
    Nat → Location → String → List RuleSet → List String
  | 0, _, _, _ => []
  | fuel + 1, loc, path, near =>
    let near := ⟨path, rulesAt t loc⟩ :: near
    (t.children loc).flatMap fun (name, node) =>
      let inner := loc ++ [name]
      let path := Path.join path name
      let isDirectory := node == .directory
      let verdict := (verdict? near (dropPoint path) isDirectory).orElse fun _ =>
        verdict? above (absolutePath inner) isDirectory
      if verdict = some true then []
      else match node with
        | .file _ => [path]
        | .directory => walk t above fuel inner path near

/-- The path that a walk takes for the standard input. -/
def standardInput : String := "-"

/-- The files that a walk visits below a path; the standard input has none. -/
def visited (t : Tree) (path : String) : List String :=
  if Path.components path = Path.components standardInput then []
  else match t.locate path with
    | .ok (loc, .directory) => walk t (rulesAbove t loc) (t.nodes.length + 1) loc path []
    | _ => []

/-- An input with the paths that a walk from there delivers, in the order in which they
come. Several workers share a walk, so any order is possible. -/
structure Walked where
  input : String
  delivered : List String

/-- The archives among the paths that a walk delivers. -/
def archivesOf (t : Tree) (delivered : List String) : List String :=
  delivered.filter fun path => t.isFile path && isArchive path

/-- The archives that an input stands for, those of a directory in the order of their
paths. An input that does not exist is the error. -/
def expandInput (t : Tree) (w : Walked) : Except String (List String) :=
  if t.isDirectory w.input then .ok (Path.sorted (archivesOf t w.delivered))
  else if t.isFile w.input then .ok [w.input]
  else .error w.input

/-- The archives that inputs stand for when walks deliver as given; the first input that
does not exist is the error. -/
def expandWalked (t : Tree) (walks : List Walked) : Except String (List String) := do
  return (← walks.mapM (expandInput t)).flatten

/-- The archives that inputs stand for. -/
def expandInputs (t : Tree) (inputs : List String) : Except String (List String) :=
  expandWalked t (inputs.map fun input => ⟨input, visited t input⟩)

/-- The wording for an input that does not exist. -/
def missingInput (input : String) : String := s!"File not found: {input}"

end ArchiveScout.File
