import ArchiveScout.Text.Split

/-!
# ArchiveScout.File.Path

**Paths as texts.** A path is a text of names between slashes. `join` puts a path
behind another, where a path that starts with a slash starts anew. `components` gives
the parts that matter: repeated slashes and single points in the middle do not. Two
paths are the same when their components are.
-/

namespace ArchiveScout.File

open ArchiveScout.Text (splitOn cutLast)

/-- A part of a path. -/
inductive Component where
  /-- The slash at the start. -/
  | root
  /-- A single point at the start. -/
  | current
  /-- Two points. -/
  | parent
  /-- Anything else. -/
  | name (text : String)
deriving DecidableEq, Repr

namespace Path

/-- The texts between the slashes of a path. -/
def pieces (path : String) : List String := (splitOn '/' path.toList).map String.ofList

/-- Whether a path starts at the root. -/
def isAbsolute (path : String) : Bool := path.toList.head? = some '/'

/-- A path behind another. -/
def join (base path : String) : String :=
  if isAbsolute path || base.isEmpty then path
  else if base.toList.getLast? = some '/' then base ++ path
  else base ++ "/" ++ path

/-- The component that a piece stands for, if any. -/
def componentOf? (piece : String) : Option Component :=
  if piece = "" ∨ piece = "." then none
  else if piece = ".." then some .parent
  else some (.name piece)

/-- The components of a path. -/
def components (path : String) : List Component :=
  let start := if isAbsolute path then [.root]
    else if (pieces path).head? = some "." then [.current] else []
  start ++ (pieces path).filterMap componentOf?

/-- Whether a component is an ordinary name. -/
def isOrdinary : Component → Bool
  | .name _ => true
  | _ => false

/-- The last component, if it is an ordinary name. -/
def fileName? (path : String) : Option String :=
  match (components path).getLast? with
  | some (.name text) => some text
  | _ => none

/-- What stands behind the last point of the file name, if something stands in front
of it. -/
def extension? (path : String) : Option String :=
  (fileName? path).bind fun name =>
    match cutLast '.' name.toList with
    | some (stem, ext) => if stem = [] then none else some (String.ofList ext)
    | none => none

/-- Drops pieces that are no components from the front of reversed pieces. The last
piece of the list, the first of the path, always stays. -/
def dropNull : List String → List String
  | [] => []
  | [first] => [first]
  | piece :: rest => if piece = "" ∨ piece = "." then dropNull rest else piece :: rest

/-- The path without its last component; a path without components and the root
have none. -/
def parent? (path : String) : Option String :=
  match dropNull (pieces path).reverse with
  | [] => none
  | [first] => if first = "" then none else some ""
  | _ :: rest =>
    match dropNull rest with
    | [""] => some "/"
    | shorter => some ("/".intercalate shorter.reverse)

/-- A path and the paths that it is inside of, the longest first. The fuel bounds
their number. -/
def ancestorsWithin : Nat → String → List String
  | 0, _ => []
  | fuel + 1, path =>
    path :: match parent? path with
      | some shorter => ancestorsWithin fuel shorter
      | none => []

/-- A path and the paths that it is inside of, the longest first. -/
def ancestors (path : String) : List String := ancestorsWithin (path.length + 1) path

end Path

/-- Order of components: the root, a single point, two points, names. -/
def Component.le : Component → Component → Bool
  | .root, _ => true
  | _, .root => false
  | .current, _ => true
  | _, .current => false
  | .parent, _ => true
  | _, .parent => false
  | .name a, .name b => decide (a ≤ b)

/-- Order of paths, component by component. -/
def Path.compLe : List Component → List Component → Bool
  | [], _ => true
  | _ :: _, [] => false
  | a :: as, b :: bs => if a = b then compLe as bs else a.le b

/-- Paths in the order of their components. -/
def Path.sorted (paths : List String) : List String :=
  paths.mergeSort fun a b => compLe (components a) (components b)

end ArchiveScout.File
