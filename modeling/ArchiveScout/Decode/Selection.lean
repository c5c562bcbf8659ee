import ArchiveScout.Archive.ClassEntry

/-!
# ArchiveScout.Decode.Selection

**Which classes and resources a decode pass writes.** Classes are selected by package
and by class, inner classes included, or as an exact list of names; resources by the
kinds under `res/`. Names of classes are compared in the form of class files.
-/

namespace ArchiveScout.Decode

open ArchiveScout.Archive (ClassEntry internalName rawName slashed)
open ArchiveScout.Text (startsWith)

/-- A selection of classes. -/
inductive SourceFilter where
  /-- Every class. -/
  | all
  /-- Classes whose names start with one of the packages, or with one of the classes
  followed by `;` or `$`. -/
  | selection (packages classes : List String)
  /-- Exactly the classes with these names. -/
  | exact (names : List String)
deriving DecidableEq, Repr

namespace SourceFilter

/-- The start of all names of a package. -/
def packageStart (package : String) : String := "L" ++ slashed package ++ "/"

/-- The name of a class without its final semicolon. -/
def classStart (name : String) : String :=
  let internal := internalName name
  ((Text.dropTail? [';'] internal.toList).map String.ofList).getD internal

/-- Selects packages and classes; without any, every class. -/
def ofSelection (packages classes : List String) : SourceFilter :=
  if packages = [] ∧ classes = [] then .all
  else .selection (packages.map packageStart) (classes.map classStart)

/-- Selects the classes that a search found. -/
def ofResults (names : List String) : SourceFilter := .exact (names.map internalName)

/-- Whether `name` is `start` followed by `;` or `$` and anything. -/
def isClassOrInner (start name : String) : Bool :=
  match Text.dropHead? start.toList name.toList with
  | some (c :: _) => c == ';' || c == '$'
  | _ => false

/-- Whether a class with a name in the form of class files is selected. -/
def accepts : SourceFilter → String → Bool
  | .all, _ => true
  | .selection packages classes, name =>
    packages.any (startsWith · name) || classes.any (isClassOrInner · name)
  | .exact names, name => names.contains name

end SourceFilter

/-- A class is written when it or a class inside it is selected. -/
def isEligible (filter : SourceFilter) (entry : ClassEntry) : Bool :=
  filter.accepts entry.rawName || entry.inner.any fun path => filter.accepts (rawName path)

/-- The manifests of archives. -/
def manifestNames : List String := ["AndroidManifest.xml", "META-INF/MANIFEST.MF"]

/-- A selection of resources: those with certain beginnings, or all. -/
structure ResourceFilter where
  starts : Option (List String) := none
deriving DecidableEq, Repr

namespace ResourceFilter

/-- Selects kinds of resources under `res/`; without any, every resource. -/
def ofTypes (types : List String) : ResourceFilter :=
  if types = [] then {} else { starts := some (types.map ("res/" ++ ·)) }

/-- Whether a resource is selected; manifests always are. -/
def accepts (filter : ResourceFilter) (name : String) : Bool :=
  manifestNames.contains name ||
    match filter.starts with
    | none => true
    | some starts => starts.any (startsWith · name)

end ResourceFilter

end ArchiveScout.Decode
