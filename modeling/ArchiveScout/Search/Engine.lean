import ArchiveScout.Archive.Catalog
import ArchiveScout.Query.Filter

/-!
# ArchiveScout.Search.Engine

**Search engines.** An engine loads archives. A loaded archive looks up the ids of
resources and streams the items that satisfy a filter. A stream is a list of items,
and the failure in which it ends if it is read to the end. Its reader can tell the
engine behind any item that it has enough. The engine should stop then, but is free to
go on, and to fail.

`nameEngine` knows no more of an archive than the names of its classes, and refuses
every criterion that names alone cannot decide.
-/

namespace ArchiveScout.Search

open ArchiveScout.File (Tree)
open ArchiveScout.Query (ClassFilter MethodFilter ResourceName)

/-- Why an engine fails. -/
inductive EngineError where
  | load (path reason : String)
  | resourceId (qualified : String)
  | unsupported (what : String)
deriving DecidableEq, Repr

/-- The wording of an error. -/
def EngineError.message : EngineError → String
  | .load path reason => s!"Failed to load archive '{path}': {reason}"
  | .resourceId qualified => s!"Resource id couldn't retrieve: {qualified}"
  | .unsupported what => s!"Unsupported by this engine: {what}"

/-- What a class or method refers to. -/
structure ReferencePool where
  strings : List String := []
  types : List String := []
  fields : List String := []
  methods : List String := []
deriving DecidableEq, Repr

/-- A match. -/
structure Item where
  /-- The name of the class, with points. -/
  className : String
  display : String
  pool : Option ReferencePool := none
deriving DecidableEq, Repr

/-- Items, and the failure behind them. -/
structure Burst where
  items : List Item := []
  failure : Option EngineError := none
deriving DecidableEq, Repr

/-- What an engine streams to a reader that takes all of it, and what comes instead of
the rest if the reader has enough behind so many items. -/
structure Stream extends Burst where
  stopped : Nat → Burst := fun _ => {}

/-- A loaded archive. -/
structure LoadedArchive where
  resourceId : ResourceName → Except EngineError Int
  classes : ClassFilter → Stream
  methods : ClassFilter → MethodFilter → Stream

/-- An engine. -/
abbrev Engine := Tree → String → Except EngineError LoadedArchive

/-- The first criterion of a filter that names alone cannot decide. -/
def unsupportedCriterion? (f : ClassFilter) : Option String :=
  if !f.referenceTypes.hasNone then some "reference types"
  else if f.sourceNames ≠ [] then some "source names"
  else if !f.numbers.isEmpty then some "numbers"
  else if f.annotationTypes ≠ [] ∨ f.annotationValues ≠ [] then some "annotation criteria"
  else if f.modifiers ≠ -1 then some "modifiers"
  else if f.superClass.isSome then some "super class"
  else if f.interfaces.isSome then some "interfaces"
  else if f.annotations ≠ [] then some "annotations"
  else none

/-- Whether a class is in a package or in one below it. -/
def isInPackage (package className : String) : Bool :=
  match Text.dropHead? package.toList className.toList with
  | some rest => rest.head? = some '.'
  | none => false

/-- What stands behind the last point of a name. -/
def simpleNameOf (className : String) : String :=
  match Text.cutLast '.' className.toList with
  | some (_, simple) => String.ofList simple
  | none => className

/-- Whether the name of a class satisfies a filter. -/
def matchesNames (f : ClassFilter) (className : String) : Bool :=
  (f.packages.isEmpty || f.packages.any (isInPackage · className)) &&
    (f.classes.isEmpty || f.classes.contains className) &&
    (f.classSimpleNames.isEmpty || f.classSimpleNames.contains (simpleNameOf className)) &&
    match f.classPattern with
    | none => true
    | some pattern => pattern.isMatch className

/-- The items for the classes that satisfy a filter. -/
def nameStream (classNames : List String) (f : ClassFilter) : Stream :=
  match unsupportedCriterion? f with
  | some what => { failure := some (.unsupported what) }
  | none =>
    { items := (classNames.filter (matchesNames f)).map fun name =>
        { className := name, display := name } }

/-- The engine that knows names only. -/
def nameEngine : Engine := fun t path =>
  match Archive.catalog t path with
  | .error e => .error (.load path (": ".intercalate e.chain))
  | .ok listed =>
    let names := listed.classes.map Archive.dotted
    .ok {
      resourceId := fun r => .error (.unsupported s!"resource id lookup ({r.qualified})")
      classes := nameStream names
      methods := fun _ _ => { failure := some (.unsupported "method search") } }

end ArchiveScout.Search
