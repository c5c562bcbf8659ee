import ArchiveScout.Number.Literal
import ArchiveScout.Query.ClassPattern
import ArchiveScout.Query.ReferenceTypes
import ArchiveScout.Query.ResourceName

/-!
# ArchiveScout.Query.Spec

**Queries.** `QueryArgs` holds the values of the search options as they were given,
`QuerySpec` the query that they stand for. Names of resources are looked up later, in
each archive of its own: `resolve` finds their ids and `withResources` puts them into
the query for that archive.
-/

namespace ArchiveScout.Query

open ArchiveScout.Number (Literal)
open ArchiveScout.Regex (Pattern)

/-- The values of the search options. -/
structure QueryArgs where
  packages : List String := []
  classes : List String := []
  classNames : List String := []
  classRegex : String := ""
  refTypes : String := ""
  references : List String := []
  refRegex : String := ""
  signatures : List String := []
  sources : List String := []
  numbers : List String := []
  resourceNames : List String := []
  annotationTypes : List String := []
  annotationValues : List String := []
  synthetic : Bool := false
deriving DecidableEq, Repr

/-- What building a query relies on, without looking: classes are not asked for by full and by
simple names at once. -/
def QueryArgs.MeetsContract (args : QueryArgs) : Prop :=
  args.classes = [] ∨ args.classNames = []

/-- A query. Empty lists and absent patterns ask nothing. -/
structure QuerySpec where
  packages : List String := []
  classes : List String := []
  classSimpleNames : List String := []
  classPattern : Option ClassPattern := none
  referenceTypes : ReferenceTypes := .none
  references : List String := []
  referencePattern : Option Pattern := none
  signatures : List String := []
  sourceNames : List String := []
  numbers : List Literal := []
  resourceNames : List ResourceName := []
  annotationTypes : List String := []
  annotationValues : List String := []
  syntheticEnabled : Bool := false

/-- Reads a literal, or gives the error that names its text. -/
def readLiteral (text : String) : Except QueryError Literal :=
  match Literal.parse? text with
  | some x => .ok x
  | none => .error (.invalidLiteral text)

/-- Reads literals; the first text that is no number is the error. -/
def readLiterals : List String → Except QueryError (List Literal)
  | [] => .ok []
  | text :: texts => do return (← readLiteral text) :: (← readLiterals texts)

/-- The class pattern of an option's value; the empty text is no pattern. -/
def readClassPattern (text : String) : Except QueryError (Option ClassPattern) :=
  if text.isEmpty then .ok none else do return some (← ClassPattern.compile text)

/-- The reference pattern of an option's value; the empty text is no pattern. -/
def readReferencePattern (text : String) : Except QueryError (Option Pattern) :=
  if text.isEmpty then .ok none
  else match Pattern.compile? text with
    | some pattern => .ok (some pattern)
    | none => .error (.invalidPattern text)

/-- The reference types of an option's value. -/
def readReferenceTypes (letters : String) : Except QueryError ReferenceTypes :=
  match ReferenceTypes.parse letters.toList with
  | .ok types => .ok types
  | .error c => .error (.invalidKey (ReferenceTypes.unknownLetter c))

namespace QuerySpec

/-- The query that the options stand for. Of several faults the first one counts:
class pattern, reference pattern, reference types, numbers. -/
def build (args : QueryArgs) : Except QueryError QuerySpec := do
  let classPattern ← readClassPattern args.classRegex
  let referencePattern ← readReferencePattern args.refRegex
  let referenceTypes ← readReferenceTypes args.refTypes
  let numbers ← readLiterals args.numbers
  return {
    packages := args.packages
    classes := args.classes
    classSimpleNames := args.classNames
    classPattern
    referenceTypes
    references := args.references
    referencePattern
    signatures := args.signatures
    sourceNames := args.sources
    numbers
    resourceNames := ResourceName.ofValues args.resourceNames
    annotationTypes := args.annotationTypes
    annotationValues := args.annotationValues
    syntheticEnabled := args.synthetic }

end QuerySpec

/-- The containers and ids of resources, in the order of their names. -/
structure ResolvedResources where
  containers : List String := []
  ids : List Literal := []
deriving DecidableEq, Repr

/-- One resource more; a container is kept once. -/
def ResolvedResources.add (r : ResolvedResources) (container : String) (id : Int) :
    ResolvedResources :=
  { containers := if container ∈ r.containers then r.containers else r.containers ++ [container]
    ids := r.ids ++ [Literal.ofInteger id] }

namespace QuerySpec

/-- The ids of all resource names of the query. The first name that cannot be looked
up is the error. -/
def resolve {ε : Type} (spec : QuerySpec) (lookup : ResourceName → Except ε Int) :
    Except ε ResolvedResources :=
  spec.resourceNames.foldlM (fun r name => do return r.add name.container (← lookup name)) {}

/-- The query for one archive. The ids follow the numbers that were asked for. The
containers themselves are left out, unless a class pattern was given. -/
def withResources (spec : QuerySpec) (r : ResolvedResources) : QuerySpec :=
  { spec with
    numbers := spec.numbers ++ r.ids
    classPattern := match spec.classPattern with
      | some pattern => some pattern
      | none => if r.containers = [] then none else some (.excluding r.containers) }

end QuerySpec

end ArchiveScout.Query
