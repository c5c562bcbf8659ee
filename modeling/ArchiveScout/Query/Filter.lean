import ArchiveScout.Query.Advanced
import ArchiveScout.Query.Spec

/-!
# ArchiveScout.Query.Filter

**What an engine is asked to find**: a query and an advanced query put together, once
for classes and once for methods.
-/

namespace ArchiveScout.Query

open ArchiveScout.Number (Literal)
open ArchiveScout.Regex (Pattern)

/-- Constraints on classes. -/
structure ClassFilter where
  packages : List String := []
  classes : List String := []
  classSimpleNames : List String := []
  classPattern : Option ClassPattern := none
  referenceTypes : ReferenceTypes := .none
  references : List String := []
  referencePattern : Option Pattern := none
  signatures : List String := []
  sourceNames : List String := []
  numbers : List Literal := []
  annotationTypes : List String := []
  annotationValues : List String := []
  syntheticEnabled : Bool := false
  modifiers : Int := -1
  superClass : Option String := none
  interfaces : Option (List String) := none
  annotations : List String := []

/-- The class constraints of a query and an advanced query for classes. -/
def ClassFilter.compile (spec : QuerySpec) (advanced : AdvancedQuery) : ClassFilter :=
  { packages := spec.packages
    classes := spec.classes
    classSimpleNames := spec.classSimpleNames
    classPattern := spec.classPattern
    referenceTypes := spec.referenceTypes
    references := spec.references
    referencePattern := spec.referencePattern
    signatures := spec.signatures
    sourceNames := spec.sourceNames
    numbers := spec.numbers
    annotationTypes := spec.annotationTypes
    annotationValues := spec.annotationValues
    syntheticEnabled := spec.syntheticEnabled
    modifiers := advanced.modifiers
    superClass := advanced.superClass
    interfaces := advanced.interfaces
    annotations := advanced.annotations }

/-- Constraints on methods. -/
structure MethodFilter where
  referenceTypes : ReferenceTypes
  references : List String
  referencePattern : Option Pattern
  signatures : List String
  numbers : List Literal
  modifiers : Int
  methodNames : List String
  params : Option (List String)
  returnType : Option String
  paramSize : Int
  annotations : List String
  syntheticEnabled : Bool

/-- The method constraints of a query and an advanced query for methods. -/
def MethodFilter.compile (spec : QuerySpec) (advanced : AdvancedQuery) : MethodFilter :=
  { referenceTypes := spec.referenceTypes
    references := spec.references
    referencePattern := spec.referencePattern
    signatures := spec.signatures
    numbers := spec.numbers
    modifiers := advanced.modifiers
    methodNames := advanced.methodNames
    params := advanced.methodParams
    returnType := advanced.methodReturn
    paramSize := advanced.paramSize
    annotations := advanced.annotations
    syntheticEnabled := spec.syntheticEnabled }

end ArchiveScout.Query
