import ArchiveScout.Text.Split

/-!
# ArchiveScout.Query.ResourceName

**Names of resources.** A resource is a field of a container class: the resource
`app_name` of kind `string` of the class `com.app.R` is the field `app_name` of
`com.app.R$string`, in its qualified form `com.app.R$string.app_name`.
-/

namespace ArchiveScout.Query

open ArchiveScout.Text (cutFirst cutLast)

/-- A field of a container class. -/
structure ResourceName where
  container : String
  name : String
deriving DecidableEq, Repr

namespace ResourceName

/-- Reads a qualified form; the last point divides it. -/
def ofQualified (qualified : String) : ResourceName :=
  match cutLast '.' qualified.toList with
  | some (container, name) => ⟨String.ofList container, String.ofList name⟩
  | none => ⟨"", qualified⟩

/-- The container and the name with a point between. -/
def qualified (r : ResourceName) : String := r.container ++ "." ++ r.name

/-- The resource of a kind and a name in the resource class `resClass`. -/
def ofKind (resClass kind name : String) : ResourceName :=
  ofQualified (resClass ++ "$" ++ kind ++ "." ++ name)

/-- The resource that `kind:name` stands for; entries without a colon stand for none. -/
def ofKindAndName? (resClass entry : String) : Option ResourceName :=
  (cutFirst ':' entry.toList).map fun (kind, name) =>
    ofKind resClass (String.ofList kind) (String.ofList name)

/-- The resources of a list whose first value names the resource class. -/
def ofValues : List String → List ResourceName
  | [] => []
  | resClass :: entries => entries.filterMap (ofKindAndName? resClass)

end ResourceName

end ArchiveScout.Query
