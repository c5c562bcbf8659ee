import ArchiveScout.Proofs.Text.Split
import ArchiveScout.Query.ResourceName
import Mathlib.Data.List.Forall2

/-!
# ArchiveScout.Proofs.Query.ResourceName

**Kinds and names of resources.** The parts of an entry are put behind the resource class and divided
again at the last point. The only point that counts is the one that was put in front of the name, so
the name has to be without points, and then it is no matter what the other parts are.
-/

namespace ArchiveScout.Query.ResourceName

open ArchiveScout.Text (cutFirst_append cutLast_append)

variable {resClass kind name : String} {r : ResourceName}

/-- A resource is the field that a name stands for in the class that a resource class has for a kind,
and its qualified form stands for it again. -/
structure IsExpansion (resClass kind name : String) (r : ResourceName) : Prop where
  container : r.container = resClass ++ "$" ++ kind
  qualified : r.qualified = resClass ++ "$" ++ kind ++ "." ++ name
  readBack : ofQualified r.qualified = r
  name : r.name = name

/-- A resource is what an entry stands for: the entry has a kind and a name, and whatever they are, the
resource is the field for them. -/
def IsOfEntry (resClass entry : String) (r : ResourceName) : Prop :=
  (∃ kind name, entry = kind ++ ":" ++ name) ∧
    ∀ kind name, entry = kind ++ ":" ++ name → IsExpansion resClass kind name r

/-- A qualified form is divided where it was put together. -/
theorem ofQualified_qualified (h : '.' ∉ r.name.toList) : ofQualified r.qualified = r := by
  have hlist : r.qualified.toList = r.container.toList ++ '.' :: r.name.toList := by
    simp [qualified]
  rw [ofQualified, hlist, cutLast_append _ h]
  simp

theorem isExpansion_ofKind (resClass kind : String) (h : '.' ∉ name.toList) :
    IsExpansion resClass kind name (ofKind resClass kind name) := by
  have hread : ofKind resClass kind name = ⟨resClass ++ "$" ++ kind, name⟩ :=
    ofQualified_qualified (r := ⟨resClass ++ "$" ++ kind, name⟩) h
  rw [hread]
  exact ⟨rfl, rfl, ofQualified_qualified h, rfl⟩

/-- An entry is divided at its first colon. -/
theorem ofKindAndName?_colon (resClass name : String) (h : ':' ∉ kind.toList) :
    ofKindAndName? resClass (kind ++ ":" ++ name) = some (ofKind resClass kind name) := by
  have hlist : (kind ++ ":" ++ name).toList = kind.toList ++ ':' :: name.toList := by simp
  rw [ofKindAndName?, hlist, cutFirst_append h]
  simp

/-- If every entry stands for a resource, then there is one for each, in their order. -/
theorem forall₂_ofValues {R : String → ResourceName → Prop} {entries : List String}
    (h : ∀ entry ∈ entries, ∃ r, ofKindAndName? resClass entry = some r ∧ R entry r) :
    List.Forall₂ R entries (ofValues (resClass :: entries)) := by
  rw [ofValues]
  induction entries with
  | nil => exact .nil
  | cons entry entries ih =>
      obtain ⟨⟨r, hr, hentry⟩, hentries⟩ := List.forall_mem_cons.mp h
      rw [List.filterMap_cons_some hr]
      exact .cons hentry (ih hentries)

end ArchiveScout.Query.ResourceName
