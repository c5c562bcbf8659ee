import ArchiveScout.Proofs.Query.Criteria
import Mathlib.Data.List.Forall2

/-!
# ArchiveScout.Proofs.Query.Resources

**Names of resources in a query.** Looking up the names one after another gives an id for each and
keeps every container once, where it first comes; it stops at the first name that has no id. What
is found goes into the query for one archive, and nothing else of the query changes.
-/

namespace ArchiveScout.Query

open ArchiveScout.Number (Literal)

variable {ε : Type} {e : ε} {spec : QuerySpec} {lookup : ResourceName → Except ε Int}
  {name : ResourceName} {names before : List ResourceName} {ids given : List Int}
  {resolved : ResolvedResources}

/-- One value more, unless it has come before. -/
theorem eraseDups_concat {α : Type} [BEq α] [LawfulBEq α] (xs : List α) (x : α) :
    (xs ++ [x]).eraseDups = if x ∈ xs.eraseDups then xs.eraseDups else xs.eraseDups ++ [x] := by
  rw [List.eraseDups_append, List.cons_removeAll]
  by_cases hseen : x ∈ xs
  · rw [if_pos (List.mem_eraseDups.mpr hseen), if_neg (by simpa using hseen)]
    exact List.append_nil _
  · rw [if_neg (mt List.mem_eraseDups.mp hseen), if_pos (by simpa using hseen)]
    rfl

/-! ### Looking up -/

namespace ResolvedResources

/-- The containers and ids of some names. -/
def ofIds (names : List ResourceName) (ids : List Int) : ResolvedResources :=
  { containers := (names.map (·.container)).eraseDups, ids := ids.map Literal.ofInteger }

theorem ofIds_concat (names : List ResourceName) (ids : List Int) (name : ResourceName) (id : Int) :
    ofIds (names ++ [name]) (ids ++ [id]) = (ofIds names ids).add name.container id := by
  rw [ofIds, List.map_append, List.map_singleton, eraseDups_concat, List.map_append]
  rfl

end ResolvedResources

/-- Whether ids are what a lookup gives for names, one after another. -/
def AreIds (lookup : ResourceName → Except ε Int) (names : List ResourceName) (ids : List Int) :
    Prop :=
  List.Forall₂ (fun name id => lookup name = .ok id) names ids

theorem exists_areIds_iff :
    (∃ ids, AreIds lookup names ids) ↔ ∀ name ∈ names, ∃ id, lookup name = .ok id := by
  simp only [AreIds, ← mapM_eq_ok]
  exact exists_mapM

theorem AreIds.unique (h : AreIds lookup names given) (h' : AreIds lookup names ids) :
    given = ids := by
  induction h generalizing ids with
  | nil => exact (List.forall₂_nil_left_iff.mp h').symm
  | cons hid _ ih =>
      cases h' with
      | cons hid' h' => rw [ih h', Except.ok.inj (hid.symm.trans hid')]

/-- Ids that have been found are added to those that are there. -/
theorem AreIds.foldl_add (h : AreIds lookup names ids) (before : List ResourceName)
    (given : List Int) :
    (names.zip ids).foldl (fun r entry => r.add entry.1.container entry.2)
      (ResolvedResources.ofIds before given) = .ofIds (before ++ names) (given ++ ids) := by
  -- What has been found so far is always that of some names, which the next step extends by one.
  induction h generalizing before given with
  | nil => simp
  | cons _ _ ih =>
      rw [List.zip_cons_cons, List.foldl_cons, ← ResolvedResources.ofIds_concat, ih]
      simp

namespace QuerySpec

/-- All names are looked up, and then what has been found is put together. -/
theorem resolve_eq_mapM : spec.resolve lookup =
    return (spec.resourceNames.zip (← spec.resourceNames.mapM lookup)).foldl
      (fun r entry => r.add entry.1.container entry.2) (ResolvedResources.ofIds [] []) :=
  foldlM_eq_mapM_zip _

/-- Names are resolved if all of them have ids. -/
theorem resolve_eq_ok : spec.resolve lookup = .ok resolved ↔
    ∃ ids, AreIds lookup spec.resourceNames ids ∧ resolved = .ofIds spec.resourceNames ids := by
  rw [resolve_eq_mapM, map_eq_ok]
  refine exists_congr fun ids => ?_
  rw [mapM_eq_ok]
  refine and_congr_right fun hids => ?_
  rw [AreIds.foldl_add hids [] []]
  rfl

/-- The first name without an id is why names are not resolved. -/
theorem resolve_eq_error : spec.resolve lookup = .error e ↔
    ∃ before name after, spec.resourceNames = before ++ name :: after ∧
      (∀ other ∈ before, ∃ id, lookup other = .ok id) ∧ lookup name = .error e := by
  rw [resolve_eq_mapM, map_eq_error, mapM_eq_error]

theorem exists_resolve_iff : (∃ resolved, spec.resolve lookup = .ok resolved) ↔
    ∀ name ∈ spec.resourceNames, ∃ id, lookup name = .ok id := by
  rw [← exists_areIds_iff]
  constructor
  · rintro ⟨resolved, h⟩
    obtain ⟨ids, hids, -⟩ := resolve_eq_ok.mp h
    exact ⟨ids, hids⟩
  · rintro ⟨ids, hids⟩
    exact ⟨_, resolve_eq_ok.mpr ⟨ids, hids, rfl⟩⟩

/-- A query without names of resources is the same for every archive. -/
theorem withResources_of_no_names (spec : QuerySpec) : spec.withResources (.ofIds [] []) = spec := by
  obtain ⟨_, _, _, classPattern, _⟩ := spec
  cases classPattern <;> simp [withResources, ResolvedResources.ofIds]

end QuerySpec

/-- The classes that are left are those whose names begin with no container. -/
theorem isMatch_excluding_iff {containers : List String} {className : String} :
    (ClassPattern.excluding containers).isMatch className = true ↔
      ∀ container ∈ containers, ∀ rest, className ≠ container ++ rest := by
  simp only [ClassPattern.isMatch, Bool.not_eq_eq_eq_not, Bool.not_true, List.any_eq_false,
    Text.startsWith_iff, not_exists, ne_eq]

end ArchiveScout.Query
