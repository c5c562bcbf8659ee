import ArchiveScout.Command.Run
import ArchiveScout.Proofs.Query.ResourceName

/-!
# ArchiveScout.Proofs.Command.Check

**What the checks let through.** Checks pass if none of them finds fault. What the options of a
search have then is `Accepted`, which is all that the checks ask. So behind the checks every name of
a resource can be read, and the session has its pool types.
-/

namespace ArchiveScout.Command

open ArchiveScout.Query (ReferenceTypes ResourceName)
open ArchiveScout.Text (cutFirst_eq_none cutFirst_eq_some length_splitOn_eq_one splitOn
  splitOn_append_sep splitOn_ne_nil splitOn_of_notMem)

variable {checks : List (Bool × UsageError)} {letters entry kind name : String}
  {names : List String} {o : SearchOptions}

theorem firstFault_eq_ok : firstFault checks = .ok () ↔ ∀ check ∈ checks, check.1 = false := by
  induction checks with
  | nil => simp [firstFault]
  | cons check checks ih =>
      obtain ⟨atFault, e⟩ := check
      rw [firstFault, List.forall_mem_cons]
      cases atFault with
      | true => simp
      | false => simp [ih]

theorem areReferenceTypes_iff : areReferenceTypes letters = true ↔
    ∃ types, ReferenceTypes.parse letters.toList = .ok types := by
  rw [areReferenceTypes]
  cases ReferenceTypes.parse letters.toList <;> simp [Except.isOk, Except.toBool]

/-! ### Entries -/

/-- A text that can stand on a side of the colon: it has neither points nor colons. -/
structure IsPart (text : String) : Prop where
  no_point : '.' ∉ text.toList
  no_colon : ':' ∉ text.toList

/-- The colon of an entry is the only one. -/
theorem isResourceEntry_colon_iff :
    isResourceEntry (kind ++ ":" ++ name) = true ↔ IsPart kind ∧ IsPart name := by
  have hlist : (kind ++ ":" ++ name).toList = kind.toList ++ ':' :: name.toList := by simp
  have hpoint : '.' ∉ kind.toList ++ ':' :: name.toList ↔ '.' ∉ kind.toList ∧ '.' ∉ name.toList := by
    simp
  have hcolon : (splitOn ':' (kind.toList ++ ':' :: name.toList)).length = 2 ↔
      ':' ∉ kind.toList ∧ ':' ∉ name.toList := by
    rw [splitOn_append_sep, List.length_append, ← length_splitOn_eq_one, ← length_splitOn_eq_one]
    have hkind := List.length_pos_iff.mpr (splitOn_ne_nil ':' kind.toList)
    have hname := List.length_pos_iff.mpr (splitOn_ne_nil ':' name.toList)
    omega
  rw [isResourceEntry, hlist, Bool.and_eq_true, Bool.not_eq_true', List.contains_eq_mem,
    decide_eq_false_iff_not, hpoint, beq_iff_eq, hcolon]
  constructor
  · intro h
    exact ⟨⟨h.1.1, h.2.1⟩, ⟨h.1.2, h.2.2⟩⟩
  · intro h
    exact ⟨⟨h.1.no_point, h.2.no_point⟩, h.1.no_colon, h.2.no_colon⟩

/-- An entry that passes is a kind and a name. -/
theorem exists_parts (h : isResourceEntry entry = true) :
    ∃ kind name, entry = kind ++ ":" ++ name := by
  cases hcut : Text.cutFirst ':' entry.toList with
  | none => simp [isResourceEntry, splitOn_of_notMem (cutFirst_eq_none.mp hcut)] at h
  | some sides =>
      refine ⟨String.ofList sides.1, String.ofList sides.2, String.toList_injective ?_⟩
      simp [(cutFirst_eq_some hcut).1]

theorem isResourceEntry_iff : isResourceEntry entry = true ↔
    ∃ kind name, entry = kind ++ ":" ++ name ∧ IsPart kind ∧ IsPart name := by
  constructor
  · intro h
    obtain ⟨kind, name, rfl⟩ := exists_parts h
    exact ⟨kind, name, rfl, isResourceEntry_colon_iff.mp h⟩
  · intro h
    obtain ⟨kind, name, rfl, hparts⟩ := h
    exact isResourceEntry_colon_iff.mpr hparts

namespace SearchOptions

/-! ### Accepted options -/

/-- What the options of a search have that pass the checks. -/
structure Accepted (o : SearchOptions) : Prop where
  output : o.output ≠ ""
  files : o.files ≠ []
  mode : o.mode = "c" ∨ o.mode = "m"
  asks : o.asks = true
  oneKindOfNames : o.query.classes = [] ∨ o.query.classNames = []
  types : ∃ types, ReferenceTypes.parse o.query.refTypes.toList = .ok types
  /-- Types of references are given just if there is something to look for in them. -/
  references : o.query.refTypes = "" ↔
    o.query.references = [] ∧ o.query.signatures = [] ∧ o.query.refRegex = ""
  /-- Behind a resource class there is an entry at least. -/
  resources : o.query.resourceNames = [] ∨ ∃ resClass entries,
    o.query.resourceNames = resClass :: entries ∧ entries ≠ [] ∧
      ∀ entry ∈ entries, isResourceEntry entry = true
  pool : ∃ types, ReferenceTypes.parse o.printPool.toList = .ok types

theorem isNone_mode? : o.mode?.isNone = false ↔ o.mode = "c" ∨ o.mode = "m" := by
  rw [mode?]
  by_cases hclasses : o.mode = "c"
  · simp [hclasses]
  · by_cases hmethods : o.mode = "m" <;> simp [hclasses, hmethods]

theorem hasReferences_eq_false : o.hasReferences = false ↔
    o.query.references = [] ∧ o.query.signatures = [] ∧ o.query.refRegex = "" := by
  simp [hasReferences, and_assoc]

theorem resourceFaults_pass : (∀ check ∈ resourceFaults names, check.1 = false) ↔
    names = [] ∨ ∃ resClass entries, names = resClass :: entries ∧ entries ≠ [] ∧
      ∀ entry ∈ entries, isResourceEntry entry = true := by
  match names with
  | [] => simp [resourceFaults]
  | [first] => simp [resourceFaults]
  | resClass :: entry :: entries => simp [resourceFaults]

/-- The options of a search pass the checks just if they are accepted. -/
theorem check_eq_ok_iff : o.check = .ok () ↔ o.Accepted := by
  rw [check, firstFault_eq_ok, faults, List.forall_mem_append, List.forall_mem_append,
    resourceFaults_pass]
  simp only [List.forall_mem_cons, List.not_mem_nil, false_imp_iff, implies_true, and_true,
    isNone_mode?, Bool.not_eq_false', areReferenceTypes_iff, Bool.and_eq_false_iff,
    hasReferences_eq_false, List.isEmpty_iff, List.isEmpty_eq_false_iff, String.isEmpty_iff,
    String.isEmpty_eq_false_iff]
  constructor
  · intro h
    obtain ⟨⟨⟨houtput, hfiles, hmode, hasks, hnames, htypes, hmissing, hspare⟩, hresources⟩,
      hpool⟩ := h
    refine ⟨houtput, hfiles, hmode, hasks, hnames, htypes, ⟨hspare.neg_resolve_left, ?_⟩, hresources,
      hpool⟩
    intro hnone
    exact hmissing.resolve_right (by simp [hasReferences_eq_false.mpr hnone])
  · intro h
    refine ⟨⟨⟨h.output, h.files, h.mode, h.asks, h.oneKindOfNames, h.types, ?_, ?_⟩, h.resources⟩,
      h.pool⟩
    · cases hreferences : o.hasReferences with
      | true => exact .inr rfl
      | false => exact .inl (h.references.mpr (hasReferences_eq_false.mp hreferences))
    · exact (em (o.query.refTypes = "")).symm.imp_right h.references.mp

section

variable {resClass : String} {entries : List String}

theorem Accepted.entries_pass (h : o.Accepted)
    (hnames : o.query.resourceNames = resClass :: entries) :
    ∀ entry ∈ entries, isResourceEntry entry = true := by
  rcases h.resources with hnone | ⟨_, _, hsome, -, hall⟩
  · exact absurd (hnames.symm.trans hnone) (List.cons_ne_nil _ _)
  · obtain ⟨-, rfl⟩ := List.cons.inj (hnames.symm.trans hsome)
    exact hall

/-- There is one resource for each entry behind the resource class. -/
theorem Accepted.forall₂_resources (h : o.Accepted)
    (hnames : o.query.resourceNames = resClass :: entries) :
    List.Forall₂ (ResourceName.IsOfEntry resClass) entries
      (ResourceName.ofValues (resClass :: entries)) := by
  refine ResourceName.forall₂_ofValues fun entry hentry => ?_
  have hpass := h.entries_pass hnames entry hentry
  obtain ⟨kind, name, rfl⟩ := exists_parts hpass
  obtain ⟨hkind, -⟩ := isResourceEntry_colon_iff.mp hpass
  refine ⟨_, ResourceName.ofKindAndName?_colon resClass name hkind.no_colon, ⟨kind, name, rfl⟩, ?_⟩
  intro kind' name' hsame
  obtain ⟨hkind', hname'⟩ := isResourceEntry_colon_iff.mp (hsame ▸ hpass)
  have hread := ResourceName.ofKindAndName?_colon resClass name' hkind'.no_colon
  rw [← hsame, ResourceName.ofKindAndName?_colon resClass name hkind.no_colon] at hread
  rw [Option.some.inj hread]
  exact ResourceName.isExpansion_ofKind resClass kind' hname'.no_point

end

/-- There are as many resources as entries. -/
theorem Accepted.length_resources (h : o.Accepted) :
    (ResourceName.ofValues o.query.resourceNames).length = o.query.resourceNames.length - 1 := by
  rcases h.resources with hnone | ⟨resClass, entries, hsome, -, -⟩
  · rw [hnone]
    rfl
  · rw [hsome]
    exact (h.forall₂_resources hsome).length_eq.symm

/-- If a resource is named, then one is looked up. -/
theorem ofValues_eq_nil_iff (h : o.check = .ok ()) :
    ResourceName.ofValues o.query.resourceNames = [] ↔ o.query.resourceNames = [] := by
  have haccepted := check_eq_ok_iff.mp h
  rw [← List.length_eq_zero_iff, haccepted.length_resources]
  rcases haccepted.resources with hnone | ⟨resClass, entries, hsome, hentries, -⟩
  · simp [hnone]
  · simp [hsome, hentries]

/-- Options that pass have a session. -/
theorem exists_session (h : o.check = .ok ()) : ∃ printPool,
    o.session = .ok { mode := o.mode?.getD .classes, limit := o.limit, printPool } := by
  obtain ⟨printPool, hpool⟩ := (check_eq_ok_iff.mp h).pool
  exact ⟨printPool, by rw [session, hpool]⟩

end SearchOptions

end ArchiveScout.Command
