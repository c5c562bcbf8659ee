import ArchiveScout.Proofs.Command.Check
import ArchiveScout.Proofs.Number.Literal
import ArchiveScout.Proofs.Query.Criteria

/-!
# ArchiveScout.Proofs.Command.Accepted

**What options that pass the checks stand for.** The checks look at the options, and the query is read
from the same options without looking at the checks. What is left to go wrong are the texts that no
check reads, patterns and numbers. Whatever query there is has parts that fit together, and every
resource of it is the one that was named.
-/

namespace ArchiveScout.Query

open ArchiveScout.Number (Literal readLiteral_eq_error readLiteral_eq_ok)
open ArchiveScout.Regex (Pattern)

variable {text : String} {texts : List String} {e : QueryError} {args : QueryArgs}
  {spec : QuerySpec}

/-! ### Texts that can be read -/

theorem exists_readClassPattern_iff : (∃ pattern, readClassPattern text = .ok pattern) ↔
    text = "" ∨ ∃ pattern, ClassPattern.compile text = .ok pattern := by
  rw [readClassPattern]
  by_cases hempty : text = ""
  · rw [if_pos (String.isEmpty_iff.mpr hempty)]
    exact iff_of_true ⟨none, rfl⟩ (.inl hempty)
  · rw [if_neg (mt String.isEmpty_iff.mp hempty), or_iff_right hempty]
    constructor
    · intro h
      obtain ⟨pattern, hread⟩ := h
      obtain ⟨compiled, hcompiled, -⟩ := map_eq_ok.mp hread
      exact ⟨compiled, hcompiled⟩
    · intro h
      obtain ⟨compiled, hcompiled⟩ := h
      exact ⟨some compiled, map_eq_ok.mpr ⟨compiled, hcompiled, rfl⟩⟩

theorem readClassPattern_eq_error (h : readClassPattern text = .error e) :
    e = .invalidPattern text := by
  rw [readClassPattern] at h
  split at h
  · exact absurd h (by simp)
  · have hcompile := map_eq_error.mp h
    rw [ClassPattern.compile] at hcompile
    split at hcompile
    · exact absurd hcompile (by simp)
    · exact (Except.error.inj hcompile).symm

theorem exists_readReferencePattern_iff : (∃ pattern, readReferencePattern text = .ok pattern) ↔
    text = "" ∨ ∃ pattern, Pattern.compile? text = some pattern := by
  rw [readReferencePattern]
  by_cases hempty : text = ""
  · rw [if_pos (String.isEmpty_iff.mpr hempty)]
    exact iff_of_true ⟨none, rfl⟩ (.inl hempty)
  · rw [if_neg (mt String.isEmpty_iff.mp hempty), or_iff_right hempty]
    cases Pattern.compile? text <;> simp

theorem readReferencePattern_eq_error (h : readReferencePattern text = .error e) :
    e = .invalidPattern text := by
  rw [readReferencePattern] at h
  split at h
  · exact absurd h (by simp)
  · split at h
    · exact absurd h (by simp)
    · exact (Except.error.inj h).symm

theorem readLiterals_eq_mapM (texts : List String) : readLiterals texts = texts.mapM readLiteral := by
  induction texts with
  | nil => rfl
  | cons text texts ih =>
      rw [readLiterals, ih, List.mapM_cons]

theorem exists_readLiterals_iff : (∃ literals, readLiterals texts = .ok literals) ↔
    ∀ text ∈ texts, ∃ x, Literal.parse? text = some x := by
  rw [readLiterals_eq_mapM, exists_mapM]
  simp only [readLiteral_eq_ok]

theorem readLiterals_eq_error (h : readLiterals texts = .error e) :
    ∃ text ∈ texts, e = .invalidLiteral text := by
  rw [readLiterals_eq_mapM, mapM_eq_error] at h
  obtain ⟨before, text, after, rfl, -, hfails⟩ := h
  exact ⟨text, by simp, (readLiteral_eq_error.mp hfails).2⟩

/-! ### Building -/

/-- The patterns and numbers of a query are such. -/
structure QueryArgs.Readable (args : QueryArgs) : Prop where
  classPattern : args.classRegex = "" ∨ ∃ pattern, ClassPattern.compile args.classRegex = .ok pattern
  referencePattern : args.refRegex = "" ∨ ∃ pattern, Pattern.compile? args.refRegex = some pattern
  numbers : ∀ text ∈ args.numbers, ∃ x, Literal.parse? text = some x

/-- The parts of a query fit together: its classes have names of one kind, and sections of the
references take part just if something is looked for in them. -/
structure QuerySpec.Coherent (spec : QuerySpec) : Prop where
  oneKindOfNames : spec.classes = [] ∨ spec.classSimpleNames = []
  references : spec.referenceTypes.hasNone = true ↔
    spec.references = [] ∧ spec.signatures = [] ∧ spec.referencePattern = none

section

variable {types : ReferenceTypes} (htypes : ReferenceTypes.parse args.refTypes.toList = .ok types)
include htypes

/-- Letters that stand for reference types are read. -/
theorem readReferenceTypes_of_parse : readReferenceTypes args.refTypes = .ok types := by
  rw [readReferenceTypes, htypes]

/-- A query with such letters can be built just if its patterns and numbers can be read. -/
theorem exists_build_iff : (∃ spec, QuerySpec.build args = .ok spec) ↔ args.Readable := by
  constructor
  · intro h
    obtain ⟨spec, hbuild⟩ := h
    have hbuilt := built_of_build hbuild
    exact ⟨exists_readClassPattern_iff.mp ⟨_, hbuilt.classPattern⟩,
      exists_readReferencePattern_iff.mp ⟨_, hbuilt.referencePattern⟩,
      exists_readLiterals_iff.mp ⟨_, hbuilt.numbers⟩⟩
  · intro h
    obtain ⟨classPattern, hclass⟩ := exists_readClassPattern_iff.mpr h.classPattern
    obtain ⟨referencePattern, hreference⟩ := exists_readReferencePattern_iff.mpr h.referencePattern
    obtain ⟨numbers, hnumbers⟩ := exists_readLiterals_iff.mpr h.numbers
    rw [QuerySpec.build, hclass, hreference, readReferenceTypes_of_parse htypes, hnumbers]
    exact ⟨_, rfl⟩

/-- If it cannot be built, one of these texts is at fault. -/
theorem build_error_cases (h : QuerySpec.build args = .error e) :
    (∃ text ∈ args.numbers, e = .invalidLiteral text) ∨ e = .invalidPattern args.classRegex ∨
      e = .invalidPattern args.refRegex := by
  rcases bind_eq_error.mp h with hclass | ⟨_, -, h⟩
  · exact .inr (.inl (readClassPattern_eq_error hclass))
  rcases bind_eq_error.mp h with hreference | ⟨_, -, h⟩
  · exact .inr (.inr (readReferencePattern_eq_error hreference))
  rcases bind_eq_error.mp h with hletters | ⟨_, -, h⟩
  · rw [readReferenceTypes_of_parse htypes] at hletters
    exact absurd hletters (by simp)
  exact .inl (readLiterals_eq_error (map_eq_error.mp h))

end

end ArchiveScout.Query

namespace ArchiveScout.Command

open ArchiveScout.Query (Built QuerySpec ReferenceTypes ResourceName build_error_cases built_of_build
  exists_build_iff)

variable {o : SearchOptions} {spec : QuerySpec} {entries : List String}

/-! ### Queries -/

theorem SearchOptions.Accepted.coherent (h : o.Accepted) (hbuilt : Built o.query spec) :
    spec.Coherent where
  oneKindOfNames := by
    rw [hbuilt.classes, hbuilt.classSimpleNames]
    exact h.oneKindOfNames
  references := by
    rw [hbuilt.hasNone_iff, h.references, hbuilt.references, hbuilt.signatures,
      hbuilt.referencePattern_eq_none_iff]

/-- Options of a search that pass the checks name a mode, meet the contract of building a query and
have letters that can be read. The query can be built if and only if the patterns and numbers can be
read, and otherwise one of these is the error. The parts of the query fit together. -/
theorem accepted_options_build_coherent_queries (o : SearchOptions) (h : o.check = .ok ()) :
    (o.mode = "c" ∨ o.mode = "m") ∧ o.query.MeetsContract ∧
    ((∃ spec, QuerySpec.build o.query = .ok spec) ↔ o.query.Readable) ∧
    (∀ e, QuerySpec.build o.query = .error e →
      (∃ text ∈ o.query.numbers, e = .invalidLiteral text) ∨
        e = .invalidPattern o.query.classRegex ∨ e = .invalidPattern o.query.refRegex) ∧
    (∃ pool, ReferenceTypes.parse o.printPool.toList = .ok pool) ∧
    ∀ spec, QuerySpec.build o.query = .ok spec → spec.Coherent := by
  have haccepted := SearchOptions.check_eq_ok_iff.mp h
  obtain ⟨types, htypes⟩ := haccepted.types
  exact ⟨haccepted.mode, haccepted.oneKindOfNames, exists_build_iff htypes,
    fun e => build_error_cases htypes, haccepted.pool,
    fun spec hbuild => haccepted.coherent (built_of_build hbuild)⟩

/-- A search for methods with references and a number of either kind. -/
def referenceSearch (numbers : List String) : SearchOptions where
  files := ["app.jar"]
  mode := "m"
  query := { classNames := ["Main"], refTypes := "sm", refRegex := "^https?:", numbers }
  printPool := "a"

/-- A search that passes the checks has a query with all of its criteria, or the number that cannot be
read is the error. -/
theorem reference_search_is_coherent :
    (∃ spec, QuerySpec.build (referenceSearch ["0x10"]).query = .ok spec ∧ spec.Coherent ∧
      spec.referenceTypes.hasNone = false) ∧
    ¬ ∃ spec, QuerySpec.build (referenceSearch ["0x10", "x1"]).query = .ok spec := by
  constructor
  · obtain ⟨-, -, hbuild, -, -, hcoherent⟩ := accepted_options_build_coherent_queries
      (referenceSearch ["0x10"]) (by decide +kernel)
    have hpattern : (Regex.Pattern.compile? "^https?:").isSome = true := by decide +kernel
    have hnumber : (Number.Literal.parse? "0x10").isSome = true := by decide +kernel
    obtain ⟨spec, hspec⟩ := hbuild.mpr ⟨.inl rfl, .inr (Option.isSome_iff_exists.mp hpattern),
      List.forall_mem_singleton.mpr (Option.isSome_iff_exists.mp hnumber)⟩
    refine ⟨spec, hspec, hcoherent spec hspec, Bool.eq_false_iff.mpr ?_⟩
    rw [ne_eq, (built_of_build hspec).hasNone_iff]
    decide
  · obtain ⟨-, -, hbuild, -⟩ := accepted_options_build_coherent_queries
      (referenceSearch ["0x10", "x1"]) (by decide +kernel)
    intro h
    obtain ⟨x, hx⟩ := (hbuild.mp h).numbers "x1" (by decide)
    have hnone : (Number.Literal.parse? "x1").isNone = true := by decide +kernel
    simp [hx] at hnone

/-! ### Names of resources -/

/-- The options of a search with other names of resources. -/
def SearchOptions.withNames (o : SearchOptions) (names : List String) : SearchOptions :=
  { o with query := { o.query with resourceNames := names } }

/-- Of a resource class nothing is asked, and of the entries behind it that they are kinds and
names. -/
theorem SearchOptions.Accepted.withNames_iff (h : o.Accepted) (resClass : String)
    (hentries : entries ≠ []) :
    (o.withNames (resClass :: entries)).Accepted ↔
      ∀ entry ∈ entries, ∃ kind name, entry = kind ++ ":" ++ name ∧ IsPart kind ∧ IsPart name := by
  simp only [← isResourceEntry_iff]
  constructor
  · intro hnew
    exact hnew.entries_pass rfl
  · intro hall
    have hasks : (o.withNames (resClass :: entries)).asks = true := by
      simp [SearchOptions.asks, hasList, withNames]
    exact { h with asks := hasks, resources := .inr ⟨resClass, entries, rfl, hentries, hall⟩ }

/-- Options of a search that pass the checks stand for one resource for each of their entries, in
their order: for the field that has the name of the entry, in the class that the resource class has
for its kind. The qualified form of the resource stands for it again. Whatever the resource class is,
entries pass just if each has one colon and no points. -/
theorem resource_names_survive_expansion (o : SearchOptions) (h : o.check = .ok ()) :
    (ResourceName.ofValues o.query.resourceNames).length = o.query.resourceNames.length - 1 ∧
    (∀ resClass entries, o.query.resourceNames = resClass :: entries →
      List.Forall₂ (ResourceName.IsOfEntry resClass) entries
        (ResourceName.ofValues (resClass :: entries))) ∧
    ∀ resClass entries, entries ≠ [] →
      ((o.withNames (resClass :: entries)).check = .ok () ↔
        ∀ entry ∈ entries, ∃ kind name, entry = kind ++ ":" ++ name ∧ IsPart kind ∧
          IsPart name) := by
  have haccepted := SearchOptions.check_eq_ok_iff.mp h
  refine ⟨haccepted.length_resources, fun resClass entries => haccepted.forall₂_resources, ?_⟩
  intro resClass entries hentries
  rw [SearchOptions.check_eq_ok_iff, haccepted.withNames_iff resClass hentries]

/-- A search for resources of a class with an odd name, one of them without a kind and a name. -/
def resourceSearch : SearchOptions where
  files := ["app.jar"]
  query := { resourceNames := ["a.b:c$R", "string:title", ":"] }

/-- Points, colons and dollar signs of the class stay in the container, and the empty parts stay
empty; the class may be empty, too. -/
theorem odd_resource_names_survive :
    (∃ title blank, ResourceName.ofValues resourceSearch.query.resourceNames = [title, blank] ∧
      ResourceName.IsExpansion "a.b:c$R" "string" "title" title ∧
      ResourceName.IsExpansion "a.b:c$R" "" "" blank) ∧
    (resourceSearch.withNames ["", ":x"]).check = .ok () := by
  obtain ⟨-, hexpand, hnames⟩ := resource_names_survive_expansion resourceSearch (by decide +kernel)
  constructor
  · obtain ⟨title, more, htitle, hmore, hresources⟩ :=
      List.forall₂_cons_left_iff.mp (hexpand "a.b:c$R" ["string:title", ":"] rfl)
    obtain ⟨blank, none, hblank, hnone, rfl⟩ := List.forall₂_cons_left_iff.mp hmore
    obtain rfl := List.forall₂_nil_left_iff.mp hnone
    exact ⟨title, blank, hresources, htitle.2 "string" "title" rfl, hblank.2 "" "" rfl⟩
  · refine (hnames "" [":x"] (by simp)).mpr ?_
    exact List.forall_mem_singleton.mpr
      ⟨"", "x", rfl, ⟨by decide, by decide⟩, ⟨by decide, by decide⟩⟩

end ArchiveScout.Command
