import ArchiveScout.Proofs.Command.Check
import ArchiveScout.Proofs.Query.Criteria
import ArchiveScout.Proofs.Search.Session

/-!
# ArchiveScout.Proofs.Search.NameSearch

**Searching by names alone.** Names decide four kinds of criteria: packages, classes, simple names
and a class pattern. Whatever else is asked for reaches the engine, either as a resource that it
cannot look up or as a criterion of the filter, and is refused; if nothing else is asked for, all
that is asked for is decided.
-/

namespace ArchiveScout.Search

open ArchiveScout.Archive (Catalog catalog classPath? dotted isDirectoryName listedName
  mem_sorted openArchive pairwise_sorted sorted_eq_self)
open ArchiveScout.Command (SearchOptions)
open ArchiveScout.File (Member Tree)
open ArchiveScout.Query (AdvancedQuery Built ClassFilter ClassPattern QueryArgs QuerySpec
  asksOfClasses_iff built_of_build)
open ArchiveScout.Text (cutLast dropHead?_eq_some dropTail?_eq_some)

variable {name path package : String} {args : QueryArgs} {spec : QuerySpec}
  {advanced : AdvancedQuery} {members : List Member} {o : SearchOptions} {t : Tree}

/-! ### Classes of an archive -/

theorem classPath?_eq_some : classPath? name = some path ↔ name = path ++ ".class" := by
  rw [classPath?, Option.map_eq_some_iff]
  constructor
  · rintro ⟨front, hdrop, rfl⟩
    apply String.toList_injective
    rw [dropTail?_eq_some.mp hdrop]
    simp
  · rintro rfl
    refine ⟨path.toList, dropTail?_eq_some.mpr ?_, String.ofList_toList⟩
    rw [String.toList_append]

/-- The classes of an archive are the paths of its class files, whatever slashes their names have. -/
theorem mem_classes : path ∈ (Catalog.ofMembers members).classes ↔
    ∃ member ∈ members, isDirectoryName member.name = false ∧
      listedName member.name = path ++ ".class" := by
  simp only [Catalog.ofMembers, mem_sorted, List.mem_filterMap, List.mem_map, List.mem_filter,
    Bool.not_eq_eq_eq_not, Bool.not_true, classPath?_eq_some]
  constructor
  · rintro ⟨listed, ⟨member, ⟨hmember, hfile⟩, rfl⟩, hpath⟩
    exact ⟨member, hmember, hfile, hpath⟩
  · rintro ⟨member, hmember, hfile, hpath⟩
    exact ⟨_, ⟨member, ⟨hmember, hfile⟩, rfl⟩, hpath⟩

theorem catalog_of_openArchive (h : openArchive t path = .ok members) :
    catalog t path = .ok (Catalog.ofMembers members) := by
  rw [catalog, h]
  rfl

/-! ### Criteria of names -/

/-- Whether the name of a class satisfies what a query asks of names. -/
structure Wanted (args : QueryArgs) (name : String) : Prop where
  package : args.packages = [] ∨ ∃ package ∈ args.packages, ∃ rest, name = package ++ "." ++ rest
  className : args.classes = [] ∨ name ∈ args.classes
  simpleName : args.classNames = [] ∨ ∃ simple ∈ args.classNames, '.' ∉ simple.toList ∧
    (name = simple ∨ ∃ outer, name = outer ++ "." ++ simple)
  pattern : args.classRegex = "" ∨ ∃ pattern,
    ClassPattern.compile args.classRegex = .ok pattern ∧ pattern.isMatch name = true

theorem isInPackage_iff :
    isInPackage package name = true ↔ ∃ rest, name = package ++ "." ++ rest := by
  rw [isInPackage]
  constructor
  · intro h
    split at h
    · rename_i rest hrest
      rw [decide_eq_true_iff, List.head?_eq_some_iff] at h
      obtain ⟨rest, rfl⟩ := h
      refine ⟨String.ofList rest, String.toList_injective ?_⟩
      rw [dropHead?_eq_some.mp hrest]
      simp
    · exact absurd h (by simp)
  · rintro ⟨rest, rfl⟩
    have hdrop : Text.dropHead? package.toList (package ++ "." ++ rest).toList =
        some ('.' :: rest.toList) := dropHead?_eq_some.mpr (by simp)
    rw [hdrop]
    simp

theorem simpleNameOf_iff {simple : String} : simpleNameOf name = simple ↔
    '.' ∉ simple.toList ∧ (name = simple ∨ ∃ outer, name = outer ++ "." ++ simple) := by
  rw [simpleNameOf]
  constructor
  · intro h
    split at h
    · rename_i outer last hcut
      subst h
      refine ⟨by simpa using Text.notMem_of_cutLast hcut, .inr ⟨String.ofList outer, ?_⟩⟩
      apply String.toList_injective
      rw [Text.eq_of_cutLast hcut]
      simp
    · rename_i hcut
      subst h
      exact ⟨Text.notMem_of_cutLast_none hcut, .inl rfl⟩
  · rintro ⟨hplain, rfl | ⟨outer, rfl⟩⟩
    · rw [Text.cutLast_of_notMem hplain]
    · have hcut : cutLast '.' (outer ++ "." ++ simple).toList =
          some (outer.toList, simple.toList) := by
        rw [← Text.cutLast_append outer.toList hplain]
        simp
      rw [hcut]
      exact String.ofList_toList

theorem matchesNames_eq_true {f : ClassFilter} : matchesNames f name = true ↔
    (((f.packages.isEmpty || f.packages.any (isInPackage · name)) = true ∧
      (f.classes.isEmpty || f.classes.contains name) = true) ∧
      (f.classSimpleNames.isEmpty || f.classSimpleNames.contains (simpleNameOf name)) = true) ∧
      ∀ pattern ∈ f.classPattern, pattern.isMatch name = true := by
  rw [matchesNames, Bool.and_eq_true, Bool.and_eq_true, Bool.and_eq_true]
  refine and_congr_right fun _ => ?_
  cases f.classPattern <;> simp

/-- The filter of a query for classes decides what the query asks of names. -/
theorem matchesNames_iff (h : Built args spec) :
    matchesNames (.compile spec advanced) name = true ↔ Wanted args name := by
  have hpackage : ((spec.packages.isEmpty || spec.packages.any (isInPackage · name)) = true) ↔
      (args.packages = [] ∨ ∃ package ∈ args.packages, ∃ rest, name = package ++ "." ++ rest) := by
    simp [h.packages, isInPackage_iff]
  have hclass : ((spec.classes.isEmpty || spec.classes.contains name) = true) ↔
      (args.classes = [] ∨ name ∈ args.classes) := by
    simp [h.classes]
  have hsimple : ((spec.classSimpleNames.isEmpty ||
        spec.classSimpleNames.contains (simpleNameOf name)) = true) ↔
      (args.classNames = [] ∨ ∃ simple ∈ args.classNames, '.' ∉ simple.toList ∧
        (name = simple ∨ ∃ outer, name = outer ++ "." ++ simple)) := by
    simp only [h.classSimpleNames, Bool.or_eq_true, List.isEmpty_iff, List.contains_iff_mem,
      ← simpleNameOf_iff, exists_eq_right']
  have hpattern : (∀ pattern ∈ spec.classPattern, pattern.isMatch name = true) ↔
      (args.classRegex = "" ∨ ∃ pattern,
        ClassPattern.compile args.classRegex = .ok pattern ∧ pattern.isMatch name = true) := by
    rcases h.classPattern_cases with ⟨hempty, hnone⟩ | ⟨hempty, pattern, hcompile, hsome⟩
    · simp [hnone, hempty]
    · simp [hsome, hempty, hcompile]
  rw [matchesNames_eq_true]
  constructor
  · rintro ⟨⟨⟨hp, hc⟩, hs⟩, hr⟩
    exact ⟨hpackage.mp hp, hclass.mp hc, hsimple.mp hs, hpattern.mp hr⟩
  · intro hwanted
    exact ⟨⟨⟨hpackage.mpr hwanted.package, hclass.mpr hwanted.className⟩,
      hsimple.mpr hwanted.simpleName⟩, hpattern.mpr hwanted.pattern⟩

/-! ### Criteria beyond names -/

theorem unsupportedCriterion?_eq_none {f : ClassFilter} : unsupportedCriterion? f = none ↔
    f.referenceTypes.hasNone = true ∧ f.sourceNames = [] ∧ f.numbers = [] ∧
      f.annotationTypes = [] ∧ f.annotationValues = [] ∧ f.modifiers = -1 ∧
      f.superClass = none ∧ f.interfaces = none ∧ f.annotations = [] := by
  have hstep : ∀ (p : Prop) [Decidable p] (what : String) (rest : Option String),
      (if p then some what else rest) = none ↔ ¬ p ∧ rest = none := by
    intro p _ what rest
    split <;> simp_all
  simp only [unsupportedCriterion?, hstep]
  simp [and_assoc]

/-- Whether a search asks for more than names can decide. -/
def AsksBeyondNames (o : SearchOptions) : Prop :=
  o.query.resourceNames ≠ [] ∨ o.query.refTypes ≠ "" ∨ o.query.sources ≠ [] ∨
    o.query.numbers ≠ [] ∨ o.query.annotationTypes ≠ [] ∨ o.query.annotationValues ≠ [] ∨
    o.classAdvanced ≠ ""

/-- A filter can be decided by names if nothing beyond names was asked for, resources apart. -/
theorem unsupported_compile_eq_none (h : Built o.query spec)
    (hadvanced : AdvancedQuery.parse .classes o.classAdvanced = .ok advanced) :
    unsupportedCriterion? (.compile spec advanced) = none ↔
      o.query.refTypes = "" ∧ o.query.sources = [] ∧ o.query.numbers = [] ∧
        o.query.annotationTypes = [] ∧ o.query.annotationValues = [] ∧ o.classAdvanced = "" := by
  have hasks := asksOfClasses_iff hadvanced
  have hnothing : o.classAdvanced = "" ↔ advanced.modifiers = -1 ∧ advanced.superClass = none ∧
      advanced.interfaces = none ∧ advanced.annotations = [] := by
    rw [← not_iff_not, ← ne_eq, ← hasks, AdvancedQuery.AsksOfClasses]
    tauto
  rw [unsupportedCriterion?_eq_none, hnothing, ← h.hasNone_iff, ← h.numbers_eq_nil_iff,
    ← h.sourceNames, ← h.annotationTypes, ← h.annotationValues]
  rfl

/-! ### Searches -/

/-- The archive of which the names of some classes are known. -/
def namedArchive (names : List String) : LoadedArchive where
  resourceId := fun r => .error (.unsupported s!"resource id lookup ({r.qualified})")
  classes := nameStream names
  methods := fun _ _ => { failure := some (.unsupported "method search") }

/-- The lines and the result of a search that an engine refuses. -/
def refusal (path what : String) : List String × SearchOutcome :=
  (["Searching classes...", s!"Failed: {(EngineError.unsupported what).message}"],
    { file := path, error := some (EngineError.unsupported what).message })

/-- The engine stops as soon as there is enough. -/
theorem named_stops (names : List String) (f : Filters) :
    (Session.streamOf (namedArchive names) f).Stops := by
  intro count
  rw [Session.streamOf]
  cases f.methods with
  | some methods => rfl
  | none =>
      simp only [namedArchive, nameStream]
      cases unsupportedCriterion? f.classes <;> rfl

theorem nameEngine_of_openArchive (h : openArchive t path = .ok members) :
    nameEngine t path = .ok (namedArchive ((Catalog.ofMembers members).classes.map dotted)) := by
  rw [nameEngine, catalog_of_openArchive h]
  rfl

theorem classNames_named (names : List String) :
    classNames (names.map fun name => { className := name, display := name }) = names.eraseDups := by
  rw [classNames, List.map_map]
  exact congrArg List.eraseDups (List.map_id _)

variable {s : Session} {request : Request}

theorem filtersFor_of_no_resources (hresources : request.spec.resourceNames = [])
    (archive : LoadedArchive) :
    s.filtersFor request archive = .ok (request.filters s.mode request.spec) := by
  rw [Session.filtersFor, if_pos hresources]
  rfl

theorem streamOf_named (hmode : s.mode = .classes) (names : List String) :
    Session.streamOf (namedArchive names) (request.filters s.mode request.spec) =
      nameStream names (.compile request.spec request.classAdvanced) := by
  rw [hmode]
  rfl

/-- A resource cannot be looked up. -/
theorem searchFor_resource (hmode : s.mode = .classes) (hopen : openArchive t path = .ok members)
    (hresources : request.spec.resourceNames ≠ []) :
    ∃ what, s.searchFor request nameEngine t path = refusal path what := by
  obtain ⟨first, more, hnames⟩ := List.exists_cons_of_ne_nil hresources
  refine ⟨s!"resource id lookup ({first.qualified})", ?_⟩
  have hrun : s.run nameEngine request t path =
      ([], .error (.unsupported s!"resource id lookup ({first.qualified})")) := by
    simp only [Session.run, nameEngine_of_openArchive hopen, Session.filtersFor, if_neg hresources]
    simp only [hnames, QuerySpec.resolve]
    rfl
  rw [Session.searchFor_of_failure hrun, hmode]
  rfl

/-- A criterion that names cannot decide is refused before any class is looked at. -/
theorem searchFor_unsupported (hmode : s.mode = .classes)
    (hopen : openArchive t path = .ok members) (hresources : request.spec.resourceNames = [])
    {what : String} (hwhat : unsupportedCriterion? (.compile request.spec request.classAdvanced) =
      some what) :
    s.searchFor request nameEngine t path = refusal path what := by
  have hstream : Session.streamOf (namedArchive ((Catalog.ofMembers members).classes.map dotted))
      (request.filters s.mode request.spec) = { failure := some (.unsupported what) } := by
    rw [streamOf_named hmode, nameStream, hwhat]
  have hrun := Session.run_failure_of_stops (nameEngine_of_openArchive hopen)
    (filtersFor_of_no_resources (s := s) hresources _) (named_stops _ _) rfl
    (congrArg (·.failure) hstream) (by rw [hstream]; exact not_reaches_nil _)
  rw [Session.searchFor_of_failure hrun, hstream, hmode]
  rfl

/-- A search that names can decide finds the classes that it asks for. -/
theorem searchFor_named (hmode : s.mode = .classes) (hopen : openArchive t path = .ok members)
    (hresources : request.spec.resourceNames = [])
    (hnone : unsupportedCriterion? (.compile request.spec request.classAdvanced) = none) :
    (s.searchFor request nameEngine t path).2 = {
      file := path
      results := classNames (s.through [] ((((Catalog.ofMembers members).classes.map dotted).filter
        (matchesNames (.compile request.spec request.classAdvanced))).map fun name =>
          { className := name, display := name })) } := by
  have hstream : Session.streamOf (namedArchive ((Catalog.ofMembers members).classes.map dotted))
      (request.filters s.mode request.spec) =
        { items := (((Catalog.ofMembers members).classes.map dotted).filter
            (matchesNames (.compile request.spec request.classAdvanced))).map fun name =>
              { className := name, display := name } } := by
    rw [streamOf_named hmode, nameStream, hnone]
  have hrun := Session.run_found_of_stops (nameEngine_of_openArchive hopen)
    (filtersFor_of_no_resources (s := s) hresources _) (named_stops _ _) rfl
    (.inl (congrArg (·.failure) hstream))
  rw [Session.searchFor_of_found hrun, hstream]

/-- Whatever is searched for, only classes of the archive are found. -/
theorem exists_class_of_result
    (h : name ∈ (s.searchFor request nameEngine t path).2.results) :
    ∃ members, openArchive t path = .ok members ∧
      ∃ found ∈ (Catalog.ofMembers members).classes, dotted found = name := by
  obtain ⟨archive, filters, hload, hfilters, item, hitem, rfl⟩ := Session.exists_item_of_result h
  cases hopen : openArchive t path with
  | error e =>
      rw [nameEngine, catalog, hopen] at hload
      exact absurd hload (by simp [bind, Except.bind])
  | ok members =>
      refine ⟨members, rfl, ?_⟩
      rw [nameEngine_of_openArchive hopen] at hload
      obtain rfl := Except.ok.inj hload
      rw [Session.received_of_stops (named_stops _ _)] at hitem
      replace hitem := (Session.through_begins _ _ _).subset hitem
      rw [Session.streamOf] at hitem
      split at hitem
      · simp only [namedArchive, nameStream] at hitem
        split at hitem
        · exact absurd hitem List.not_mem_nil
        · obtain ⟨name, hname, rfl⟩ := List.mem_map.mp hitem
          exact List.mem_map.mp (List.mem_of_mem_filter hname)
      · exact absurd hitem List.not_mem_nil

/-- A search for classes in an archive of which only names are known is refused, before any class
is shown, if it asks for more than names can decide. Otherwise it finds the names of the class files
that satisfy all that is asked of names, each once and in the order of their paths, up to the
limit. -/
theorem name_search_is_exact (o : SearchOptions) (spec : QuerySpec)
    (classAdvanced methodAdvanced : AdvancedQuery) (t : Tree) (path : String)
    (members : List Member) (hcheck : o.check = .ok ()) (hmode : o.mode = "c")
    (hbuild : QuerySpec.build o.query = .ok spec)
    (hadvanced : AdvancedQuery.parse .classes o.classAdvanced = .ok classAdvanced)
    (hopen : openArchive t path = .ok members) :
    ∃ session, o.session = .ok session ∧
      ((∃ what, session.searchFor ⟨spec, classAdvanced, methodAdvanced⟩ nameEngine t path =
        refusal path what) ↔ AsksBeyondNames o) ∧
      (¬ AsksBeyondNames o →
        (session.searchFor ⟨spec, classAdvanced, methodAdvanced⟩ nameEngine t path).2 =
          { file := path
            results :=
              let names := (((Catalog.ofMembers members).classes.map dotted).filter
                (matchesNames (.compile spec classAdvanced))).eraseDups
              if 0 < o.limit then names.take o.limit.toNat else names }) ∧
      (Catalog.ofMembers members).classes.Pairwise (· ≤ ·) ∧
      (∀ path, path ∈ (Catalog.ofMembers members).classes ↔
        ∃ member ∈ members, isDirectoryName member.name = false ∧
          listedName member.name = path ++ ".class") ∧
      (∀ name, matchesNames (.compile spec classAdvanced) name = true ↔ Wanted o.query name) := by
  have hbuilt := built_of_build hbuild
  obtain ⟨printPool, hsession⟩ := SearchOptions.exists_session hcheck
  have hclasses : o.mode?.getD .classes = .classes := by simp [SearchOptions.mode?, hmode]
  have hresources : spec.resourceNames = [] ↔ o.query.resourceNames = [] := by
    rw [hbuilt.resourceNames, SearchOptions.ofValues_eq_nil_iff hcheck]
  have hcriteria := unsupported_compile_eq_none hbuilt hadvanced
  refine ⟨_, hsession, ⟨?refused, ?refuses⟩, ?found, pairwise_sorted _, fun _ => mem_classes,
    fun _ => matchesNames_iff hbuilt⟩
  case refused =>
    rintro ⟨what, hwhat⟩
    -- A search that names can decide has no error, and a refusal has one.
    by_contra hnames
    simp only [AsksBeyondNames, not_or, not_not] at hnames
    have houtcome := congrArg (fun shown => shown.2.error) hwhat
    rw [searchFor_named hclasses hopen (hresources.mpr hnames.1) (hcriteria.mpr hnames.2)]
      at houtcome
    exact absurd houtcome (by simp [refusal])
  case refuses =>
    intro hbeyond
    -- A resource is looked up before the filter comes to the engine.
    by_cases hnone : spec.resourceNames = []
    · have hsome : unsupportedCriterion? (.compile spec classAdvanced) ≠ none := by
        intro hdecided
        simp only [AsksBeyondNames, hresources.mp hnone, hcriteria.mp hdecided] at hbeyond
        simp at hbeyond
      obtain ⟨what, hwhat⟩ := Option.ne_none_iff_exists'.mp hsome
      exact ⟨what, searchFor_unsupported hclasses hopen hnone hwhat⟩
    · exact searchFor_resource hclasses hopen hnone
  case found =>
    intro hnames
    simp only [AsksBeyondNames, not_or, not_not] at hnames
    rw [searchFor_named hclasses hopen (hresources.mpr hnames.1) (hcriteria.mpr hnames.2),
      (Session.goesThrough_through _ _).classNames_eq, classNames_named]

/-- Class files in two packages, one of them with the slashes of another system, a directory and a
resource. -/
def packagedMembers : List Member :=
  ["a/Main.class", "a/", "a/notes.txt", "b\\Main.class", "b/Other.class"].map fun name => ⟨name, []⟩

/-- A tree with the archive of these. -/
def packagedTree : Tree := { nodes := [(["app.jar"], .file (.archive packagedMembers))] }

/-- A search for two classes by their simple name. -/
def mainSearch : SearchOptions :=
  { files := ["app.jar"], query := { packages := ["b"], classNames := ["Main"] }, limit := 2 }

theorem classes_packagedMembers :
    (Catalog.ofMembers packagedMembers).classes = ["a/Main", "b/Main", "b/Other"] := by
  have hnames : ((packagedMembers.filter fun m => !isDirectoryName m.name).map fun m =>
      listedName m.name).filterMap classPath? = ["a/Main", "b/Main", "b/Other"] := by
    decide +kernel
  rw [Catalog.ofMembers, hnames]
  exact sorted_eq_self (by decide)

/-- The class is found in the package that is asked for. -/
theorem packaged_class_is_found :
    ∃ session, mainSearch.session = .ok session ∧
      (session.searchFor ⟨{ packages := ["b"], classSimpleNames := ["Main"] }, {}, {}⟩ nameEngine
        packagedTree "app.jar").2 = { file := "app.jar", results := ["b.Main"] } := by
  obtain ⟨session, hsession, -, hfound, -⟩ := name_search_is_exact mainSearch
    { packages := ["b"], classSimpleNames := ["Main"] } {} {} packagedTree "app.jar"
    packagedMembers (by decide +kernel) rfl rfl rfl (by decide +kernel)
  refine ⟨session, hsession, (hfound (by simp [AsksBeyondNames, mainSearch])).trans ?_⟩
  rw [classes_packagedMembers]
  decide +kernel

end ArchiveScout.Search
