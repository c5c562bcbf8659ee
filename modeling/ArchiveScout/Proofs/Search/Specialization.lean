import ArchiveScout.Proofs.Search.Lifecycle

/-!
# ArchiveScout.Proofs.Search.Specialization

**Names of resources in a search.** Each archive has ids of its own for the names of resources that
a request holds. They are looked up before anything is streamed; then the engine is called with the
filters of the request, to whose numbers the ids are added, and which leave out the containers of the
resources unless a pattern for classes was given (`Specialized`). The request itself stays as it is,
so the ids of one archive never come to another one.
-/

namespace ArchiveScout.Search

open ArchiveScout.File (Tree)
open ArchiveScout.Number (Literal)
open ArchiveScout.Query (AreIds ClassPattern QuerySpec ResourceName ResolvedResources
  isMatch_excluding_iff)

variable {s : Session} {request : Request} {engine : Engine} {t : Tree} {path : String}
  {archive : LoadedArchive} {filters : Filters} {ids : List Int}

/-- The containers of the resources of a request, each once. -/
def Request.containers (r : Request) : List String :=
  (r.spec.resourceNames.map (·.container)).eraseDups

/-- How filters differ from those of a request when its resources have some ids: the numbers and the
pattern for classes are others, and nothing else is. -/
structure Specialized (mode : Mode) (r : Request) (ids : List Int) (filters : Filters) : Prop where
  classes : filters.classes = { (r.filters mode r.spec).classes with
    numbers := r.spec.numbers ++ ids.map Literal.ofInteger
    classPattern := filters.classes.classPattern }
  methods : filters.methods = (r.filters mode r.spec).methods.map fun plain =>
    { plain with numbers := r.spec.numbers ++ ids.map Literal.ofInteger }
  /-- A pattern that was given stays, and so does the lack of one where there are no names. -/
  kept : r.spec.classPattern ≠ none ∨ r.spec.resourceNames = [] →
    filters.classes.classPattern = r.spec.classPattern
  /-- Otherwise the classes whose names begin with a container are left out. -/
  derived : r.spec.classPattern = none → r.spec.resourceNames ≠ [] →
    ∃ pattern, filters.classes.classPattern = some pattern ∧
      ∀ className, pattern.isMatch className = true ↔
        ∀ container ∈ r.containers, ∀ rest, className ≠ container ++ rest

theorem containers_ne_nil (h : request.spec.resourceNames ≠ []) : request.containers ≠ [] := by
  obtain ⟨first, more, hnames⟩ := List.exists_cons_of_ne_nil h
  rw [Request.containers, hnames, List.map_cons, List.eraseDups_cons]
  exact List.cons_ne_nil _ _

/-- What is found in an archive makes the filters special in this way. -/
theorem specialized_filters (mode : Mode) (request : Request) (ids : List Int) :
    Specialized mode request ids (request.filters mode
      (request.spec.withResources (.ofIds request.spec.resourceNames ids))) := by
  refine ⟨rfl, ?methods, ?kept, ?derived⟩
  case methods => cases mode <;> rfl
  case kept =>
    intro hkept
    simp only [Request.filters, Query.ClassFilter.compile, QuerySpec.withResources]
    rcases hkept with hgiven | hnone
    · obtain ⟨pattern, hpattern⟩ := Option.ne_none_iff_exists'.mp hgiven
      rw [hpattern]
    · rw [hnone]
      cases request.spec.classPattern <;> rfl
  case derived =>
    intro hnone hnames
    refine ⟨.excluding request.containers, ?_, fun className => isMatch_excluding_iff⟩
    simp only [Request.filters, Query.ClassFilter.compile, QuerySpec.withResources, hnone,
      ResolvedResources.ofIds]
    exact if_neg (containers_ne_nil hnames)

/-- Resources that cannot be looked up end a search before anything is streamed. -/
theorem searchFor_of_unresolved {e : EngineError} (hload : engine t path = .ok archive)
    (h : request.spec.resolve archive.resourceId = .error e) :
    s.searchFor request engine t path =
      ([s!"Searching {s.mode.plural}...", s!"Failed: {e.message}"],
        { file := path, error := some e.message }) := by
  have hrun : s.run engine request t path = ([], .error e) := by
    simp only [Session.run, hload, Session.filtersFor_eq_error.mpr h]
  exact Session.searchFor_of_failure hrun

/-- The reply of a session with a request to a search. -/
theorem reply_of_search (hnew : s.request = none) {calls : List Call} {i : Nat}
    (hrequest : firstRequest (calls.take i) = some request)
    (hcall : calls[i]? = some (.search engine t path)) :
    (s.replies calls)[i]? = some {
      lines := (s.searchFor request engine t path).1
      result := .ok (some (s.searchFor request engine t path).2) } := by
  have hsearch : ({ s with request := some request } : Session).search engine t path =
      .ok (s.searchFor request engine t path) :=
    congrArg Except.ok (s.searchFor_with_request (some request) request engine t path)
  rw [Session.getElem?_replies, hcall, Session.after_eq, hnew, Option.none_or, hrequest]
  simp only [Option.map_some, Session.answer, hsearch]

/-- Every search of a session looks up the resources of the request in its own archive. If all have
ids there, then the engine gets the filters of the request with these ids behind the numbers that
were asked for, for classes and for methods alike, and without the containers of the resources if no
pattern for classes was given. Otherwise the first name without an id ends the search before anything
is streamed. What other archives hold, and whatever else was done before, is no matter. -/
theorem resources_specialize_each_search (s : Session) (hnew : s.request = none)
    (calls : List Call) (i : Nat) (request : Request)
    (hrequest : firstRequest (calls.take i) = some request) (engine : Engine) (t : Tree)
    (path : String) (hcall : calls[i]? = some (.search engine t path)) (archive : LoadedArchive)
    (hload : engine t path = .ok archive) :
    ((∃ resolved, request.spec.resolve archive.resourceId = .ok resolved) ↔
      ∀ name ∈ request.spec.resourceNames, ∃ id, archive.resourceId name = .ok id) ∧
    (∀ e, request.spec.resolve archive.resourceId = .error e ↔
      ∃ before name after, request.spec.resourceNames = before ++ name :: after ∧
        (∀ other ∈ before, ∃ id, archive.resourceId other = .ok id) ∧
          archive.resourceId name = .error e) ∧
    (∀ e, request.spec.resolve archive.resourceId = .error e →
      (s.replies calls)[i]? = some {
        lines := [s!"Searching {s.mode.plural}...", s!"Failed: {e.message}"]
        result := .ok (some { file := path, error := some e.message }) }) ∧
    ∀ resolved, request.spec.resolve archive.resourceId = .ok resolved →
      ∃ ids filters, AreIds archive.resourceId request.spec.resourceNames ids ∧
        resolved = { containers := request.containers, ids := ids.map Literal.ofInteger } ∧
        s.filtersFor request archive = .ok filters ∧ Specialized s.mode request ids filters ∧
        ∃ front taken shown outcome, s.Receives (Session.streamOf archive filters) front taken ∧
          s.Shows taken shown ∧
          (s.replies calls)[i]? = some {
            lines := s!"Searching {s.mode.plural}..." :: shown ++ Session.lastLine outcome
            result := .ok (some outcome) } := by
  have hreply := reply_of_search hnew hrequest hcall
  refine ⟨QuerySpec.exists_resolve_iff, fun e => QuerySpec.resolve_eq_error, ?unresolved, ?resolved⟩
  case unresolved =>
    intro e hresolve
    rw [hreply, searchFor_of_unresolved hload hresolve]
  case resolved =>
    intro resolved hresolve
    obtain ⟨ids, hids, rfl⟩ := QuerySpec.resolve_eq_ok.mp hresolve
    have hfilters := Session.filtersFor_eq_ok (s := s).mpr ⟨ids, hids, rfl⟩
    obtain ⟨taken, shown, hstreams, hlines, -⟩ := s.streamed_searchFor request engine t path
    obtain ⟨front, hreceives⟩ := hstreams.receives archive _ hload hfilters
    refine ⟨ids, _, hids, rfl, hfilters, specialized_filters s.mode request ids, front, taken, shown,
      (s.searchFor request engine t path).2, hreceives, hstreams.shows, ?_⟩
    rw [hreply, hlines]

/-- Three resources of two containers. -/
def labelNames : List ResourceName := [⟨"a.R$string", "x"⟩, ⟨"a.R$id", "y"⟩, ⟨"a.R$string", "z"⟩]

/-- A search for a number and for these. -/
def labelRequest : Request where
  spec := { numbers := [Literal.ofInteger 7], resourceNames := labelNames }
  classAdvanced := {}
  methodAdvanced := {}

/-- An engine that finds nothing in two archives, in which resources have different ids. -/
def labellingEngine : Engine := fun _ path =>
  .ok ⟨fun _ => .ok (if path = "a.jar" then 1 else 2), fun _ => {}, fun _ _ => {}⟩

/-- In the second archive its own ids are searched for, and none of the first one. -/
theorem labels_specialize_second_search :
    ∃ filters, Specialized .methods labelRequest [2, 2, 2] filters ∧
      filters.classes.numbers = [7, 2, 2, 2].map Literal.ofInteger ∧
      labelRequest.containers = ["a.R$string", "a.R$id"] := by
  obtain ⟨hresolves, -, -, hfound⟩ := resources_specialize_each_search { mode := .methods } rfl
    [.init labelRequest, .search labellingEngine { nodes := [] } "a.jar",
      .search labellingEngine { nodes := [] } "b.jar"]
    2 labelRequest rfl labellingEngine { nodes := [] } "b.jar" rfl _ rfl
  obtain ⟨resolved, hresolved⟩ := hresolves.mpr fun name _ => ⟨2, rfl⟩
  obtain ⟨ids, filters, hids, -, -, hspecial, -⟩ := hfound resolved hresolved
  obtain rfl : ids = [2, 2, 2] := hids.unique (.cons rfl (.cons rfl (.cons rfl .nil)))
  exact ⟨filters, hspecial, by rw [hspecial.classes]; rfl, by decide⟩

end ArchiveScout.Search
