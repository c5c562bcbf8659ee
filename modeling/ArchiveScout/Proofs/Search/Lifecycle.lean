import ArchiveScout.Proofs.Search.Session

/-!
# ArchiveScout.Proofs.Search.Lifecycle

**The calls of a session.** A session keeps the first request that it is given. A call at the wrong
time is refused and changes nothing, so what a call comes to depends on the first request before it
and on nothing else that has happened.

Once there is a request every search has an outcome. An engine can fail when it loads the archive,
when it looks up a resource, at the end of its stream if the session comes to it, and behind the item
with which the session has enough (`Fails`). Whatever has been shown by then stays shown, but the
outcome holds no class.
-/

namespace ArchiveScout.Search

open ArchiveScout.File (Tree)
open ArchiveScout.Query (AreIds QuerySpec ResolvedResources)

variable {s s' : Session} {request : Request} {engine : Engine} {t : Tree} {path : String}
  {archive : LoadedArchive} {filters : Filters} {e : EngineError} {call : Call}
  {calls : List Call} {taken : List Item} {lines : List String} {outcome : SearchOutcome}

namespace Session

/-! ### Filters for an archive -/

/-- The filters are those of the query with the ids of its resources in the archive. -/
theorem filtersFor_eq_ok : s.filtersFor request archive = .ok filters ↔
    ∃ ids, AreIds archive.resourceId request.spec.resourceNames ids ∧
      filters = request.filters s.mode
        (request.spec.withResources (.ofIds request.spec.resourceNames ids)) := by
  rw [filtersFor]
  by_cases hnone : request.spec.resourceNames = []
  · rw [if_pos hnone, hnone]
    constructor
    · intro h
      refine ⟨[], .nil, ?_⟩
      rw [QuerySpec.withResources_of_no_names]
      exact (Except.ok.inj h).symm
    · rintro ⟨ids, hids, rfl⟩
      obtain rfl := List.forall₂_nil_left_iff.mp hids
      rw [QuerySpec.withResources_of_no_names]
      rfl
  · rw [if_neg hnone, Query.bind_eq_ok]
    constructor
    · rintro ⟨resolved, hresolve, h⟩
      obtain ⟨ids, hids, rfl⟩ := QuerySpec.resolve_eq_ok.mp hresolve
      exact ⟨ids, hids, (Except.ok.inj h).symm⟩
    · rintro ⟨ids, hids, rfl⟩
      exact ⟨_, QuerySpec.resolve_eq_ok.mpr ⟨ids, hids, rfl⟩, rfl⟩

/-- There are no filters if a resource cannot be looked up. -/
theorem filtersFor_eq_error : s.filtersFor request archive = .error e ↔
    request.spec.resolve archive.resourceId = .error e := by
  rw [filtersFor]
  by_cases hnone : request.spec.resourceNames = []
  · rw [if_pos hnone, QuerySpec.resolve_eq_error, hnone]
    simp [pure, Except.pure]
  · rw [if_neg hnone, Query.bind_eq_error]
    simp [pure, Except.pure]

/-! ### Searches that fail -/

/-- An engine fails in a search, with an error. -/
inductive Fails (s : Session) (request : Request) (engine : Engine) (t : Tree) (path : String) :
    EngineError → Prop
  | loading {e : EngineError} (h : engine t path = .error e) : Fails s request engine t path e
  /-- All names in front of one are looked up, and that one is not. -/
  | lookingUp {archive : LoadedArchive} {before after : List Query.ResourceName}
      {name : Query.ResourceName} {e : EngineError} (hload : engine t path = .ok archive)
      (hnames : request.spec.resourceNames = before ++ name :: after)
      (hbefore : ∀ other ∈ before, ∃ id, archive.resourceId other = .ok id)
      (h : archive.resourceId name = .error e) : Fails s request engine t path e
  /-- The session reads the stream to its end, as it finds fewer classes than its limit. -/
  | streaming {archive : LoadedArchive} {filters : Filters} {e : EngineError}
      (hload : engine t path = .ok archive)
      (hfilters : s.filtersFor request archive = .ok filters)
      (hends : ¬ Reaches s.limit (streamOf archive filters).items)
      (h : (streamOf archive filters).failure = some e) : Fails s request engine t path e
  /-- The session has enough, but the engine fails all the same. -/
  | stopping {archive : LoadedArchive} {filters : Filters} {front : List Item} {e : EngineError}
      (hload : engine t path = .ok archive)
      (hfilters : s.filtersFor request archive = .ok filters)
      (hfront : GoesThrough s.limit (streamOf archive filters).items front)
      (henough : Reaches s.limit front)
      (h : ((streamOf archive filters).stopped front.length).failure = some e) :
      Fails s request engine t path e

theorem reaches_through (s : Session) (items : List Item) :
    Reaches s.limit (s.through [] items) ↔ Reaches s.limit items := by
  constructor
  · rintro ⟨hpos, hle⟩
    have hlength := (classNames_begins (s.through_begins [] items)).length_le
    exact ⟨hpos, by omega⟩
  · intro hreaches
    rcases (s.goesThrough_through items).stops with hall | hstops
    · rwa [hall]
    · exact hstops

/-- A search fails if the engine does, with the same error. -/
theorem run_of_fails (h : s.Fails request engine t path e) :
    (s.run engine request t path).2 = .error e := by
  cases h with
  | loading hload => simp only [run, hload]
  | lookingUp hload hnames hbefore hname =>
      have hresolve := QuerySpec.resolve_eq_error.mpr ⟨_, _, _, hnames, hbefore, hname⟩
      simp only [run, hload, filtersFor_eq_error.mpr hresolve]
  | streaming hload hfilters hends hfailure =>
      have hnot := mt (s.reaches_through _).mp hends
      rw [run_failure hload hfilters rfl (by rwa [behind_of_not_reaches hnot])]
  | stopping hload hfilters hfront henough hfailure =>
      obtain rfl := hfront.unique (s.goesThrough_through _)
      rw [run_failure hload hfilters rfl (by rwa [behind_of_reaches henough])]

theorem fails_of_run (h : (s.run engine request t path).2 = .error e) :
    s.Fails request engine t path e := by
  cases hload : engine t path with
  | error e' =>
      simp only [run, hload, Except.error.injEq] at h
      exact .loading (h ▸ hload)
  | ok archive =>
      cases hfilters : s.filtersFor request archive with
      | error e' =>
          simp only [run, hload, hfilters, Except.error.injEq] at h
          obtain ⟨before, name, after, hnames, hbefore, hname⟩ :=
            QuerySpec.resolve_eq_error.mp (filtersFor_eq_error.mp hfilters)
          exact .lookingUp hload hnames hbefore (h ▸ hname)
      | ok filters =>
          cases hfailure : (behind (streamOf archive filters) s.limit
              (s.through [] (streamOf archive filters).items)).failure with
          | none =>
              rw [run_found hload hfilters rfl hfailure] at h
              exact absurd h (by simp)
          | some e' =>
              rw [run_failure hload hfilters rfl hfailure] at h
              obtain rfl := Except.error.inj h
              by_cases henough : Reaches s.limit (s.through [] (streamOf archive filters).items)
              · rw [behind_of_reaches henough] at hfailure
                exact .stopping hload hfilters (s.goesThrough_through _) henough hfailure
              · rw [behind_of_not_reaches henough] at hfailure
                exact .streaming hload hfilters (mt (s.reaches_through _).mpr henough) hfailure

/-- What comes to a session that goes through the front of a stream: nothing else, unless there is
enough and the engine goes on nevertheless. -/
structure Receives (s : Session) (stream : Stream) (front taken : List Item) : Prop where
  goesThrough : GoesThrough s.limit stream.items front
  ended : ¬ Reaches s.limit front → taken = front
  enough : Reaches s.limit front → taken = front ++ (stream.stopped front.length).items

theorem receives_received (s : Session) (stream : Stream) :
    s.Receives stream (s.through [] stream.items) (s.received stream) := by
  refine ⟨s.goesThrough_through _, fun hnot => ?_, fun henough => ?_⟩
  · rw [received, behind_of_not_reaches hnot, List.append_nil]
  · rw [received, behind_of_reaches henough]

/-- What is shown and found before a search ends: lines for the items that have come to the session,
if the engine came so far as to stream any, and otherwise none. -/
structure Streams (s : Session) (request : Request) (engine : Engine) (t : Tree) (path : String)
    (taken : List Item) (lines : List String) : Prop where
  shows : s.Shows taken lines
  receives : ∀ archive filters, engine t path = .ok archive →
    s.filtersFor request archive = .ok filters →
      ∃ front, s.Receives (streamOf archive filters) front taken
  silent : (∀ archive filters, engine t path = .ok archive →
    s.filtersFor request archive ≠ .ok filters) → taken = []

theorem exists_streams (s : Session) (request : Request) (engine : Engine) (t : Tree)
    (path : String) : ∃ taken lines, s.Streams request engine t path taken lines ∧
      (s.run engine request t path).1 = lines ∧
      ∀ found, (s.run engine request t path).2 = .ok found → found = classNames taken := by
  by_cases hopened : ∃ archive filters, engine t path = .ok archive ∧
      s.filtersFor request archive = .ok filters
  · obtain ⟨archive, filters, hload, hfilters⟩ := hopened
    have hstreams : s.Streams request engine t path (s.received (streamOf archive filters)) _ :=
      { shows := s.shows_items _
        receives := by
          intro archive' filters' hload' hfilters'
          obtain rfl := Except.ok.inj (hload.symm.trans hload')
          obtain rfl := Except.ok.inj (hfilters.symm.trans hfilters')
          exact ⟨_, s.receives_received _⟩
        silent := fun hnone => absurd hfilters (hnone archive filters hload) }
    refine ⟨_, _, hstreams, ?_⟩
    cases hfailure : (behind (streamOf archive filters) s.limit
        (s.through [] (streamOf archive filters).items)).failure with
    | none =>
        rw [run_found hload hfilters rfl hfailure]
        exact ⟨rfl, fun found hfound => (Except.ok.inj hfound).symm⟩
    | some e =>
        rw [run_failure hload hfilters rfl hfailure]
        exact ⟨rfl, fun found hfound => absurd hfound (by simp)⟩
  · -- The engine has failed before its stream.
    simp only [not_exists, not_and] at hopened
    have hstreams : s.Streams request engine t path [] [] :=
      { shows := s.shows_items []
        receives := fun archive filters hload hfilters =>
          absurd hfilters (hopened archive filters hload)
        silent := fun _ => rfl }
    refine ⟨[], [], hstreams, ?_⟩
    cases hload : engine t path with
    | error e => simp [run, hload]
    | ok archive =>
        cases hfilters : s.filtersFor request archive with
        | error e => simp [run, hload, hfilters]
        | ok filters => exact absurd hfilters (hopened archive filters hload)

/-! ### Searches -/

/-- What a session searches for is not the request that it holds, but the one that it is told. -/
theorem collect_with_request (s : Session) (given : Option Request) (results : List String)
    (items : List Item) :
    ({ s with request := given } : Session).collect results items = s.collect results items := by
  induction items generalizing results with
  | nil => rfl
  | cons item items ih =>
      rw [collect, collect, ih]
      rfl

theorem searchFor_with_request (s : Session) (given : Option Request) (request : Request)
    (engine : Engine) (t : Tree) (path : String) :
    ({ s with request := given } : Session).searchFor request engine t path =
      s.searchFor request engine t path := by
  have hrun : ({ s with request := given } : Session).run engine request t path =
      s.run engine request t path := by
    simp only [run, collect_with_request]
    rfl
  rw [searchFor, searchFor, hrun]

/-- The line that ends a search, if there is one. -/
def lastLine (outcome : SearchOutcome) : List String :=
  match outcome.error with
  | some text => [s!"Failed: {text}"]
  | none => if outcome.results = [] then ["Result:  [Not Found]"] else []

/-- What a search comes to. -/
structure Ends (s : Session) (request : Request) (engine : Engine) (t : Tree) (path : String)
    (lines : List String) (outcome : SearchOutcome) : Prop where
  file : outcome.file = path
  /-- There is an error if the engine has failed somewhere. -/
  failed : ∀ text, outcome.error = some text ↔
    ∃ e, s.Fails request engine t path e ∧ text = e.message
  /-- What was streamed is shown in any case, and found if the engine has not failed. -/
  streamed : ∃ taken shown, s.Streams request engine t path taken shown ∧
    lines = s!"Searching {s.mode.plural}..." :: shown ++ lastLine outcome ∧
    outcome.results = if outcome.error = none then classNames taken else []
  notFound : "Result:  [Not Found]" ∈ lines ↔ outcome.error = none ∧ outcome.results = []

/-- The line for a search without result is none of the others. -/
theorem notFound_mem_lines {shown : List String} (hshows : s.Shows taken shown) :
    "Result:  [Not Found]" ∈ s!"Searching {s.mode.plural}..." :: shown ++ lastLine outcome ↔
      outcome.error = none ∧ outcome.results = [] := by
  have hfirst : "Result:  [Not Found]" ≠ s!"Searching {s.mode.plural}..." := by
    cases s.mode <;> decide
  have hshown : "Result:  [Not Found]" ∉ shown := by
    rw [hshows.eq, List.mem_append, not_or]
    refine ⟨by split <;> decide, fun hmem => ?_⟩
    obtain ⟨item, -, hline⟩ := List.mem_flatMap.mp hmem
    rcases head?_of_mem_itemLines hline with hhead | hhead
    · exact absurd hhead (by decide)
    · exact absurd hhead (by decide)
  rw [List.mem_append, List.mem_cons, or_iff_right (not_or.mpr ⟨hfirst, hshown⟩), lastLine]
  cases outcome.error with
  | some text =>
      have hfailed : "Result:  [Not Found]" ≠ s!"Failed: {text}" := by
        intro h
        have hhead := congrArg (fun line => line.toList.head?) h
        simp [toString] at hhead
      simp [hfailed]
  | none =>
      by_cases hnone : outcome.results = []
      · simp [hnone]
      · simp [hnone]

theorem error_searchFor {text : String} :
    (s.searchFor request engine t path).2.error = some text ↔
      ∃ e, s.Fails request engine t path e ∧ text = e.message := by
  have hshown : (s.searchFor request engine t path).2.error = some text ↔
      ∃ e, (s.run engine request t path).2 = .error e ∧ text = e.message := by
    rw [searchFor]
    split
    · rename_i hrun
      simp [hrun, eq_comm]
    · rename_i hrun
      simp [hrun]
  rw [hshown]
  exact exists_congr fun e => and_congr_left fun _ => ⟨fails_of_run, run_of_fails⟩

theorem streamed_searchFor (s : Session) (request : Request) (engine : Engine) (t : Tree)
    (path : String) :
    ∃ taken shown, s.Streams request engine t path taken shown ∧
      (s.searchFor request engine t path).1 = s!"Searching {s.mode.plural}..." :: shown ++
        lastLine (s.searchFor request engine t path).2 ∧
      (s.searchFor request engine t path).2.results =
        if (s.searchFor request engine t path).2.error = none then classNames taken else [] := by
  obtain ⟨taken, shown, hstreams, hshown, hfound⟩ := exists_streams s request engine t path
  refine ⟨taken, shown, hstreams, ?_⟩
  generalize hrun : s.run engine request t path = run at hshown hfound
  obtain ⟨lines, result⟩ := run
  obtain rfl : lines = shown := hshown
  cases result with
  | error e =>
      rw [searchFor_of_failure hrun]
      exact ⟨rfl, rfl⟩
  | ok found =>
      obtain rfl := hfound found rfl
      rw [searchFor_of_found hrun]
      exact ⟨by simp only [lastLine, classNames_eq_nil], rfl⟩

/-- Every search for a request comes to an end. -/
theorem ends_searchFor (s : Session) (request : Request) (engine : Engine) (t : Tree)
    (path : String) :
    s.Ends request engine t path (s.searchFor request engine t path).1
      (s.searchFor request engine t path).2 := by
  obtain ⟨taken, shown, hstreams, hlines, hresults⟩ := streamed_searchFor s request engine t path
  refine ⟨file_searchFor s engine request t path, fun text => error_searchFor,
    ⟨taken, shown, hstreams, hlines, hresults⟩, ?_⟩
  rw [hlines]
  exact notFound_mem_lines hstreams.shows

end Session

/-! ### Calls -/

/-- A call of a session. -/
inductive Call where
  | init (request : Request)
  | search (engine : Engine) (t : Tree) (path : String)

/-- The request that a call brings. -/
def Call.request? : Call → Option Request
  | .init request => some request
  | .search .. => none

/-- The first request that calls bring. -/
def firstRequest (calls : List Call) : Option Request := calls.findSome? Call.request?

theorem firstRequest_cons (call : Call) (calls : List Call) :
    firstRequest (call :: calls) = call.request?.or (firstRequest calls) := by
  rw [firstRequest, List.findSome?_cons]
  cases call.request? <;> rfl

/-- What a call comes to: the lines that it shows, and why it is refused or what it finds. -/
structure Reply where
  lines : List String := []
  result : Except StateError (Option SearchOutcome)
deriving DecidableEq

namespace Session

/-- The session behind a call, and the reply to the call. -/
def answer (s : Session) : Call → Session × Reply
  | .init request =>
    match s.init request with
    | .ok s' => (s', { result := .ok none })
    | .error e => (s, { result := .error e })
  | .search engine t path =>
    match s.search engine t path with
    | .ok (lines, outcome) => (s, { lines, result := .ok (some outcome) })
    | .error e => (s, { result := .error e })

/-- The session behind some calls. -/
def after (s : Session) (calls : List Call) : Session :=
  calls.foldl (fun s call => (s.answer call).1) s

/-- The replies to some calls. -/
def replies (s : Session) : List Call → List Reply
  | [] => []
  | call :: calls => (s.answer call).2 :: (s.answer call).1.replies calls

/-- What a call of a session comes to that was new once and has been given a request since, or none
yet. -/
inductive Answers (s : Session) : Option Request → Call → Reply → Prop
  | taken (request : Request) : Answers s none (.init request) { result := .ok none }
  | refused (first request : Request) :
      Answers s (some first) (.init request) { result := .error .alreadyInitialized }
  /-- The engine does not matter, nor the archive. -/
  | early (engine : Engine) (t : Tree) (path : String) :
      Answers s none (.search engine t path) { result := .error .notInitialized }
  /-- The search is that of a new session with the request. -/
  | searched {s' : Session} {first : Request} {engine : Engine} {t : Tree} {path : String}
      {lines : List String} {outcome : SearchOutcome} (hinit : s.init first = .ok s')
      (hsearch : s'.search engine t path = .ok (lines, outcome))
      (hends : s'.Ends first engine t path lines outcome) :
      Answers s (some first) (.search engine t path) { lines, result := .ok (some outcome) }

/-- A call changes a session only if it brings the first request. -/
theorem answer_session (s : Session) (call : Call) :
    (s.answer call).1 = { s with request := s.request.or call.request? } := by
  -- Only whether there is a request decides whether a call is refused.
  obtain ⟨mode, limit, printPool, given⟩ := s
  cases call with
  | init request => cases given <;> rfl
  | search engine t path => cases given <;> rfl

/-- What a session comes to at a call, as it was when it was new. -/
theorem answers_answer (hnew : s.request = none) (given : Option Request) (call : Call) :
    Answers s given call ({ s with request := given }.answer call).2 := by
  have hinit : ∀ first, s.init first = .ok { s with request := some first } := by
    intro first
    rw [init, hnew]
  cases given with
  | none =>
      cases call with
      | init request => exact .taken request
      | search engine t path => exact .early engine t path
  | some first =>
      cases call with
      | init request => exact .refused first request
      | search engine t path => exact .searched (hinit first) rfl (ends_searchFor _ _ _ _ _)

/-- A session keeps the first request. -/
theorem after_eq (s : Session) (calls : List Call) :
    s.after calls = { s with request := s.request.or (firstRequest calls) } := by
  induction calls generalizing s with
  | nil => simp [after, firstRequest]
  | cons call calls ih =>
      have hstep : s.after (call :: calls) = (s.answer call).1.after calls := rfl
      rw [hstep, ih, answer_session, firstRequest_cons, Option.or_assoc]

theorem length_replies (s : Session) (calls : List Call) :
    (s.replies calls).length = calls.length := by
  induction calls generalizing s with
  | nil => rfl
  | cons call calls ih => rw [replies, List.length_cons, ih, List.length_cons]

/-- Each reply is that of the session behind the calls before. -/
theorem getElem?_replies (s : Session) (calls : List Call) (i : Nat) :
    (s.replies calls)[i]? = calls[i]?.map fun call => ((s.after (calls.take i)).answer call).2 := by
  induction calls generalizing s i with
  | nil => rfl
  | cons call calls ih =>
      cases i with
      | zero => rfl
      | succ i => exact ih _ i

end Session

/-- Whatever calls of a session come in whatever order: the session keeps the first request that it
is given, so a call that brings another one is refused and changes nothing. A search before that is
refused in silence, for any engine. Every search behind it comes to what it comes to in a new
session with that request: it has an outcome, with an error if the engine fails somewhere; then
nothing is found, though hits that were streamed before have been shown; and it is shown that nothing
was found if there is no error and no class. -/
theorem calls_go_by_first_request (s : Session) (hnew : s.request = none) (calls : List Call) :
    (s.replies calls).length = calls.length ∧
    (∀ i, s.after (calls.take i) =
      { s with request := firstRequest (calls.take i) }) ∧
    ∀ i call, calls[i]? = some call → ∃ reply, (s.replies calls)[i]? = some reply ∧
      s.Answers (firstRequest (calls.take i)) call reply := by
  have hkept : ∀ i, s.after (calls.take i) =
      { s with request := firstRequest (calls.take i) } := by
    intro i
    rw [Session.after_eq, hnew, Option.none_or]
  refine ⟨s.length_replies calls, hkept, fun i call hcall => ?_⟩
  refine ⟨_, by rw [Session.getElem?_replies, hcall, Option.map_some], ?_⟩
  rw [hkept i]
  exact Session.answers_answer hnew _ call

/-- An engine that streams one class and, though that is enough, another one, and then breaks. -/
def breakingEngine : Engine := fun _ _ =>
  let stream : Stream :=
    { items := [⟨"a.A", "a.A", none⟩]
      stopped := fun _ =>
        { items := [⟨"a.B", "a.B", none⟩], failure := some (.unsupported "links") } }
  .ok ⟨fun _ => .ok 0, fun _ => stream, fun _ _ => stream⟩

/-- An engine that finds nothing. -/
def idleEngine : Engine := fun _ _ => .ok ⟨fun _ => .ok 0, fun _ => {}, fun _ _ => {}⟩

/-- A search that comes too early, a request, a search whose stream breaks, another request, and a
search that finds nothing. -/
def disorderedCalls : List Call :=
  [.search breakingEngine { nodes := [] } "a.jar", .init ⟨{}, {}, {}⟩,
    .search breakingEngine { nodes := [] } "a.jar", .init ⟨{ classes := ["b.B"] }, {}, {}⟩,
    .search idleEngine { nodes := [] } "b.jar"]

/-- A session that looks for one class. -/
def oneClass : Session := { mode := .classes, limit := 1 }

/-- The classes that were shown before the stream broke are not found, and the second request is not
heeded. -/
theorem disordered_calls_go_by_first_request :
    oneClass.replies disorderedCalls =
      [{ result := .error .notInitialized }, { result := .ok none },
        { lines := ["Searching classes...", "Result:", "+ Class: a.A", "+ Class: a.B",
            "Failed: Unsupported by this engine: links"]
          result := .ok (some
            { file := "a.jar", error := some "Unsupported by this engine: links" }) },
        { result := .error .alreadyInitialized },
        { lines := ["Searching classes...", "Result:  [Not Found]"]
          result := .ok (some { file := "b.jar" }) }] ∧
    ∃ reply, (oneClass.replies disorderedCalls)[4]? = some reply ∧
      oneClass.Answers (some ⟨{}, {}, {}⟩)
        (.search idleEngine { nodes := [] } "b.jar") reply := by
  obtain ⟨-, -, hreplies⟩ := calls_go_by_first_request oneClass rfl disorderedCalls
  exact ⟨by decide, hreplies 4 _ rfl⟩

end ArchiveScout.Search
