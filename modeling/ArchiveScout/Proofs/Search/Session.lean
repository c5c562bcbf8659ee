import ArchiveScout.Proofs.Archive.Grouping
import ArchiveScout.Proofs.Query.Resources
import ArchiveScout.Search.Session
import Mathlib.Data.List.Induction

/-!
# ArchiveScout.Proofs.Search.Session

**What a session goes through.** A session takes item after item and keeps the classes found so
far, which are the class names of the items, each where it comes first. It stops behind the item
with which there are enough of them. As one item adds at most one class, a limited search finds the
first classes of the unlimited one, exactly as many as the limit says if there are so many.
-/

namespace ArchiveScout.Search

open ArchiveScout.File (Tree)
open ArchiveScout.Query (ReferenceTypes eraseDups_concat)

variable {s : Session} {item : Item} {items taken front : List Item} {results : List String}
  {limit : Int}

/-! ### Classes -/

/-- The class names of some items, each once, in the order in which they first come. -/
def classNames (items : List Item) : List String :=
  (items.map (·.className)).eraseDups

theorem classNames_append (front items : List Item) : classNames (front ++ items) =
    classNames front ++ ((items.map (·.className)).removeAll (front.map (·.className))).eraseDups := by
  rw [classNames, List.map_append, List.eraseDups_append]
  rfl

/-- One item more adds its class, unless that has come before. -/
theorem classNames_concat (items : List Item) (item : Item) :
    classNames (items ++ [item]) = Session.addResult (classNames items) item.className := by
  rw [classNames, List.map_append, List.map_singleton, eraseDups_concat]
  rfl

theorem classNames_begins (h : front <+: items) : classNames front <+: classNames items := by
  obtain ⟨rest, rfl⟩ := h
  rw [classNames_append]
  exact List.prefix_append _ _

theorem classNames_eq_nil : classNames items = [] ↔ items = [] := by
  constructor
  · intro h
    cases items with
    | nil => rfl
    | cons item items => simp [classNames, List.eraseDups_cons] at h
  · rintro rfl
    rfl

theorem length_addResult_le (results : List String) (className : String) :
    (Session.addResult results className).length ≤ results.length + 1 := by
  rw [Session.addResult]
  split
  · exact Nat.le_succ _
  · simp

/-! ### The limit -/

/-- Whether items are of so many classes that a limit stops the search. -/
def Reaches (limit : Int) (items : List Item) : Prop :=
  0 < limit ∧ limit ≤ (classNames items).length

instance (limit : Int) (items : List Item) : Decidable (Reaches limit items) :=
  inferInstanceAs (Decidable (_ ∧ _))

theorem isEnough_classNames (s : Session) (items : List Item) :
    s.isEnough (classNames items) = true ↔ Reaches s.limit items := by
  rw [Session.isEnough, Bool.and_eq_true, decide_eq_true_iff, decide_eq_true_iff]
  rfl

theorem not_reaches_nil (limit : Int) : ¬ Reaches limit [] := by
  rintro ⟨hpos, hle⟩
  rw [show classNames [] = [] from rfl, List.length_nil] at hle
  omega

/-- The shortest beginning of some items that reaches a limit, or all of them if none does. -/
structure GoesThrough (limit : Int) (items taken : List Item) : Prop where
  begins : taken <+: items
  stops : taken = items ∨ Reaches limit taken
  shortest : ∀ front, front <+: taken → Reaches limit front → front = taken

namespace GoesThrough

theorem eq_of_not_reaches (h : GoesThrough limit items taken) (hnot : ¬ Reaches limit items) :
    taken = items := by
  rcases h.stops with hall | ⟨hpos, hle⟩
  · exact hall
  · have hlength := (classNames_begins h.begins).length_le
    exact absurd ⟨hpos, by omega⟩ hnot

theorem eq_of_begins (h : GoesThrough limit items front) (h' : GoesThrough limit items taken)
    (hbegins : front <+: taken) : front = taken := by
  rcases h.stops with rfl | hreaches
  · exact hbegins.eq_of_length_le h'.begins.length_le
  · exact h'.shortest front hbegins hreaches

/-- There is one such beginning. -/
theorem unique (h : GoesThrough limit items front) (h' : GoesThrough limit items taken) :
    front = taken := by
  rcases List.prefix_or_prefix_of_prefix h.begins h'.begins with hbegins | hbegins
  · exact h.eq_of_begins h' hbegins
  · exact (h'.eq_of_begins h hbegins).symm

/-- A search never finds more classes than its limit says. -/
theorem length_le (h : GoesThrough limit items taken) (hpos : 0 < limit) :
    ((classNames taken).length : Int) ≤ limit := by
  cases taken using List.reverseRecOn with
  | nil =>
      rw [show classNames [] = [] from rfl, List.length_nil]
      omega
  | append_singleton before last =>
      have hshort : ¬ Reaches limit before := fun hreaches =>
        absurd (h.shortest before (List.prefix_append _ _) hreaches) (by simp)
      have hless : ((classNames before).length : Int) < limit := by
        by_contra hle
        exact hshort ⟨hpos, by omega⟩
      have hone := length_addResult_le (classNames before) last.className
      rw [classNames_concat]
      omega

/-- A limited search finds the first classes of all. -/
theorem classNames_eq_take (h : GoesThrough limit items taken) (hpos : 0 < limit) :
    classNames taken = (classNames items).take limit.toNat := by
  have hbegins := classNames_begins h.begins
  have hle := h.length_le hpos
  rcases h.stops with rfl | hreaches
  · rw [List.take_of_length_le (by omega)]
  · have hlength : (classNames taken).length = limit.toNat := by
      have hge := hreaches.2
      omega
    rw [← hlength]
    exact List.prefix_iff_eq_take.mp hbegins

theorem classNames_eq (h : GoesThrough limit items taken) : classNames taken =
    if 0 < limit then (classNames items).take limit.toNat else classNames items := by
  split
  · rename_i hpos
    exact h.classNames_eq_take hpos
  · rename_i hpos
    rw [h.eq_of_not_reaches fun hreaches => hpos hreaches.1]

end GoesThrough

/-! ### Going through -/

/-- The engine of a stream stops as soon as its reader has enough. -/
def Stream.Stops (stream : Stream) : Prop :=
  ∀ count, stream.stopped count = {}

namespace Session

variable {stream : Stream}

/-- The items that a session goes through when some classes have been found before. -/
def through (s : Session) (results : List String) : List Item → List Item
  | [] => []
  | item :: items =>
    item :: if s.isEnough (addResult results item.className) then []
      else s.through (addResult results item.className) items

theorem foundAfter_classNames (front items : List Item) :
    foundAfter (classNames front) items = classNames (front ++ items) := by
  induction items generalizing front with
  | nil => rw [List.append_nil]; rfl
  | cons item items ih =>
      rw [foundAfter, List.foldl_cons, ← classNames_concat]
      exact (ih (front ++ [item])).trans (by rw [List.append_assoc, List.singleton_append])

theorem addResult_ne_nil (results : List String) (className : String) :
    addResult results className ≠ [] := by
  rw [addResult]
  split
  · rename_i hmem
    exact List.ne_nil_of_mem hmem
  · simp

/-- The heading stands in front of the first item only, and all items are read unless there are
enough with some of them. -/
theorem collect_eq (s : Session) (results : List String) (items : List Item)
    (hmore : s.isEnough results = false) :
    s.collect results items =
      ((if results = [] ∧ items ≠ [] then ["Result:"] else []) ++
          (s.through results items).flatMap s.itemLines,
        foundAfter results (s.through results items),
        if s.isEnough (foundAfter results (s.through results items)) then
          some (s.through results items).length
        else none) := by
  induction items generalizing results with
  | nil => simp [collect, through, foundAfter, hmore]
  | cons item items ih =>
      rw [collect, through]
      cases henough : s.isEnough (addResult results item.className) with
      | true => simp [foundAfter, henough]
      | false =>
          simp [ih _ henough, addResult_ne_nil, foundAfter]
          exact apply_ite (Option.map (· + 1)) _ _ _

theorem through_begins (s : Session) (results : List String) (items : List Item) :
    s.through results items <+: items := by
  induction items generalizing results with
  | nil => exact List.prefix_rfl
  | cons item items ih =>
      rw [through, List.cons_prefix_cons]
      refine ⟨rfl, ?_⟩
      split
      · exact List.nil_prefix
      · exact ih _

/-- A session stops where the limit is reached, and nowhere else. -/
theorem goesThrough_through (s : Session) (items : List Item) :
    GoesThrough s.limit items (s.through [] items) := by
  -- What came before has not reached the limit.
  have hstep : ∀ before : List Item, ¬ Reaches s.limit before →
      (s.through (classNames before) items = items ∨
        Reaches s.limit (before ++ s.through (classNames before) items)) ∧
      ∀ front, front <+: s.through (classNames before) items → Reaches s.limit (before ++ front) →
        front = s.through (classNames before) items := by
    induction items with
    | nil =>
        intro before hbefore
        refine ⟨.inl rfl, fun front hfront _ => ?_⟩
        exact List.prefix_nil.mp hfront
    | cons item items ih =>
        intro before hbefore
        have hnone : ∀ front, front = [] → ¬ Reaches s.limit (before ++ front) := by
          rintro front rfl
          rwa [List.append_nil]
        rw [through, ← classNames_concat]
        by_cases henough : Reaches s.limit (before ++ [item])
        · rw [if_pos ((isEnough_classNames s _).mpr henough)]
          refine ⟨.inr henough, fun front hfront hreaches => ?_⟩
          rcases List.prefix_cons_iff.mp hfront with hnil | ⟨front, rfl, hrest⟩
          · exact absurd hreaches (hnone front hnil)
          · rw [List.prefix_nil.mp hrest]
        · rw [if_neg (mt (isEnough_classNames s _).mp henough)]
          obtain ⟨hstops, hshortest⟩ := ih (before ++ [item]) henough
          rw [List.append_assoc, List.singleton_append] at hstops
          refine ⟨hstops.imp_left (congrArg _), fun front hfront hreaches => ?_⟩
          rcases List.prefix_cons_iff.mp hfront with hnil | ⟨front, rfl, hrest⟩
          · exact absurd hreaches (hnone front hnil)
          · rw [hshortest front hrest (by rwa [List.append_assoc, List.singleton_append])]
  obtain ⟨hstops, hshortest⟩ := hstep [] (not_reaches_nil s.limit)
  exact ⟨s.through_begins [] items, hstops, hshortest⟩

/-! ### Lines -/

/-- A reference pool has a text if any of its sections is wanted. -/
theorem poolText?_eq_none {types : ReferenceTypes} {pool : ReferencePool} :
    poolText? types pool = none ↔ types = .none := by
  rw [poolText?, ReferenceTypes.hasNone]
  split <;> simp_all

/-- What a session shows for some items: the heading in front of the first one, and a line for each
item, with the text of its pool behind it if it has one and any section is wanted. -/
structure Shows (s : Session) (items : List Item) (lines : List String) : Prop where
  eq : lines = (if items = [] then [] else ["Result:"]) ++ items.flatMap s.itemLines
  heading : lines.count "Result:" = if items = [] then 0 else 1
  plain : ∀ item ∈ items, item.pool = none ∨ s.printPool = .none →
    s.itemLines item = [s!"+ {s.mode.title}: {item.display}"]
  pool : ∀ item ∈ items, ∀ pool, item.pool = some pool → s.printPool ≠ .none →
    ∃ text, poolText? s.printPool pool = some text ∧
      s.itemLines item = [s!"+ {s.mode.title}: {item.display}", text]

/-- The lines for a match are told from all other lines by their first character. -/
theorem head?_of_mem_itemLines {line : String} (h : line ∈ s.itemLines item) :
    line.toList.head? = some '+' ∨ line.toList.head? = some '-' := by
  rw [itemLines, List.mem_cons] at h
  rcases h with rfl | hpool
  · exact .inl (by simp [toString])
  · rw [Option.mem_toList] at hpool
    obtain ⟨pool, -, htext⟩ := Option.bind_eq_some_iff.mp hpool
    rw [poolText?] at htext
    split at htext
    · exact absurd htext (by simp)
    · rw [← Option.some.inj htext]
      exact .inr (by simp [String.toList_intercalate])

theorem heading_notMem_itemLines (s : Session) (item : Item) : "Result:" ∉ s.itemLines item := by
  intro h
  rcases head?_of_mem_itemLines h with hhead | hhead
  · exact absurd hhead (by decide)
  · exact absurd hhead (by decide)

theorem shows_items (s : Session) (items : List Item) :
    s.Shows items ((if items = [] then [] else ["Result:"]) ++ items.flatMap s.itemLines) := by
  refine ⟨rfl, ?heading, ?plain, ?pool⟩
  case heading =>
    have hitems : (items.flatMap s.itemLines).count "Result:" = 0 := by
      rw [List.count_eq_zero]
      intro hmem
      obtain ⟨item, -, hline⟩ := List.mem_flatMap.mp hmem
      exact s.heading_notMem_itemLines item hline
    rw [List.count_append, hitems]
    split <;> rfl
  case plain =>
    intro item _ hplain
    rw [itemLines]
    rcases hplain with hnone | hnone
    · rw [hnone]
      rfl
    · cases item.pool with
      | none => rfl
      | some pool => simp [poolText?_eq_none.mpr hnone]
  case pool =>
    intro item _ pool hpool htypes
    obtain ⟨text, htext⟩ := Option.ne_none_iff_exists'.mp (mt poolText?_eq_none.mp htypes)
    refine ⟨text, htext, ?_⟩
    rw [itemLines, hpool, Option.bind_some, htext]
    rfl

theorem through_eq_nil : s.through results items = [] ↔ items = [] := by
  cases items <;> simp [through]

/-- What a session collects from the items of a stream. -/
theorem collect_nil (s : Session) (items : List Item) :
    s.collect [] items =
      ((if s.through [] items = [] then [] else ["Result:"]) ++
          (s.through [] items).flatMap s.itemLines,
        classNames (s.through [] items),
        if Reaches s.limit (s.through [] items) then some (s.through [] items).length
        else none) := by
  have hfound : foundAfter [] (s.through [] items) = classNames (s.through [] items) :=
    foundAfter_classNames [] _
  have henough : s.isEnough (classNames (s.through [] items)) =
      decide (Reaches s.limit (s.through [] items)) := by
    rw [Bool.eq_iff_iff, isEnough_classNames, decide_eq_true_iff]
  rw [s.collect_eq [] items (by simp [isEnough]), hfound, henough]
  simp [through_eq_nil, ite_not]

/-! ### Searches -/

variable {engine : Engine} {request : Request} {t : Tree} {path : String}
  {archive : LoadedArchive} {filters : Filters}

/-- What a stream brings behind items with which a limit is reached, or behind all of its items. -/
def behind (stream : Stream) (limit : Int) (front : List Item) : Burst :=
  restOf stream (if Reaches limit front then some front.length else none)

theorem behind_of_reaches (h : Reaches limit front) :
    behind stream limit front = stream.stopped front.length := by
  rw [behind, if_pos h]
  rfl

theorem behind_of_not_reaches (h : ¬ Reaches limit front) :
    behind stream limit front = { failure := stream.failure } := by
  rw [behind, if_neg h]
  rfl

/-- The items of a stream that come to a session. -/
def received (s : Session) (stream : Stream) : List Item :=
  s.through [] stream.items ++ (behind stream s.limit (s.through [] stream.items)).items

/-- Nothing comes to a session of a stream without items. -/
theorem received_eq_nil (h : stream.items = []) : s.received stream = [] := by
  rw [received, h, through, behind_of_not_reaches (not_reaches_nil s.limit)]
  rfl

theorem through_eq_nil_iff_received :
    s.through [] stream.items = [] ↔ s.received stream = [] := by
  constructor
  · exact fun h => received_eq_nil (through_eq_nil.mp h)
  · exact fun h => (List.append_eq_nil_iff.mp h).1

/-- A session that comes to a stream shows all items that come to it. It finds their classes, unless
the stream fails. -/
theorem run_opened (hload : engine t path = .ok archive)
    (hfilters : s.filtersFor request archive = .ok filters) :
    s.run engine request t path =
      ((if s.received (streamOf archive filters) = [] then [] else ["Result:"]) ++
          (s.received (streamOf archive filters)).flatMap s.itemLines,
        match (behind (streamOf archive filters) s.limit
          (s.through [] (streamOf archive filters).items)).failure with
        | some e => .error e
        | none => .ok (classNames (s.received (streamOf archive filters)))) := by
  simp only [run, hload, hfilters, collect_nil, through_eq_nil_iff_received, foundAfter_classNames]
  rw [← behind, List.append_assoc, ← List.flatMap_append, ← received]
  cases (behind (streamOf archive filters) s.limit
    (s.through [] (streamOf archive filters).items)).failure <;> rfl

theorem run_found (hload : engine t path = .ok archive)
    (hfilters : s.filtersFor request archive = .ok filters)
    (htaken : taken = s.received (streamOf archive filters))
    (hnone : (behind (streamOf archive filters) s.limit
      (s.through [] (streamOf archive filters).items)).failure = none) :
    s.run engine request t path =
      ((if taken = [] then [] else ["Result:"]) ++ taken.flatMap s.itemLines,
        .ok (classNames taken)) := by
  rw [run_opened hload hfilters, hnone, htaken]

/-- A search ends in the failure that comes to it. -/
theorem run_failure {e : EngineError} (hload : engine t path = .ok archive)
    (hfilters : s.filtersFor request archive = .ok filters)
    (htaken : taken = s.received (streamOf archive filters))
    (hfailure : (behind (streamOf archive filters) s.limit
      (s.through [] (streamOf archive filters).items)).failure = some e) :
    s.run engine request t path =
      ((if taken = [] then [] else ["Result:"]) ++ taken.flatMap s.itemLines, .error e) := by
  rw [run_opened hload hfilters, hfailure, htaken]

theorem searchFor_of_found {lines : List String}
    (hrun : s.run engine request t path = (lines, .ok (classNames taken))) :
    s.searchFor request engine t path =
      (s!"Searching {s.mode.plural}..." :: lines ++
          (if taken = [] then ["Result:  [Not Found]"] else []),
        { file := path, results := classNames taken }) := by
  simp only [searchFor, hrun, classNames_eq_nil]

theorem searchFor_of_failure {lines : List String} {e : EngineError}
    (hrun : s.run engine request t path = (lines, .error e)) :
    s.searchFor request engine t path =
      (s!"Searching {s.mode.plural}..." :: lines ++ [s!"Failed: {e.message}"],
        { file := path, error := some e.message }) := by
  simp only [searchFor, hrun]

theorem file_searchFor (s : Session) (engine : Engine) (request : Request) (t : Tree)
    (path : String) : (s.searchFor request engine t path).2.file = path := by
  rw [searchFor]
  split <;> rfl

/-- Every class that is found comes from an item that has come to the session. -/
theorem exists_item_of_result {name : String}
    (h : name ∈ (s.searchFor request engine t path).2.results) :
    ∃ archive filters, engine t path = .ok archive ∧ s.filtersFor request archive = .ok filters ∧
      ∃ item ∈ s.received (streamOf archive filters), item.className = name := by
  cases hload : engine t path with
  | error e =>
      have hrun : s.run engine request t path = ([], .error e) := by simp only [run, hload]
      rw [searchFor_of_failure hrun] at h
      exact absurd h List.not_mem_nil
  | ok archive =>
      cases hfilters : s.filtersFor request archive with
      | error e =>
          have hrun : s.run engine request t path = ([], .error e) := by
            simp only [run, hload, hfilters]
          rw [searchFor_of_failure hrun] at h
          exact absurd h List.not_mem_nil
      | ok filters =>
          refine ⟨archive, filters, rfl, hfilters, ?_⟩
          have hfound : name ∈ classNames (s.received (streamOf archive filters)) := by
            cases hfailure : (behind (streamOf archive filters) s.limit
                (s.through [] (streamOf archive filters).items)).failure with
            | none => rwa [searchFor_of_found (run_found hload hfilters rfl hfailure)] at h
            | some e =>
                rw [searchFor_of_failure (run_failure hload hfilters rfl hfailure)] at h
                exact absurd h List.not_mem_nil
          rwa [classNames, List.mem_eraseDups, List.mem_map] at hfound

/-! ### Engines that stop -/

theorem received_of_stops (h : stream.Stops) :
    s.received stream = s.through [] stream.items := by
  rw [received]
  by_cases hreaches : Reaches s.limit (s.through [] stream.items)
  · rw [behind_of_reaches hreaches, h, List.append_nil]
  · rw [behind_of_not_reaches hreaches, List.append_nil]

/-- The failure of such a stream comes to a session that has not enough. -/
theorem failure_behind_of_stops (h : stream.Stops) {e : EngineError} :
    (behind stream limit front).failure = some e ↔
      stream.failure = some e ∧ ¬ Reaches limit front := by
  by_cases hreaches : Reaches limit front
  · simp [behind_of_reaches hreaches, h front.length, hreaches]
  · simp [behind_of_not_reaches hreaches, hreaches]

theorem run_found_of_stops (hload : engine t path = .ok archive)
    (hfilters : s.filtersFor request archive = .ok filters)
    (hstops : (streamOf archive filters).Stops)
    (htaken : taken = s.through [] (streamOf archive filters).items)
    (hends : (streamOf archive filters).failure = none ∨ Reaches s.limit taken) :
    s.run engine request t path =
      ((if taken = [] then [] else ["Result:"]) ++ taken.flatMap s.itemLines,
        .ok (classNames taken)) := by
  subst htaken
  refine run_found hload hfilters (received_of_stops hstops).symm ?_
  rw [Option.eq_none_iff_forall_ne_some]
  intro e hfailure
  obtain ⟨hsome, hnot⟩ := (failure_behind_of_stops hstops).mp hfailure
  rcases hends with hnone | hreaches
  · exact absurd (hnone.symm.trans hsome) (by simp)
  · exact hnot hreaches

theorem run_failure_of_stops {e : EngineError} (hload : engine t path = .ok archive)
    (hfilters : s.filtersFor request archive = .ok filters)
    (hstops : (streamOf archive filters).Stops)
    (htaken : taken = s.through [] (streamOf archive filters).items)
    (hfailure : (streamOf archive filters).failure = some e) (hnot : ¬ Reaches s.limit taken) :
    s.run engine request t path =
      ((if taken = [] then [] else ["Result:"]) ++ taken.flatMap s.itemLines, .error e) := by
  subst htaken
  exact run_failure hload hfilters (received_of_stops hstops).symm
    ((failure_behind_of_stops hstops).mpr ⟨hfailure, hnot⟩)

/-- The classes found in a stream without failure. -/
theorem results_searchFor (hload : engine t path = .ok archive)
    (hfilters : s.filtersFor request archive = .ok filters)
    (hstops : (streamOf archive filters).Stops)
    (hfailure : (streamOf archive filters).failure = none) :
    (s.searchFor request engine t path).2.results =
      classNames (s.through [] (streamOf archive filters).items) := by
  rw [searchFor_of_found (run_found_of_stops hload hfilters hstops rfl (.inl hfailure))]

end Session

/-- If the engine stops when it is told to, a session goes through the shortest beginning of a stream
that has as many classes as the limit says, and through the whole stream if there is no limit or there
are fewer. It shows the items under
a heading, in their order and each with its pool as far as that is wanted, and finds their classes,
each once and in the order in which they first come. A failure of the stream counts only if the
session comes to it. With a limit, what is found are the first classes of all. -/
theorem search_goes_through_shortest_front (s : Session) (engine : Engine) (request : Request)
    (t : Tree) (path : String) (archive : LoadedArchive) (filters : Filters)
    (hload : engine t path = .ok archive)
    (hfilters : s.filtersFor request archive = .ok filters)
    (hstops : (Session.streamOf archive filters).Stops) :
    ∃ taken lines, GoesThrough s.limit (Session.streamOf archive filters).items taken ∧
      s.Shows taken lines ∧
      ((Session.streamOf archive filters).failure = none ∨ Reaches s.limit taken →
        s.searchFor request engine t path =
          (s!"Searching {s.mode.plural}..." :: lines ++
              (if taken = [] then ["Result:  [Not Found]"] else []),
            { file := path, results := classNames taken })) ∧
      (∀ e, (Session.streamOf archive filters).failure = some e → ¬ Reaches s.limit taken →
        s.searchFor request engine t path =
          (s!"Searching {s.mode.plural}..." :: lines ++ [s!"Failed: {e.message}"],
            { file := path, error := some e.message })) ∧
      ((Session.streamOf archive filters).failure = none → 0 < s.limit → ∀ none ≤ 0,
        (s.searchFor request engine t path).2.results =
          ({ s with limit := none }.searchFor request engine t path).2.results.take
            s.limit.toNat) := by
  have hthrough := s.goesThrough_through (Session.streamOf archive filters).items
  refine ⟨_, _, hthrough, s.shows_items _, ?found, ?failed, ?limited⟩
  case found =>
    exact fun hends =>
      Session.searchFor_of_found (Session.run_found_of_stops hload hfilters hstops rfl hends)
  case failed =>
    intro e hfailure hnot
    exact Session.searchFor_of_failure
      (Session.run_failure_of_stops hload hfilters hstops rfl hfailure hnot)
  case limited =>
    intro hfailure hpos none hnone
    have hall := Session.goesThrough_through { s with limit := none }
      (Session.streamOf archive filters).items
    rw [Session.results_searchFor hload hfilters hstops hfailure,
      Session.results_searchFor (s := { s with limit := none }) hload hfilters hstops hfailure,
      hall.classNames_eq, if_neg (show ¬ 0 < none by omega)]
    exact hthrough.classNames_eq_take hpos

/-- Items of three classes, one of them twice and once with a pool. -/
def repeatedItems : List Item :=
  [⟨"b.B", "b.B", none⟩, ⟨"b.B", "b.B", some { types := ["I"] }⟩, ⟨"a.A", "a.A", none⟩,
    ⟨"c.C", "c.C", none⟩]

/-- An engine that finds these items whatever is asked. -/
def repeatingEngine : Engine := fun _ _ =>
  .ok ⟨fun _ => .ok 0, fun _ => { items := repeatedItems }, fun _ _ => {}⟩

/-- A session that looks for two classes and wants the types they refer to. -/
def twoClasses : Session := { mode := .classes, limit := 2, printPool := { type := true } }

/-- The class that comes twice counts once, and the session does not come to the last item. -/
theorem third_class_is_not_shown :
    twoClasses.searchFor ⟨{}, {}, {}⟩ repeatingEngine { nodes := [] } "app.jar" =
      (["Searching classes...", "Result:", "+ Class: b.B", "+ Class: b.B",
          "- ReferencePool: \n   Type References: \n     I", "+ Class: a.A"],
        { file := "app.jar", results := ["b.B", "a.A"] }) := by
  obtain ⟨taken, lines, hthrough, hshows, hfound, -, -⟩ :=
    search_goes_through_shortest_front twoClasses repeatingEngine ⟨{}, {}, {}⟩ { nodes := [] }
      "app.jar" _ _ rfl rfl fun _ => rfl
  have htaken : taken = repeatedItems.take 3 :=
    hthrough.unique (twoClasses.goesThrough_through repeatedItems)
  subst htaken
  rw [hfound (.inl rfl), hshows.eq]
  decide

end ArchiveScout.Search
