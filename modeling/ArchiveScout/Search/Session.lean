import ArchiveScout.Search.Engine

/-!
# ArchiveScout.Search.Session

**Search sessions.** A session takes one query and searches archive after archive for
it. Matches are shown as they come; the result of a search are the classes of the
matches, each once, in the order of their first matches. A limit stops a search when
so many classes have been found.
-/

namespace ArchiveScout.Search

open ArchiveScout.File (Tree)
open ArchiveScout.Query (AdvancedQuery ClassFilter MethodFilter QuerySpec ReferenceTypes)

/-- What is searched for. -/
inductive Mode where
  | classes
  | methods
deriving DecidableEq, Repr

/-- The word for one match. -/
def Mode.title : Mode → String
  | .classes => "Class"
  | .methods => "Method"

/-- The word for matches. -/
def Mode.plural : Mode → String
  | .classes => "classes"
  | .methods => "methods"

/-- The calls of a session that come at the wrong time. -/
inductive StateError where
  | notInitialized
  | alreadyInitialized
deriving DecidableEq, Repr

/-- The wording of an error. -/
def StateError.message : StateError → String
  | .notInitialized => "Engine is not initialized"
  | .alreadyInitialized => "Engine is already initialized"

/-- A query with its advanced queries. -/
structure Request where
  spec : QuerySpec
  classAdvanced : AdvancedQuery
  methodAdvanced : AdvancedQuery

/-- What an engine is called with; a search for classes has no method filter. -/
structure Filters where
  classes : ClassFilter
  methods : Option MethodFilter

/-- The filters of a request, for a query in its place. -/
def Request.filters (r : Request) (mode : Mode) (spec : QuerySpec) : Filters :=
  { classes := .compile spec r.classAdvanced
    methods := match mode with
      | .classes => none
      | .methods => some (.compile spec r.methodAdvanced) }

/-- A session. -/
structure Session where
  mode : Mode
  /-- How many classes are enough; zero and below stand for no limit. -/
  limit : Int := -1
  printPool : ReferenceTypes := .none
  request : Option Request := none

/-- The result of searching one archive. -/
structure SearchOutcome where
  file : String
  results : List String := []
  error : Option String := none
deriving DecidableEq, Repr

namespace Session

/-- Gives the session its request, once. -/
def init (s : Session) (request : Request) : Except StateError Session :=
  match s.request with
  | some _ => .error .alreadyInitialized
  | none => .ok { s with request := some request }

/-- The filters for one archive. Names of resources are looked up in it. -/
def filtersFor (s : Session) (request : Request) (archive : LoadedArchive) :
    Except EngineError Filters := do
  if request.spec.resourceNames = [] then return request.filters s.mode request.spec
  let resolved ← request.spec.resolve archive.resourceId
  return request.filters s.mode (request.spec.withResources resolved)

/-- One section of a reference pool, if it takes part. -/
def poolSection (enabled : Bool) (title : String) (entries : List String) : List String :=
  if !enabled then []
  else title :: if entries = [] then ["  [EMPTY]"] else entries.map ("  " ++ ·)

/-- A reference pool as one piece of text, if any section takes part. -/
def poolText? (types : ReferenceTypes) (pool : ReferencePool) : Option String :=
  if types.hasNone then none
  else some ("\n   ".intercalate ("- ReferencePool: " ::
    (poolSection types.string "String References: " pool.strings ++
      poolSection types.type "Type References: " pool.types ++
      poolSection types.field "Field References: " pool.fields ++
      poolSection types.method "Method References: " pool.methods)))

/-- The lines for a match. -/
def itemLines (s : Session) (item : Item) : List String :=
  s!"+ {s.mode.title}: {item.display}" :: (item.pool.bind (poolText? s.printPool)).toList

/-- The classes found after one more. -/
def addResult (results : List String) (className : String) : List String :=
  if className ∈ results then results else results ++ [className]

/-- Whether so many classes are enough. -/
def isEnough (s : Session) (results : List String) : Bool :=
  0 < s.limit && s.limit ≤ results.length

/-- The classes found when some items come after others. -/
def foundAfter (results : List String) (items : List Item) : List String :=
  items.foldl (fun found item => addResult found item.className) results

/-- Goes through items until there are enough. Gives the lines, the classes found, and
how many items were enough, unless all were read. -/
def collect (s : Session) (results : List String) :
    List Item → List String × List String × Option Nat
  | [] => ([], results, none)
  | item :: items =>
    let heading := if results = [] then ["Result:"] else []
    let found := addResult results item.className
    if s.isEnough found then (heading ++ s.itemLines item, found, some 1)
    else
      let (lines, found, enough?) := s.collect found items
      (heading ++ s.itemLines item ++ lines, found, enough?.map (· + 1))

/-- The stream of a loaded archive for some filters. -/
def streamOf (archive : LoadedArchive) (f : Filters) : Stream :=
  match f.methods with
  | none => archive.classes f.classes
  | some methods => archive.methods f.classes methods

/-- What comes behind so many items with which there were enough, or behind all. -/
def restOf (stream : Stream) : Option Nat → Burst
  | none => { failure := stream.failure }
  | some count => stream.stopped count

/-- Searches one archive: the lines shown, and the classes found or the failure. Items
that come though there are enough are taken like all others. -/
def run (s : Session) (engine : Engine) (request : Request) (t : Tree) (path : String) :
    List String × Except EngineError (List String) :=
  match engine t path with
  | .error e => ([], .error e)
  | .ok archive =>
    match s.filtersFor request archive with
    | .error e => ([], .error e)
    | .ok filters =>
      let stream := streamOf archive filters
      let (lines, found, enough?) := s.collect [] stream.items
      let rest := restOf stream enough?
      let shown := lines ++ rest.items.flatMap s.itemLines
      match rest.failure with
      | some e => (shown, .error e)
      | none => (shown, .ok (foundAfter found rest.items))

/-- Searches one archive for a request. A failure is shown and leaves the result empty. -/
def searchFor (s : Session) (request : Request) (engine : Engine) (t : Tree)
    (path : String) : List String × SearchOutcome :=
  let start := s!"Searching {s.mode.plural}..."
  match s.run engine request t path with
  | (lines, .error e) =>
    (start :: lines ++ [s!"Failed: {e.message}"], { file := path, error := some e.message })
  | (lines, .ok found) =>
    let none := if found = [] then ["Result:  [Not Found]"] else []
    (start :: lines ++ none, { file := path, results := found })

/-- Searches one archive, once the session has its request. -/
def search (s : Session) (engine : Engine) (t : Tree) (path : String) :
    Except StateError (List String × SearchOutcome) :=
  match s.request with
  | none => .error .notInitialized
  | some request => .ok (s.searchFor request engine t path)

end Session

end ArchiveScout.Search
