import ArchiveScout.Command.Cfr

/-!
# ArchiveScout.Command.Run

**Running the commands.** A command checks its options, reads its query or job, finds
its archives and then takes them one after another. A search can decode the classes
that it finds; the decoder for that is made when the first class is found, and keeps
working for the archives that follow.
-/

namespace ArchiveScout.Command

open ArchiveScout.Console (Prompt)
open ArchiveScout.Decode
  (Decoder Job Provider Report Toolbox World archiveName jarProvider)
open ArchiveScout.Query (AdvancedQuery QuerySpec ReferenceTypes)
open ArchiveScout.Search (Engine Request SearchOutcome Session)

/-- What a command works with. -/
structure Services where
  engine : Engine
  prompt : Prompt
  tools : Toolbox
  cfr : CfrSource
  /-- How many threads the machine offers. -/
  parallelism : Nat := 1
  /-- Starts so many workers, or says why the machine does not let them start. -/
  startWorkers : Nat → Except String Unit := fun _ => .ok ()

/-- How many threads work: as many as are asked for, or as the machine offers. -/
def threadCount (requested : Option Nat) (available : Nat) : Nat :=
  match requested with
  | some (n + 1) => n + 1
  | _ => available

/-- A computation that sees and changes the world, and can fail. What it changed before
a failure stays. -/
abbrev Run (α : Type) := ExceptT RunError (StateM World) α

namespace Run

/-- Shows a line. -/
def write (text : String) : Run Unit := modify fun w => w.write text

/-- The value of a result that does not depend on the world. -/
def ofExcept {ε α : Type} (wrap : ε → RunError) : Except ε α → Run α
  | .ok a => pure a
  | .error e => throw (wrap e)

/-- Announces an archive, works on it, and shows an empty line after it. -/
def withArchive {α : Type} (archive : String) (work : Run α) : Run α := do
  write s!"File: {archiveName archive}"
  let a ← work
  write ""
  return a

end Run

/-- The archives that inputs stand for. -/
def inputs (files : List String) : Run (List String) := do
  Run.ofExcept .missingInput (File.expandInputs (← get).tree files)

/-- The way to open archives of classes, once the decompiler has been found. -/
def provider (s : Services) : Run Provider := do
  let w ← get
  let (tree, jar) := s.cfr.resolve w.tree
  set { w with tree }
  let jar ← Run.ofExcept .cfr jar
  return jarProvider s.tools { jar }

/-- A decoder for a job, once its workers have started; there is one at least. -/
def newDecoder (s : Services) (job : Job) (pauseInput : Bool) : Run Decoder := do
  Run.ofExcept .pool (s.startWorkers (max job.threads 1))
  return .ofJob job pauseInput

/-- Decodes an archive. -/
def decodeArchive (s : Services) (opener : Provider) (d : Decoder) (archive : String) :
    Run (Decoder × Report) := do
  let (report, d, w) := d.decode opener s.prompt (← get) archive
  set w
  return (d, report)

/-! ### Searching -/

/-- The job that writes the sources of what a search finds. -/
def sourceJob (s : Services) (o : SearchOptions) : Job where
  outputRoot := o.output
  flatten := true
  threads := threadCount none s.parallelism
  java := true
  smali := true

/-- A decoder with the way to open archives. -/
structure Generator where
  opener : Provider
  decoder : Decoder

/-- Writes the sources of the classes that a search has found, by the generator of the
archives before or by a new one. -/
def generate (s : Services) (o : SearchOptions) (generator : Option Generator)
    (found : SearchOutcome) : Run (Option Generator × List Report) := do
  if !o.genSources || found.results.isEmpty then return (generator, [])
  let g ← match generator with
    | some g => pure g
    | none => pure { opener := ← provider s, decoder := ← newDecoder s (sourceJob s o) false }
  Run.write "Generating sources..."
  let decoder := g.decoder.withSourceFilter (.ofResults found.results)
  let (decoder, report) ← decodeArchive s g.opener decoder found.file
  return (some { g with decoder }, [report])

/-- Searches an archive. -/
def searchArchive (s : Services) (session : Session) (archive : String) :
    Run SearchOutcome := do
  let w ← get
  let (lines, found) ← Run.ofExcept .session (session.search s.engine w.tree archive)
  set (w.writeAll lines)
  return found

/-- Searches archives one after another. -/
def searchAll (s : Services) (o : SearchOptions) (session : Session) :
    Option Generator → List String → Run (List SearchOutcome × List Report)
  | _, [] => return ([], [])
  | generator, archive :: archives => do
    let (found, generator, generated) ← Run.withArchive archive do
      let found ← searchArchive s session archive
      let (generator, generated) ← generate s o generator found
      return (found, generator, generated)
    let (more, reports) ← searchAll s o session generator archives
    return (found :: more, generated ++ reports)

/-- The request of a search. Of several faults the first one counts: the query, the
advanced query for classes, the one for methods. -/
def SearchOptions.request (o : SearchOptions) : Except Query.QueryError Request := do
  let spec ← QuerySpec.build o.query
  let classAdvanced ← AdvancedQuery.parse .classes o.classAdvanced
  let methodAdvanced ← AdvancedQuery.parse .methods o.methodAdvanced
  return { spec, classAdvanced, methodAdvanced }

/-- The session of a search, before it has its request. -/
def SearchOptions.session (o : SearchOptions) : Except UsageError Session :=
  match ReferenceTypes.parse o.printPool.toList with
  | .ok printPool => .ok { mode := o.mode?.getD .classes, limit := o.limit, printPool }
  | .error _ => .error .poolTypes

/-- Runs a search. -/
def runSearch (s : Services) (o : SearchOptions) : Run Outcome := do
  Run.ofExcept .usage o.check
  let request ← Run.ofExcept .query o.request
  let session ← Run.ofExcept .usage o.session
  let session ← Run.ofExcept .session (session.init request)
  let (searches, generated) ← searchAll s o session none (← inputs o.files)
  return .search searches generated

/-! ### Decoding -/

/-- The job of decoding. -/
def decodeJob (s : Services) (o : DecodeOptions) : Job where
  outputRoot := o.output
  sourceFilter := .ofSelection o.packages o.classes
  resourceFilter := .ofTypes o.resources
  flatten := o.flat
  renameClasses := !o.disableRename
  threads := threadCount o.jobs s.parallelism
  pauseEnabled := o.enablePause
  java := o.mode.toList.contains 'j'
  smali := o.mode.toList.contains 's'
  resources := o.mode.toList.contains 'r'

/-- Decodes archives one after another. -/
def decodeAll (s : Services) (opener : Provider) :
    Decoder → List String → Run (List Report)
  | _, [] => return []
  | decoder, archive :: archives => do
    let (decoder, report) ← Run.withArchive archive (decodeArchive s opener decoder archive)
    return report :: (← decodeAll s opener decoder archives)

/-- Decodes. -/
def runDecode (s : Services) (o : DecodeOptions) : Run Outcome := do
  Run.ofExcept .usage o.check
  let archives ← inputs o.files
  let opener ← provider s
  let decoder ← newDecoder s (decodeJob s o) true
  return .decode (← decodeAll s opener decoder archives)

/-- Runs a command. -/
def Operation.run (s : Services) : Operation → Run Outcome
  | .search o => runSearch s o
  | .decode o => runDecode s o
  | .mapver _ => return .notImplemented .mapver
  | .batch _ => return .notImplemented .batch

/-- Runs a command in a world. -/
def Operation.runIn (s : Services) (c : Operation) (w : World) :
    Except RunError Outcome × World :=
  (c.run s).run w

end ArchiveScout.Command
