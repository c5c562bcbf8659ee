import ArchiveScout.Console.Prompt
import ArchiveScout.Decode.Pass

/-!
# ArchiveScout.Decode.Decoder

**Decode passes over a sequence of archives.** For each archive the decoder prepares
the directory `<archive>_sources` below the output root, opens the archive, dispatches
a task for each batch and each resource, and waits for them. An output directory that
exists is only touched after asking. What cannot be written is logged and counted, and
everything that can go wrong ends up in the report.

While a pass waits for its tasks, its workers take turns, whoever holds the gate of the
pool turns it, and lines of input come; all of these are events, in any order. With pause
support, lines that nobody waits for turn the gate, too.
-/

namespace ArchiveScout.Decode

open ArchiveScout.Console (Choice LineInput Prompt Transcript)
open ArchiveScout.File (Fault Path.fileName? Path.join Tree)

/-- How far a pass has come. -/
inductive PassState where
  | init
  | resolvingOutput
  | dispatching
  | awaiting
  | done
  | failed
  | skipped
deriving DecidableEq, Repr

/-- The word for a state. -/
def PassState.word : PassState → String
  | .init => "init"
  | .resolvingOutput => "resolving_output"
  | .dispatching => "dispatching"
  | .awaiting => "awaiting"
  | .done => "done"
  | .failed => "failed"
  | .skipped => "skipped"

/-- The result of a pass. -/
structure Report where
  archive : String
  outputDir : Option String := none
  state : PassState := .init
  dispatched : Nat := 0
  failed : Nat := 0
  error : Option String := none
deriving DecidableEq, Repr

/-- The report of a pass that failed. -/
def Report.fail (r : Report) (error : String) : Report :=
  { r with state := .failed, error := some error }

/-- What a program sees and changes: files, what has been shown, and input. -/
structure World where
  tree : Tree
  shown : Transcript := {}
  input : LineInput := {}

/-- Shows a line. -/
def World.write (w : World) (text : String) : World := { w with shown := w.shown.write text }

/-- Shows lines. -/
def World.writeAll (w : World) (texts : List String) : World :=
  { w with shown := w.shown.writeAll texts }

/-- The share of completed tasks in percent, in seven columns. -/
def progressText (completed total : Nat) : String :=
  let percent := if total = 0 then 100 else completed * 100 / total
  let text := s!"[{percent}%]"
  text ++ String.ofList (List.replicate (7 - text.length) ' ')

/-- The name of an archive, or its path where that has none. -/
def archiveName (archive : String) : String := (Path.fileName? archive).getD archive

/-- The output directory of an archive. -/
def outputDir (job : Job) (archive : String) : String :=
  Path.join job.outputRoot (archiveName archive ++ "_sources")

/-- Why an output directory cannot be used. -/
inductive OutputError where
  | clearing (path : String) (fault : Fault)
  | creating (path : String) (fault : Fault)
deriving DecidableEq, Repr

/-- The wording of an error. -/
def OutputError.message : OutputError → String
  | .clearing path fault => s!"Failed to overwrite: {path}: {fault.message}"
  | .creating path fault => s!"Failed to create output directory: {path}: {fault.message}"

/-- How archives are opened; a failure has its causes from the outermost on. -/
abbrev Provider := String → OpenOptions → Tree → Except (List String) Decompiler

/-- Archives of classes, whose texts come from tools. -/
def jarProvider (tools : Toolbox) (cfr : Cfr) : Provider := fun archive options t =>
  (openJar tools cfr archive options t).mapError Archive.ReadError.chain

/-- A decoder. -/
structure Decoder where
  job : Job
  pool : Pool Nat
  /-- Whether there is input whose lines may turn the gate. -/
  pauseInput : Bool := true
  /-- Whether lines of input turn the gate. -/
  monitoring : Bool := false

namespace Decoder

/-- A decoder that has not been used. -/
def ofJob (job : Job) (pauseInput : Bool := true) : Decoder :=
  { job, pool := { pauseSupport := job.pauseEnabled }, pauseInput }

/-- A line was heard: the gate is turned. -/
def hearLine (d : Decoder) (w : World) : Decoder × World :=
  let d := { d with pool := d.pool.toggle }
  (d, w.write (if d.pool.paused then "Paused..." else "Resumed..."))

/-- The listeners of some lines heard them. -/
def hear (d : Decoder) (w : World) : List Nat → Decoder × World
  | [] => (d, w)
  | _ :: heard =>
    let (d, w) := d.hearLine w
    d.hear w heard

/-- Whoever holds the gate turns it. -/
def turnGate (d : Decoder) (turn : GateTurn) : Decoder := { d with pool := d.pool.turn turn }

/-- A line comes to the input. -/
def hearInput (d : Decoder) (w : World) (text : String) : Decoder × World :=
  let (input, h) := w.input.feed text
  d.hear { w with input } h.heard

/-- From now on lines of input turn the gate, if the job wants it so and there is input. -/
def startMonitor (d : Decoder) (w : World) : Decoder × World :=
  if !d.job.pauseEnabled || !d.pauseInput || d.monitoring then (d, w)
  else
    let w := w.write ">> Press ENTER to pause or resume"
    let (input, h) := w.input.listen 0
    { d with monitoring := true }.hear { w with input } h.heard

/-- Makes the output directory. -/
def createDir (d : Decoder) (w : World) (dir : String) :
    Decoder × World × Except OutputError (Option String) :=
  match w.tree.makeDirectories dir with
  | (tree, none) => (d, { w with tree }, .ok (some dir))
  | (tree, some fault) => (d, { w with tree }, .error (.creating dir fault))

/-- Prepares the output directory of an archive. `none` when the archive is skipped. -/
def prepareDir (d : Decoder) (prompt : Prompt) (w : World) (archive : String) :
    Decoder × World × Except OutputError (Option String) :=
  let dir := outputDir d.job archive
  if !w.tree.exists? dir then d.createDir w dir
  else
    let (choice, heard, shown, input) := prompt.ask dir d.job.flatten w.shown w.input
    let (d, w) := d.hear { w with shown, input } heard
    match choice with
    | .overwrite =>
      let w := w.write "Cleaning..."
      match w.tree.removeDirectory dir with
      | .error fault => (d, w, .error (.clearing dir fault))
      | .ok tree => d.createDir { w with tree } dir
    | .merge => (d, w, .ok (if d.job.flatten then some dir else none))
    | .skip => (d, w, .ok none)

/-- The line for a saving that has come so far. -/
def savingLine (completed total : Nat) : String :=
  ">> Saving... " ++ progressText completed total

/-- What the tasks of a pass start with: files, and no paths handed out. -/
def space (d : Decoder) (t : Tree) (dir : String) : Workspace :=
  { tree := t, resolver := ⟨dir, d.job.flatten, []⟩ }

end Decoder

/-- What can happen while the tasks of a pass are awaited. -/
inductive Event where
  /-- A worker turns to a task. -/
  | work (task : Nat)
  | gate (turn : GateTurn)
  | line (text : String)
deriving DecidableEq, Repr

/-- A pass while its tasks are awaited. -/
structure Underway where
  decoder : Decoder
  world : World
  pass : Pass

namespace Underway

/-- All tasks have been dispatched. -/
def start (d : Decoder) (w : World) (dir : String) (tasks : List Task) : Underway :=
  { decoder := { d with pool := (List.range tasks.length).foldl Pool.dispatch d.pool }
    world := w
    pass := .start (d.space w.tree dir) tasks }

/-- Something happens. -/
def step (opened : Decompiler) (dir : String) (u : Underway) : Event → Underway
  | .work task =>
    let (pool, pass) := u.pass.turn opened dir u.decoder.pool task
    { u with decoder := { u.decoder with pool }, pass }
  | .gate turn => { u with decoder := u.decoder.turnGate turn }
  | .line text =>
    let (decoder, world) := u.decoder.hearInput u.world text
    { u with decoder, world }

/-- One thing after another happens. -/
def run (opened : Decompiler) (dir : String) (u : Underway) (events : List Event) : Underway :=
  events.foldl (step opened dir) u

end Underway

/-- Enough turns for tasks one after another, each to its end: through the gate, one for
each action, and one to be counted. -/
def lastTurns (tasks : List Task) : List Event :=
  (tasks.zipIdx.flatMap fun (task, i) => List.replicate (task.length + 2) i).map .work

namespace Decoder

/-- Dispatches the tasks of an opened archive and waits for them. First all the given
events happen, and then the workers go on as far as they can. If the gate is closed by
then the pass does not come back; it stays in the state of waiting. -/
def save (d : Decoder) (w : World) (report : Report) (dir : String) (opened : Decompiler)
    (events : List Event) : Report × Decoder × World :=
  let tasks := tasksOf d.job opened
  let report := { report with dispatched := tasks.length, state := .dispatching }
  let u := (Underway.start d w dir tasks).run opened dir (events ++ lastTurns tasks)
  let d := u.decoder
  let w := { u.world with tree := u.pass.space.tree }
  if !d.pool.hasPending then
    ({ report with state := .done }, d, w.write "Nothing to save.")
  else if !d.pool.isComplete then ({ report with state := .awaiting }, d, w)
  else
    let (completed, total) := d.pool.progress
    let failed := u.pass.space.failed
    let w := { w with shown := w.shown.clearStatus }
    let w := w.write (savingLine completed total)
    let w := if failed = 0 then w
      else w.write s!"!! {failed} item(s) failed, see {failureLogPath dir}"
    ({ report with failed, state := .done }, { d with pool := d.pool.reset }, w)

/-- Decodes one archive, while some events happen. -/
def decode (d : Decoder) (provider : Provider) (prompt : Prompt) (w : World)
    (archive : String) (events : List Event := []) : Report × Decoder × World :=
  let report : Report := { archive }
  let skipping := s!"!!--> Skipping: {archiveName archive}"
  match d.prepareDir prompt w archive with
  | (d, w, .ok none) => ({ report with state := .skipped }, d, w.write skipping)
  | (d, w, .error e) =>
    (report.fail e.message, d, (w.write s!"!! {e.message}").write skipping)
  | (d, w, .ok (some dir)) =>
    let report := { report with outputDir := some dir }
    let (d, w) := d.startMonitor w
    let w := w.write "Preparing..."
    match provider archive d.job.openOptions w.tree with
    | .error causes =>
      let error := ": ".intercalate (s!"Failed to open archive: {archive}" :: causes)
      (report.fail error, d, w.write s!"Failed: {error}")
    | .ok opened => d.save w report dir opened events

/-- The decoder with another selection of classes. -/
def withSourceFilter (d : Decoder) (filter : SourceFilter) : Decoder :=
  { d with job := { d.job with sourceFilter := filter } }

end Decoder

end ArchiveScout.Decode
