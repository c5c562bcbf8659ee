import ArchiveScout.Proofs.Decode.Deed
import ArchiveScout.Proofs.Decode.Underway
import ArchiveScout.Proofs.File.Tree

/-!
# ArchiveScout.Proofs.Decode.Decoder

**Passes that come to their ends.** A decoder is `Ready` for an archive when it is new, or when
the passes before are over; its pool is then idle. A pass that is done has prepared the output
directory and opened the archive, and what is in its report and in its files comes from the
run of its tasks.

`prepareDir_of_new`, `prepareDir_of_exists` and `saved` say all that the parts of a pass can come
to, and `Decoded` lists what a pass as a whole can; whatever else is known of passes is read off
them.
-/

namespace ArchiveScout.Decode

open ArchiveScout.Console (Choice Prompt)
open ArchiveScout.File
open ArchiveScout.File.Tree (Stands)

/-! ### Decoders -/

theorem World.tree_write (w : World) (text : String) : (w.write text).tree = w.tree := rfl

namespace Decoder

variable {dec dec' : Decoder} {provider : Provider} {prompt : Prompt} {w w' : World}
  {archive dir : String} {events : List Event} {report : Report} {opened : Decompiler}

theorem hear_spec (dec : Decoder) (w : World) (heard : List Nat) :
    (dec.hear w heard).1.job = dec.job ∧ (dec.hear w heard).2.tree = w.tree ∧
      (dec.pool.Idle → (dec.hear w heard).1.pool.Idle) := by
  obtain ⟨⟨paused, hdec⟩, htree⟩ := dec.exists_hear w heard
  rw [hdec]
  exact ⟨rfl, htree, fun h => h.gate paused⟩

theorem startMonitor_spec (dec : Decoder) (w : World) :
    (dec.startMonitor w).1.job = dec.job ∧ (dec.startMonitor w).2.tree = w.tree ∧
      (dec.pool.Idle → (dec.startMonitor w).1.pool.Idle) := by
  rw [startMonitor]
  split
  · exact ⟨rfl, rfl, id⟩
  · exact hear_spec _ _ _

theorem outputDir_ne_empty (job : Job) (archive : String) : outputDir job archive ≠ "" := by
  refine Path.join_ne_empty fun h => ?_
  have hlist := congrArg String.toList h
  simp at hlist

/-- An output directory that is made. -/
def made (dir : String) (t : Tree) : Tree × Except OutputError (Option String) :=
  match t.makeDirectories dir with
  | (t, none) => (t, .ok (some dir))
  | (t, some fault) => (t, .error (.creating dir fault))

/-- What preparing an output directory comes to, by the answer about one that exists. -/
def prepared (dir : String) (flatten : Bool) (choice : Choice) (t : Tree) :
    Tree × Except OutputError (Option String) :=
  if t.exists? dir then
    match choice with
    | .overwrite =>
        match t.removeDirectory dir with
        | .error fault => (t, .error (.clearing dir fault))
        | .ok t => made dir t
    | .merge => (t, .ok (if flatten then some dir else none))
    | .skip => (t, .ok none)
  else made dir t

theorem createDir_eq (dec : Decoder) (w : World) (dir : String) :
    dec.createDir w dir = (dec, { w with tree := (made dir w.tree).1 }, (made dir w.tree).2) := by
  rw [createDir, made]
  obtain ⟨t, fault⟩ := w.tree.makeDirectories dir
  cases fault <;> rfl

theorem stands_of_made {t : Tree} {found : String} (h : (made dir t).2 = .ok (some found)) :
    found = dir ∧ (dir ≠ "" → ∃ loc, (made dir t).1.Stands dir loc) := by
  rw [made] at h ⊢
  split at h
  · rename_i t' hmade
    obtain rfl := Option.some.inj (Except.ok.inj h)
    exact ⟨rfl, fun hne => Tree.stands_of_makeDirectories hne hmade⟩
  · exact absurd h (by simp)

/-- A directory that was prepared stands. -/
theorem stands_of_prepared {t : Tree} {flatten : Bool} {choice : Choice} {found : String}
    (h : (prepared dir flatten choice t).2 = .ok (some found)) :
    found = dir ∧ (dir ≠ "" → ∃ loc, (prepared dir flatten choice t).1.Stands dir loc) := by
  unfold prepared at h ⊢
  split at h
  · rename_i hexists
    rw [if_pos hexists]
    cases choice with
    | overwrite =>
        dsimp only at h ⊢
        split at h
        · exact absurd h (by simp)
        · exact stands_of_made h
    | merge =>
        obtain ⟨loc, node, hlocate⟩ := Tree.exists?_iff.mp hexists
        cases flatten with
        | true =>
            obtain rfl := Option.some.inj (Except.ok.inj h)
            exact ⟨rfl, fun _ => ⟨loc, Tree.stands_of_locate hlocate⟩⟩
        | false => exact absurd h (by simp)
    | skip => exact absurd h (by simp)
  · rename_i hexists
    rw [if_neg hexists]
    exact stands_of_made h

theorem closed_prepared {t : Tree} (hclosed : t.Closed) (flatten : Bool) (choice : Choice) :
    (prepared dir flatten choice t).1.Closed := by
  have hmade : ∀ {t : Tree}, t.Closed → (made dir t).1.Closed := by
    intro t hclosed
    have hafter := hclosed.makeDirectoriesOf (Path.ancestors dir)
    rw [made, Tree.makeDirectories]
    generalize t.makeDirectoriesOf (Path.ancestors dir) = result at hafter
    obtain ⟨t', fault⟩ := result
    cases fault <;> exact hafter
  unfold prepared
  split
  · cases choice with
    | overwrite =>
        dsimp only
        split
        · exact hclosed
        · rename_i hremoved
          exact hmade (hclosed.removeDirectory hremoved)
    | merge => exact hclosed
    | skip => exact hclosed
  · exact hmade hclosed

/-- What a decoder is answered about its output directory. -/
def answer (dec : Decoder) (prompt : Prompt) (w : World) (archive : String) : Choice :=
  (prompt.ask (outputDir dec.job archive) dec.job.flatten w.shown w.input).1

/-- The decoder and the world behind the answer, with the lines that were heard meanwhile. -/
def asked (dec : Decoder) (prompt : Prompt) (w : World) (archive : String) : Decoder × World :=
  let (_, heard, shown, input) :=
    prompt.ask (outputDir dec.job archive) dec.job.flatten w.shown w.input
  dec.hear { w with shown, input } heard

theorem asked_spec (dec : Decoder) (prompt : Prompt) (w : World) (archive : String) :
    (dec.asked prompt w archive).1.job = dec.job ∧
      (dec.asked prompt w archive).2.tree = w.tree ∧
      (dec.pool.Idle → (dec.asked prompt w archive).1.pool.Idle) := by
  rw [asked]
  exact hear_spec _ _ _

/-- Clearing is announced. -/
def announced (w : World) : Choice → World
  | .overwrite => w.write "Cleaning..."
  | .merge | .skip => w

/-- A directory that is not there is made. -/
theorem prepareDir_of_new (prompt : Prompt)
    (hnew : w.tree.exists? (outputDir dec.job archive) = false) :
    dec.prepareDir prompt w archive =
      (dec, { w with tree := (made (outputDir dec.job archive) w.tree).1 },
        (made (outputDir dec.job archive) w.tree).2) := by
  rw [prepareDir, if_pos (by simp [hnew]), createDir_eq]

/-- What becomes of a directory that is there depends on the answer. -/
theorem prepareDir_of_exists (prompt : Prompt)
    (hexists : w.tree.exists? (outputDir dec.job archive) = true) :
    dec.prepareDir prompt w archive =
      ((dec.asked prompt w archive).1,
        { announced (dec.asked prompt w archive).2 (dec.answer prompt w archive) with
          tree := (prepared (outputDir dec.job archive) dec.job.flatten
            (dec.answer prompt w archive) w.tree).1 },
        (prepared (outputDir dec.job archive) dec.job.flatten (dec.answer prompt w archive)
          w.tree).2) := by
  obtain ⟨hjob, htree, -⟩ := asked_spec dec prompt w archive
  unfold asked at hjob htree ⊢
  unfold prepareDir prepared answer
  rw [if_neg (by simp [hexists]), if_pos hexists]
  generalize prompt.ask (outputDir dec.job archive) dec.job.flatten w.shown w.input = answered
    at hjob htree ⊢
  obtain ⟨choice, heard, shown, input⟩ := answered
  dsimp only at hjob htree ⊢
  generalize dec.hear { w with shown, input } heard = result at hjob htree ⊢
  obtain ⟨dec', w'⟩ := result
  dsimp only at hjob htree ⊢
  cases choice with
  | overwrite =>
      dsimp only [announced]
      rw [World.tree_write, htree]
      cases w.tree.removeDirectory (outputDir dec.job archive) with
      | error fault => rw [← htree, ← World.tree_write w' "Cleaning..."]
      | ok t => exact createDir_eq _ _ _
  | merge => rw [hjob, ← htree]; rfl
  | skip => rw [← htree]; rfl

/-- Preparing leaves the decoder as it is but for its gate, and what becomes of the files depends
only on the answer. -/
theorem prepareDir_spec (dec : Decoder) (prompt : Prompt) (w : World) (archive : String) :
    (dec.prepareDir prompt w archive).1.job = dec.job ∧
      (dec.pool.Idle → (dec.prepareDir prompt w archive).1.pool.Idle) ∧
      (dec.prepareDir prompt w archive).2.1.tree = (prepared (outputDir dec.job archive)
        dec.job.flatten (dec.answer prompt w archive) w.tree).1 ∧
      (dec.prepareDir prompt w archive).2.2 = (prepared (outputDir dec.job archive)
        dec.job.flatten (dec.answer prompt w archive) w.tree).2 := by
  cases hexists : w.tree.exists? (outputDir dec.job archive) with
  | false =>
      unfold prepared
      rw [prepareDir_of_new prompt hexists, if_neg (by simp [hexists])]
      dsimp only
      exact ⟨rfl, id, rfl, rfl⟩
  | true =>
      obtain ⟨hjob, -, hidle⟩ := asked_spec dec prompt w archive
      rw [prepareDir_of_exists prompt hexists]
      dsimp only
      exact ⟨hjob, hidle, rfl, rfl⟩

/-! ### Passes -/

/-- The files of a pass before its first deed. -/
@[irreducible]
def preparedTree (dec : Decoder) (prompt : Prompt) (w : World) (archive : String) : Tree :=
  (dec.prepareDir prompt w archive).2.1.tree

theorem preparedTree_eq (dec : Decoder) (prompt : Prompt) (w : World) (archive : String) :
    dec.preparedTree prompt w archive = (prepared (outputDir dec.job archive) dec.job.flatten
      (dec.answer prompt w archive) w.tree).1 := by
  unfold preparedTree
  exact (prepareDir_spec dec prompt w archive).2.2.1

theorem prepared_eq (dec : Decoder) (prompt : Prompt) (w : World) (archive : String) :
    prepared (outputDir dec.job archive) dec.job.flatten (dec.answer prompt w archive) w.tree =
      (dec.preparedTree prompt w archive, (dec.prepareDir prompt w archive).2.2) := by
  obtain ⟨-, -, -, hprepared⟩ := prepareDir_spec dec prompt w archive
  rw [preparedTree_eq, hprepared]

/-- A pass that gets a directory gets that of its archive, and it stands. -/
theorem stands_of_prepareDir
    (hmade : (dec.prepareDir prompt w archive).2.2 = .ok (some dir)) :
    dir = outputDir dec.job archive ∧
      ∃ loc, (dec.preparedTree prompt w archive).Stands dir loc := by
  have hprepared := dec.prepared_eq prompt w archive
  have hfound : (prepared (outputDir dec.job archive) dec.job.flatten
      (dec.answer prompt w archive) w.tree).2 = .ok (some dir) := by rw [hprepared, hmade]
  obtain ⟨rfl, hstands⟩ := stands_of_prepared hfound
  rw [hprepared] at hstands
  exact ⟨rfl, hstands (outputDir_ne_empty _ _)⟩

/-- What the tasks of a pass start with. -/
def passStart (dec : Decoder) (prompt : Prompt) (w : World) (archive : String) : Workspace :=
  dec.space (dec.preparedTree prompt w archive) (outputDir dec.job archive)

@[simp] theorem passStart_tree (dec : Decoder) (prompt : Prompt) (w : World) (archive : String) :
    (dec.passStart prompt w archive).tree = dec.preparedTree prompt w archive := rfl

@[simp] theorem passStart_failed (dec : Decoder) (prompt : Prompt) (w : World)
    (archive : String) : (dec.passStart prompt w archive).failed = 0 := rfl

@[simp] theorem passStart_resolver (dec : Decoder) (prompt : Prompt) (w : World)
    (archive : String) : (dec.passStart prompt w archive).resolver =
      ⟨outputDir dec.job archive, dec.job.flatten, []⟩ := rfl

/-- The decoder and the world with which an archive is opened. -/
def opening (dec : Decoder) (prompt : Prompt) (w : World) (archive : String) : Decoder × World :=
  let (dec, w, _) := dec.prepareDir prompt w archive
  let (dec, w) := dec.startMonitor w
  (dec, w.write "Preparing...")

theorem opening_spec (dec : Decoder) (prompt : Prompt) (w : World) (archive : String) :
    (dec.opening prompt w archive).1.job = dec.job ∧
      (dec.pool.Idle → (dec.opening prompt w archive).1.pool.Idle) ∧
      (dec.opening prompt w archive).2.tree = dec.preparedTree prompt w archive := by
  obtain ⟨hjob, hpool, -, -⟩ := prepareDir_spec dec prompt w archive
  unfold opening preparedTree
  generalize dec.prepareDir prompt w archive = preparing at hjob hpool ⊢
  obtain ⟨dec₁, w₁, made⟩ := preparing
  obtain ⟨hjob', htree, hpool'⟩ := startMonitor_spec dec₁ w₁
  exact ⟨hjob'.trans hjob, fun hidle => hpool' (hpool hidle), htree⟩

/-- A pass over an opened archive, when its tasks have been dispatched. -/
def dispatching (dec : Decoder) (prompt : Prompt) (w : World) (archive : String)
    (opened : Decompiler) : Underway :=
  .start (dec.opening prompt w archive).1 (dec.opening prompt w archive).2
    (outputDir dec.job archive) (tasksOf dec.job opened)

/-- The events of a pass over an opened archive, with the last turns of its workers. -/
def passEvents (dec : Decoder) (opened : Decompiler) (events : List Event) : List Event :=
  events ++ lastTurns (tasksOf dec.job opened)

/-- A pass over an opened archive, when everything has happened. -/
@[irreducible]
def waited (dec : Decoder) (prompt : Prompt) (w : World) (archive : String)
    (opened : Decompiler) (events : List Event) : Underway :=
  (dec.dispatching prompt w archive opened).run opened (outputDir dec.job archive)
    (dec.passEvents opened events)

/-- What is done in a pass over an opened archive. -/
def passDeeds (dec : Decoder) (prompt : Prompt) (w : World) (archive : String)
    (opened : Decompiler) (events : List Event) : List Deed :=
  let u := dec.dispatching prompt w archive opened
  let dir := outputDir dec.job archive
  u.pass.deeds opened dir (u.order opened dir (dec.passEvents opened events))

/-- The lines that are logged in a pass over an opened archive. -/
def passRecords (dec : Decoder) (prompt : Prompt) (w : World) (archive : String)
    (opened : Decompiler) (events : List Event) : List String :=
  (dec.passDeeds prompt w archive opened events).filterMap
    (Deed.record? opened (outputDir dec.job archive))

/-- What the tasks of a pass over an opened archive leave behind. -/
def passEnd (dec : Decoder) (prompt : Prompt) (w : World) (archive : String)
    (opened : Decompiler) (events : List Event) : Workspace :=
  (dec.waited prompt w archive opened events).pass.space

theorem pass_dispatching (dec : Decoder) (prompt : Prompt) (w : World) (archive : String)
    (opened : Decompiler) : (dec.dispatching prompt w archive opened).pass =
      .start (dec.passStart prompt w archive) (tasksOf dec.job opened) := by
  obtain ⟨hjob, -, htree⟩ := opening_spec dec prompt w archive
  rw [passStart, dispatching, Underway.start, space, space, hjob, htree]

/-- A pass that has come to its end leaves a trace. -/
theorem trace_pass
    (hover : ∀ s ∈ (dec.waited prompt w archive opened events).pass.strands, s.todo = []) :
    Trace opened (outputDir dec.job archive) (tasksOf dec.job opened)
      (dec.passStart prompt w archive) (dec.passDeeds prompt w archive opened events)
      (dec.passEnd prompt w archive opened events) := by
  rw [waited, Underway.pass_run, pass_dispatching] at hover
  rw [passEnd, passDeeds, waited, Underway.pass_run, pass_dispatching]
  exact trace_run _ _ _ hover

/-- Without tasks nothing is done. -/
theorem passEnd_of_nothing (hnone : tasksOf dec.job opened = [])
    (hover : ∀ s ∈ (dec.waited prompt w archive opened events).pass.strands, s.todo = []) :
    dec.passEnd prompt w archive opened events = dec.passStart prompt w archive := by
  have htrace := trace_pass hover
  rw [hnone] at htrace
  exact htrace.eq_of_nil

/-- A pass that opened an archive and came to its end. -/
structure Passed (dec : Decoder) (provider : Provider) (prompt : Prompt) (w : World)
    (archive : String) (events : List Event) (opened : Decompiler) (report : Report) (w' : World) :
    Prop where
  source : provider archive dec.job.openOptions (dec.preparedTree prompt w archive) = .ok opened
  stands : ∃ loc, (dec.preparedTree prompt w archive).Stands (outputDir dec.job archive) loc
  place : report.outputDir = some (outputDir dec.job archive)
  dispatched : report.dispatched = (tasksOf dec.job opened).length
  trace : Trace opened (outputDir dec.job archive) (tasksOf dec.job opened)
    (dec.passStart prompt w archive) (dec.passDeeds prompt w archive opened events)
    (dec.passEnd prompt w archive opened events)
  failed : report.failed = (dec.passEnd prompt w archive opened events).failed
  tree : w'.tree = (dec.passEnd prompt w archive opened events).tree

/-! ### Saving -/

/-- The world behind a saving that came to its end. -/
def savedWorld (w : World) (dir : String) (total : Nat) (space : Workspace) : World :=
  let w : World := { w with tree := space.tree, shown := w.shown.clearStatus }
  let w := w.write (savingLine total total)
  if space.failed = 0 then w
  else w.write s!"!! {space.failed} item(s) failed, see {failureLogPath dir}"

theorem tree_savedWorld (w : World) (dir : String) (total : Nat) (space : Workspace) :
    (savedWorld w dir total space).tree = space.tree := by
  rw [savedWorld]
  split
  · rfl
  · rfl

/-- All that saving can come to, when everything has happened: there was nothing to save, all tasks
have run to their ends, or the gate is closed and the wait goes on. -/
inductive Saved (report : Report) (dir : String) (tasks : List Task) (u : Underway) :
    Report × Decoder × World → Prop
  | nothing (hnone : tasks = []) (hidle : u.decoder.pool.Idle) (hspace : u.pass.strands = []) :
      Saved report dir tasks u
        ({ report with dispatched := 0, state := .done }, u.decoder,
          { u.world with tree := u.pass.space.tree }.write "Nothing to save.")
  | done (hsome : tasks ≠ []) (hidle : u.decoder.pool.reset.Idle)
      (hover : ∀ s ∈ u.pass.strands, s.todo = []) :
      Saved report dir tasks u
        ({ report with
            dispatched := tasks.length, failed := u.pass.space.failed, state := .done },
          { u.decoder with pool := u.decoder.pool.reset },
          savedWorld u.world dir tasks.length u.pass.space)
  | held (hclosed : u.decoder.pool.isOpen = false) :
      Saved report dir tasks u
        ({ report with dispatched := tasks.length, state := .awaiting }, u.decoder,
          { u.world with tree := u.pass.space.tree })

/-- What saving comes to, where the pool was idle. -/
theorem saved (hidle : dec.pool.Idle) (w : World) (report : Report) (dir : String)
    (opened : Decompiler) (events : List Event) :
    Saved report dir (tasksOf dec.job opened)
      ((Underway.start dec w dir (tasksOf dec.job opened)).run opened dir
        (dec.passEvents opened events))
      (dec.save w report dir opened events) := by
  have hstart : Awaited (tasksOf dec.job opened)
      (Underway.start dec w dir (tasksOf dec.job opened)).decoder.pool
      (Underway.start dec w dir (tasksOf dec.job opened)).pass := .start hidle _ _
  have hrun : ∀ events, Awaited (tasksOf dec.job opened)
      ((Underway.start dec w dir (tasksOf dec.job opened)).run opened dir events).decoder.pool
      ((Underway.start dec w dir (tasksOf dec.job opened)).run opened dir events).pass :=
    Underway.awaited_run hstart
  have hawaited := hrun (dec.passEvents opened events)
  have hopen : (((Underway.start dec w dir (tasksOf dec.job opened)).run opened dir
      (dec.passEvents opened events)).decoder.pool.isComplete = false →
      ((Underway.start dec w dir (tasksOf dec.job opened)).run opened dir
        (dec.passEvents opened events)).decoder.pool.isOpen = false) := by
    rw [passEvents, Underway.run_append, Underway.isOpen_lastTurns]
    intro hmore
    by_contra hgate
    rw [Bool.not_eq_false] at hgate
    exact absurd (hmore.symm.trans (Underway.complete_of_open (hrun events) hgate)) (by simp)
  rw [save]
  change Saved _ _ _ _ (if _ then _ else _)
  rw [← passEvents]
  generalize (Underway.start dec w dir (tasksOf dec.job opened)).run opened dir
    (dec.passEvents opened events) = u at hawaited hopen ⊢
  have hdispatched := hawaited.dispatched
  by_cases hnone : tasksOf dec.job opened = []
  · rw [hnone] at hdispatched hawaited ⊢
    rw [if_pos (by simp [Pool.hasPending, hdispatched])]
    refine .nothing rfl hawaited.idle_of_nil ?_
    exact List.eq_nil_of_length_eq_zero hawaited.strands
  · have hpending : u.decoder.pool.hasPending = true := by
      simpa [Pool.hasPending, hdispatched, List.length_pos_iff] using hnone
    rw [if_neg (by simp [hpending])]
    cases hcomplete : u.decoder.pool.isComplete with
    | false => exact .held (hopen hcomplete)
    | true =>
        obtain ⟨-, -, hcompleted, hover⟩ := hawaited.of_complete hcomplete
        have hprogress : u.decoder.pool.progress =
            ((tasksOf dec.job opened).length, (tasksOf dec.job opened).length) := by
          rw [Pool.progress, hcompleted, hdispatched]
        rw [hprogress]
        exact .done hnone (hawaited.idle_reset hcomplete) hover

/-! ### Parts of passes -/

theorem made_tree (dir : String) (t : Tree) : (made dir t).1 = (t.makeDirectories dir).1 := by
  rw [made]
  obtain ⟨t', fault⟩ := t.makeDirectories dir
  cases fault <;> rfl

/-- Nothing is cleared where the answer is not to overwrite. -/
theorem prepared_of_not_overwrite {dir : String} {t : Tree} {choice : Choice} (flatten : Bool)
    (hexists : t.exists? dir = true) (hanswer : choice ≠ .overwrite) :
    prepared dir flatten choice t =
      (t, .ok (if choice = .merge ∧ flatten = true then some dir else none)) := by
  unfold prepared
  rw [if_pos hexists]
  cases choice with
  | overwrite => exact absurd rfl hanswer
  | merge => simp
  | skip => simp

/-- Where the answer is not to overwrite, the directory is reused or the archive is skipped. -/
theorem prepareDir_of_not_overwrite
    (hexists : w.tree.exists? (outputDir dec.job archive) = true)
    (hanswer : dec.answer prompt w archive ≠ .overwrite) :
    dec.preparedTree prompt w archive = w.tree ∧
    (dec.prepareDir prompt w archive).2.2 =
      .ok (if dec.answer prompt w archive = .merge ∧ dec.job.flatten = true
        then some (outputDir dec.job archive) else none) := by
  obtain ⟨-, -, -, hprepared⟩ := dec.prepareDir_spec prompt w archive
  rw [preparedTree_eq, hprepared, prepared_of_not_overwrite dec.job.flatten hexists hanswer]
  exact ⟨rfl, rfl⟩

/-- A pass that is skipped does not open its archive. -/
theorem decode_of_skipped (hskip : (dec.prepareDir prompt w archive).2.2 = .ok none)
    (provider : Provider) (events : List Event) :
    dec.decode provider prompt w archive events =
      ({ archive, state := .skipped }, (dec.prepareDir prompt w archive).1,
        (dec.prepareDir prompt w archive).2.1.write s!"!!--> Skipping: {archiveName archive}") := by
  unfold decode
  generalize dec.prepareDir prompt w archive = preparing at hskip ⊢
  obtain ⟨dec₁, w₁, made⟩ := preparing
  obtain rfl : made = .ok none := hskip
  rfl

/-- A pass whose output directory cannot be used does not open its archive. -/
theorem decode_of_refused {e : OutputError}
    (hrefused : (dec.prepareDir prompt w archive).2.2 = .error e) (provider : Provider)
    (events : List Event) :
    dec.decode provider prompt w archive events =
      (Report.fail { archive } e.message, (dec.prepareDir prompt w archive).1,
        ((dec.prepareDir prompt w archive).2.1.write s!"!! {e.message}").write
          s!"!!--> Skipping: {archiveName archive}") := by
  unfold decode
  generalize dec.prepareDir prompt w archive = preparing at hrefused ⊢
  obtain ⟨dec₁, w₁, made⟩ := preparing
  obtain rfl : made = .error e := hrefused
  rfl

/-- What is reported of an archive that cannot be opened. -/
def openError (archive : String) (causes : List String) : String :=
  ": ".intercalate (s!"Failed to open archive: {archive}" :: causes)

/-- A pass whose archive cannot be opened. -/
theorem decode_of_unopened {causes : List String}
    (hplace : (dec.prepareDir prompt w archive).2.2 = .ok (some dir))
    (hsource : provider archive dec.job.openOptions (dec.preparedTree prompt w archive) =
      .error causes) (events : List Event) :
    dec.decode provider prompt w archive events =
      (Report.fail { archive, outputDir := some dir } (openError archive causes),
        (dec.opening prompt w archive).1,
        (dec.opening prompt w archive).2.write s!"Failed: {openError archive causes}") := by
  obtain ⟨hjob, -, htree⟩ := opening_spec dec prompt w archive
  rw [← htree, ← hjob] at hsource
  unfold decode
  unfold opening at hsource ⊢
  generalize dec.prepareDir prompt w archive = preparing at hplace hsource ⊢
  obtain ⟨dec₁, w₁, made⟩ := preparing
  obtain rfl : made = .ok (some dir) := hplace
  dsimp only at hsource ⊢
  rw [hsource]
  rfl

/-- A pass whose archive is opened saves what is in it. -/
theorem decode_of_opened {opened : Decompiler}
    (hplace : (dec.prepareDir prompt w archive).2.2 = .ok (some dir))
    (hsource : provider archive dec.job.openOptions (dec.preparedTree prompt w archive) =
      .ok opened) (events : List Event) :
    dec.decode provider prompt w archive events =
      (dec.opening prompt w archive).1.save (dec.opening prompt w archive).2
        { archive, outputDir := some dir } dir opened events := by
  obtain ⟨hjob, -, htree⟩ := opening_spec dec prompt w archive
  rw [← htree, ← hjob] at hsource
  unfold decode
  unfold opening at hsource ⊢
  generalize dec.prepareDir prompt w archive = preparing at hplace hsource ⊢
  obtain ⟨dec₁, w₁, made⟩ := preparing
  obtain rfl : made = .ok (some dir) := hplace
  dsimp only at hsource ⊢
  rw [hsource]

/-! ### Passes as a whole -/

/-- The report of a pass with a prepared directory, but for its failures. -/
def reported (provider : Provider) (job : Job) (archive : String) :
    Tree × Except OutputError (Option String) → Report
  | (_, .error e) => Report.fail { archive } e.message
  | (_, .ok none) => { archive, state := .skipped }
  | (t, .ok (some dir)) =>
      match provider archive job.openOptions t with
      | .error causes =>
          Report.fail { archive, outputDir := some dir }
            (": ".intercalate (s!"Failed to open archive: {archive}" :: causes))
      | .ok opened =>
          { archive, outputDir := some dir, state := .done
            dispatched := (tasksOf job opened).length }

/-- All that a pass can come to: its directory is refused or it is skipped, its archive cannot be
opened or has nothing to save in it, all tasks run to their ends, or the wait does not end. -/
inductive Decoded (dec : Decoder) (provider : Provider) (prompt : Prompt) (w : World)
    (archive : String) (events : List Event) : Report × Decoder × World → Prop
  | refused (e : OutputError) (hmade : (dec.prepareDir prompt w archive).2.2 = .error e) :
      Decoded dec provider prompt w archive events
        (Report.fail { archive } e.message, (dec.prepareDir prompt w archive).1,
          ((dec.prepareDir prompt w archive).2.1.write s!"!! {e.message}").write
            s!"!!--> Skipping: {archiveName archive}")
  | skipped (hmade : (dec.prepareDir prompt w archive).2.2 = .ok none) :
      Decoded dec provider prompt w archive events
        ({ archive, state := .skipped }, (dec.prepareDir prompt w archive).1,
          (dec.prepareDir prompt w archive).2.1.write s!"!!--> Skipping: {archiveName archive}")
  | unopened (causes : List String)
      (hmade : (dec.prepareDir prompt w archive).2.2 = .ok (some (outputDir dec.job archive)))
      (hsource : provider archive dec.job.openOptions (dec.preparedTree prompt w archive) =
        .error causes) :
      Decoded dec provider prompt w archive events
        (Report.fail { archive, outputDir := some (outputDir dec.job archive) }
            (openError archive causes),
          (dec.opening prompt w archive).1,
          (dec.opening prompt w archive).2.write s!"Failed: {openError archive causes}")
  | nothing (opened : Decompiler)
      (hmade : (dec.prepareDir prompt w archive).2.2 = .ok (some (outputDir dec.job archive)))
      (hsource : provider archive dec.job.openOptions (dec.preparedTree prompt w archive) =
        .ok opened)
      (hnone : tasksOf dec.job opened = [])
      (hidle : (dec.waited prompt w archive opened events).decoder.pool.Idle)
      (hover : ∀ s ∈ (dec.waited prompt w archive opened events).pass.strands, s.todo = []) :
      Decoded dec provider prompt w archive events
        ({ archive, outputDir := some (outputDir dec.job archive), state := .done },
          (dec.waited prompt w archive opened events).decoder,
          { (dec.waited prompt w archive opened events).world with
            tree := (dec.passEnd prompt w archive opened events).tree }.write "Nothing to save.")
  | done (opened : Decompiler)
      (hmade : (dec.prepareDir prompt w archive).2.2 = .ok (some (outputDir dec.job archive)))
      (hsource : provider archive dec.job.openOptions (dec.preparedTree prompt w archive) =
        .ok opened)
      (hsome : tasksOf dec.job opened ≠ [])
      (hidle : (dec.waited prompt w archive opened events).decoder.pool.reset.Idle)
      (hover : ∀ s ∈ (dec.waited prompt w archive opened events).pass.strands, s.todo = []) :
      Decoded dec provider prompt w archive events
        ({ archive, outputDir := some (outputDir dec.job archive), state := .done
           dispatched := (tasksOf dec.job opened).length
           failed := (dec.passEnd prompt w archive opened events).failed },
          { (dec.waited prompt w archive opened events).decoder with
            pool := (dec.waited prompt w archive opened events).decoder.pool.reset },
          savedWorld (dec.waited prompt w archive opened events).world (outputDir dec.job archive)
            (tasksOf dec.job opened).length (dec.passEnd prompt w archive opened events))
  | held (opened : Decompiler)
      (hmade : (dec.prepareDir prompt w archive).2.2 = .ok (some (outputDir dec.job archive)))
      (hsource : provider archive dec.job.openOptions (dec.preparedTree prompt w archive) =
        .ok opened)
      (hclosed : (dec.waited prompt w archive opened events).decoder.pool.isOpen = false) :
      Decoded dec provider prompt w archive events
        ({ archive, outputDir := some (outputDir dec.job archive), state := .awaiting
           dispatched := (tasksOf dec.job opened).length },
          (dec.waited prompt w archive opened events).decoder,
          { (dec.waited prompt w archive opened events).world with
            tree := (dec.passEnd prompt w archive opened events).tree })

/-- What a pass comes to, where the pool was idle. -/
theorem decoded (hidle : dec.pool.Idle) (provider : Provider) (prompt : Prompt) (w : World)
    (archive : String) (events : List Event) :
    Decoded dec provider prompt w archive events (dec.decode provider prompt w archive events) := by
  cases hmade : (dec.prepareDir prompt w archive).2.2 with
  | error e =>
      rw [decode_of_refused hmade]
      exact .refused e hmade
  | ok found =>
      cases found with
      | none =>
          rw [decode_of_skipped hmade]
          exact .skipped hmade
      | some dir =>
          obtain ⟨rfl, -⟩ := stands_of_prepareDir hmade
          cases hsource : provider archive dec.job.openOptions
              (dec.preparedTree prompt w archive) with
          | error causes =>
              rw [decode_of_unopened hmade hsource]
              exact .unopened causes hmade hsource
          | ok opened =>
              obtain ⟨hjob, hpool, -⟩ := opening_spec dec prompt w archive
              have hsaved := saved (hpool hidle) (dec.opening prompt w archive).2
                { archive, outputDir := some (outputDir dec.job archive) }
                (outputDir dec.job archive) opened events
              rw [decode_of_opened hmade hsource]
              rw [passEvents, hjob, ← dispatching, ← passEvents, ← waited] at hsaved
              generalize (dec.opening prompt w archive).1.save _ _ _ opened events = result
                at hsaved ⊢
              cases hsaved with
              | nothing hnone hidle hspace =>
                  exact .nothing opened hmade hsource hnone hidle (by simp [hspace])
              | done hsome hidle hover => exact .done opened hmade hsource hsome hidle hover
              | held hclosed => exact .held opened hmade hsource hclosed

/-- What decoding comes to, where the pool was idle: it waits for ever, or its report depends only
on the answer about the output directory, and on what was done. -/
theorem decode_spec (hidle : dec.pool.Idle) (provider : Provider) (prompt : Prompt) (w : World)
    (archive : String) (events : List Event)
    (hend : (dec.decode provider prompt w archive events).1.state ≠ .awaiting) :
    (dec.decode provider prompt w archive events).2.1.pool.Idle ∧
    (dec.decode provider prompt w archive events).1 =
      { reported provider dec.job archive (prepared (outputDir dec.job archive) dec.job.flatten
          (dec.answer prompt w archive) w.tree) with
        failed := (dec.decode provider prompt w archive events).1.failed } ∧
    ((dec.decode provider prompt w archive events).1.state = .done → ∃ opened,
      Passed dec provider prompt w archive events opened
        (dec.decode provider prompt w archive events).1
        (dec.decode provider prompt w archive events).2.2) := by
  obtain ⟨-, hpool, -, -⟩ := prepareDir_spec dec prompt w archive
  obtain ⟨-, hpool', htree⟩ := opening_spec dec prompt w archive
  have hdecoded := decoded hidle provider prompt w archive events
  rw [prepared_eq]
  generalize dec.decode provider prompt w archive events = result at hdecoded hend ⊢
  cases hdecoded with
  | refused e hmade =>
      rw [hmade, reported]
      dsimp only
      exact ⟨hpool hidle, rfl, fun h => absurd h (by simp [Report.fail])⟩
  | skipped hmade =>
      rw [hmade, reported]
      dsimp only
      exact ⟨hpool hidle, rfl, fun h => absurd h (by simp)⟩
  | unopened causes hmade hsource =>
      rw [hmade, reported, hsource]
      dsimp only
      exact ⟨hpool' hidle, rfl, fun h => absurd h (by simp [Report.fail])⟩
  | nothing opened hmade hsource hnone hidle' hover =>
      obtain ⟨-, hstands⟩ := stands_of_prepareDir hmade
      have hpass := passEnd_of_nothing hnone hover
      rw [hmade, reported, hsource]
      dsimp only
      rw [hnone]
      refine ⟨hidle', rfl, fun _ => ⟨opened, hsource, hstands, rfl, ?_, trace_pass hover, ?_, rfl⟩⟩
      · rw [hnone, List.length_nil]
      · rw [hpass, passStart_failed]
  | done opened hmade hsource _ hidle' hover =>
      obtain ⟨-, hstands⟩ := stands_of_prepareDir hmade
      rw [hmade, reported, hsource]
      dsimp only
      exact ⟨hidle', rfl, fun _ => ⟨opened, hsource, hstands, rfl, rfl, trace_pass hover, rfl,
        tree_savedWorld _ _ _ _⟩⟩
  | held => exact absurd rfl hend

/-- A pass asks its provider once, and with the prepared files. -/
theorem decode_congr {provider' : Provider} (events : List Event)
    (h : provider archive dec.job.openOptions (dec.preparedTree prompt w archive) =
      provider' archive dec.job.openOptions (dec.preparedTree prompt w archive)) :
    dec.decode provider prompt w archive events = dec.decode provider' prompt w archive events := by
  cases hmade : (dec.prepareDir prompt w archive).2.2 with
  | error e => rw [decode_of_refused hmade, decode_of_refused hmade]
  | ok found =>
      cases found with
      | none => rw [decode_of_skipped hmade, decode_of_skipped hmade]
      | some dir =>
          cases hsource : provider archive dec.job.openOptions
              (dec.preparedTree prompt w archive) with
          | error causes =>
              rw [decode_of_unopened hmade hsource, decode_of_unopened hmade (h ▸ hsource)]
          | ok opened => rw [decode_of_opened hmade hsource, decode_of_opened hmade (h ▸ hsource)]

/-! ### Sequences of passes -/

/-- The decoders that there are between two archives: new ones, and those whose passes are
over. -/
inductive Ready : Decoder → Prop
  | ofJob (job : Job) (pauseInput : Bool := true) : Ready (.ofJob job pauseInput)
  | withSourceFilter {dec : Decoder} (h : Ready dec) (filter : SourceFilter) :
      Ready (dec.withSourceFilter filter)
  | hear {dec : Decoder} (h : Ready dec) (w : World) (heard : List Nat) : Ready (dec.hear w heard).1
  | turnGate {dec : Decoder} (h : Ready dec) (turn : GateTurn) : Ready (dec.turnGate turn)
  | decode {dec : Decoder} (h : Ready dec) (provider : Provider) (prompt : Prompt) (w : World)
      (archive : String) (events : List Event)
      (hend : (dec.decode provider prompt w archive events).1.state ≠ .awaiting) :
      Ready (dec.decode provider prompt w archive events).2.1

theorem Ready.idle (h : dec.Ready) : dec.pool.Idle := by
  induction h with
  | ofJob job pauseInput => exact ⟨rfl, rfl, rfl, rfl, rfl⟩
  | withSourceFilter _ _ ih => exact ih
  | hear _ w heard ih => exact (hear_spec _ w heard).2.2 ih
  | @turnGate dec _ turn ih =>
      obtain ⟨paused, hpool⟩ := dec.pool.exists_turn turn
      rw [Decoder.turnGate, hpool]
      exact ih.gate paused
  | decode _ provider prompt w archive events hend ih =>
      exact (decode_spec ih provider prompt w archive events hend).1

/-- What is known of every pass that is done. -/
theorem Ready.passed (h : dec.Ready)
    (hdone : (dec.decode provider prompt w archive events).1.state = .done) :
    ∃ opened, Passed dec provider prompt w archive events opened
      (dec.decode provider prompt w archive events).1
      (dec.decode provider prompt w archive events).2.2 :=
  (decode_spec h.idle provider prompt w archive events (by simp [hdone])).2.2 hdone

end Decoder

end ArchiveScout.Decode
