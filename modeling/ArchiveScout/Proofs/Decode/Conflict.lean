import ArchiveScout.Proofs.Console.Prompt
import ArchiveScout.Proofs.Decode.Visit

/-!
# ArchiveScout.Proofs.Decode.Conflict

**An output directory that exists is only touched on an explicit answer.** A decoder that asks the
user, and whose input nobody else uses, asks about an archive exactly when the path of its output
directory exists. Each question takes one line, or finds the end, and questions take lines in order.
What is there is cleared only on `y` and reused only on `m` where merging is offered; otherwise the
archive is skipped as if it were not there.
-/

namespace ArchiveScout.Decode

open ArchiveScout.Console (Choice LineInput Prompt Reply Says Transcript ask_console
  ofReply_eq_merge_iff ofReply_eq_overwrite_iff question)
open ArchiveScout.File (Tree)

/-! ### What does not ask -/

/-- No line has been taken and no question has been asked on the way. -/
structure Silent (dec : Decoder) (w : World) (dec' : Decoder) (w' : World) : Prop where
  pauseInput : dec'.pauseInput = dec.pauseInput
  input : w'.input = w.input
  questions : w'.shown.questions = w.shown.questions

namespace Silent

variable {dec dec' dec'' : Decoder} {w w' w'' : World}

theorem refl (dec : Decoder) (w : World) : Silent dec w dec w := ⟨rfl, rfl, rfl⟩

theorem trans (h : Silent dec w dec' w') (h' : Silent dec' w' dec'' w'') :
    Silent dec w dec'' w'' :=
  ⟨h'.pauseInput.trans h.pauseInput, h'.input.trans h.input, h'.questions.trans h.questions⟩

theorem write (h : Silent dec w dec' w') (text : String) : Silent dec w dec' (w'.write text) :=
  h.trans ⟨rfl, rfl, Transcript.questions_write _ _⟩

theorem hear (dec : Decoder) (w : World) (heard : List Nat) :
    Silent dec w (dec.hear w heard).1 (dec.hear w heard).2 := by
  induction heard generalizing dec w with
  | nil => exact refl dec w
  | cons _ heard ih =>
      have hline : Silent dec w (dec.hearLine w).1 (dec.hearLine w).2 :=
        ⟨rfl, rfl, Transcript.questions_write _ _⟩
      exact hline.trans (ih _ _)

/-- A decoder that has no input for its gate does not listen. -/
theorem startMonitor (hpause : dec.pauseInput = false) (w : World) :
    Silent dec w (dec.startMonitor w).1 (dec.startMonitor w).2 := by
  rw [Decoder.startMonitor, if_pos (by simp [hpause])]
  exact refl dec w

/-- Nothing that happens takes a line of an input that has ended. -/
theorem step {u : Underway} (hended : u.world.input.ended = true) (opened : Decompiler)
    (dir : String) (e : Event) :
    Silent u.decoder u.world (u.step opened dir e).decoder (u.step opened dir e).world := by
  cases e with
  | work task => exact ⟨rfl, rfl, rfl⟩
  | gate turn => exact ⟨rfl, rfl, rfl⟩
  | line text =>
      rw [Underway.step, Decoder.hearInput, LineInput.feed, if_pos hended]
      exact ⟨rfl, rfl, rfl⟩

theorem run {u : Underway} (hended : u.world.input.ended = true) (opened : Decompiler)
    (dir : String) (events : List Event) :
    Silent u.decoder u.world (u.run opened dir events).decoder (u.run opened dir events).world := by
  induction events generalizing u with
  | nil => exact refl _ _
  | cons e events ih =>
      have hfirst := step hended opened dir e
      have hended' : (u.step opened dir e).world.input.ended = true := by
        rw [hfirst.input]
        exact hended
      exact hfirst.trans (ih hended')

theorem save (hended : w.input.ended = true) (dec : Decoder) (report : Report) (dir : String)
    (opened : Decompiler) (events : List Event) :
    Silent dec w (dec.save w report dir opened events).2.1
      (dec.save w report dir opened events).2.2 := by
  have hrun := run (u := .start dec w dir (tasksOf dec.job opened)) hended opened dir
    (events ++ lastTurns (tasksOf dec.job opened))
  rw [Decoder.save]
  dsimp only
  generalize (Underway.start dec w dir _).run opened dir _ = u at hrun ⊢
  have hsaved : Silent dec w u.decoder u.world := ⟨hrun.pauseInput, hrun.input, hrun.questions⟩
  split
  · exact hsaved.trans ⟨rfl, rfl, Transcript.questions_write _ _⟩
  · split
    · exact hsaved.trans ⟨rfl, rfl, rfl⟩
    · split
      · exact hsaved.trans ⟨rfl, rfl, Transcript.questions_write _ _⟩
      · exact hsaved.trans
          ⟨rfl, rfl, (Transcript.questions_write _ _).trans (Transcript.questions_write _ _)⟩

end Silent

namespace Decoder

variable {dec : Decoder} {prompt : Prompt} {w : World} {archive : String} {lines : List String}

/-- Preparing a directory that is not there asks nobody. -/
theorem silent_prepareDir_of_new (prompt : Prompt)
    (hnew : w.tree.exists? (outputDir dec.job archive) = false) :
    Silent dec w (dec.prepareDir prompt w archive).1 (dec.prepareDir prompt w archive).2.1 := by
  rw [prepareDir_of_new prompt hnew]
  exact ⟨rfl, rfl, rfl⟩

/-- Preparing a directory that is there asks once. -/
theorem silent_prepareDir_of_exists
    (hexists : w.tree.exists? (outputDir dec.job archive) = true) {choice : Choice}
    {heard : List Nat} {shown : Transcript} {input : LineInput}
    (hask : prompt.ask (outputDir dec.job archive) dec.job.flatten w.shown w.input =
      (choice, heard, shown, input)) :
    Silent dec { w with shown, input } (dec.prepareDir prompt w archive).1
      (dec.prepareDir prompt w archive).2.1 := by
  have hheard := Silent.hear dec { w with shown, input } heard
  have hasked : dec.asked prompt w archive = dec.hear { w with shown, input } heard := by
    rw [asked, hask]
  rw [prepareDir_of_exists prompt hexists, hasked]
  dsimp only
  generalize dec.hear { w with shown, input } heard = result at hheard ⊢
  obtain ⟨dec', w'⟩ := result
  have hannounced : Silent dec { w with shown, input } dec'
      (announced w' (dec.answer prompt w archive)) := by
    cases dec.answer prompt w archive with
    | overwrite => exact hheard.write _
    | merge => exact hheard
    | skip => exact hheard
  exact ⟨hannounced.pauseInput, hannounced.input, hannounced.questions⟩

/-- Behind the preparing, a decoder without input for its gate asks nobody. -/
theorem silent_decode (hpause : dec.pauseInput = false)
    (hprepare : (dec.prepareDir prompt w archive).1.pauseInput = dec.pauseInput)
    (hended : (dec.prepareDir prompt w archive).2.1.input.ended = true)
    (provider : Provider) (events : List Event) :
    Silent (dec.prepareDir prompt w archive).1 (dec.prepareDir prompt w archive).2.1
      (dec.decode provider prompt w archive events).2.1
      (dec.decode provider prompt w archive events).2.2 := by
  unfold decode
  generalize dec.prepareDir prompt w archive = preparing at hprepare hended ⊢
  obtain ⟨dec₁, w₁, made⟩ := preparing
  match made with
  | .error e => exact ((Silent.refl dec₁ w₁).write _).write _
  | .ok none => exact (Silent.refl dec₁ w₁).write _
  | .ok (some dir) =>
      have hmonitor := Silent.startMonitor (hprepare.trans hpause) w₁
      dsimp only at hmonitor ⊢
      generalize dec₁.startMonitor w₁ = monitored at hmonitor ⊢
      obtain ⟨dec₂, w₂⟩ := monitored
      have hpreparing := hmonitor.write "Preparing..."
      dsimp only at hpreparing ⊢
      split
      · exact hpreparing.write _
      · exact hpreparing.trans (.save (hpreparing.input.symm ▸ hended) _ _ _ _ _)

/-- What the decoder is answered is what the first of the lines that are left says. -/
theorem answer_console (hfound : w.input.Holds lines) :
    dec.answer .console w archive = .ofReply dec.job.flatten (some (.ofLine lines.head?)) := by
  obtain ⟨rest, hask, -⟩ := ask_console hfound (outputDir dec.job archive) dec.job.flatten w.shown
  rw [answer, hask]

theorem decode_takes_line (hfound : w.input.Holds lines) (hpause : dec.pauseInput = false)
    (provider : Provider) (events : List Event) :
    (dec.decode provider .console w archive events).2.1.pauseInput = false ∧
    (dec.decode provider .console w archive events).2.2.shown.questions = w.shown.questions ++
      (if w.tree.exists? (outputDir dec.job archive) then
        [question (outputDir dec.job archive) dec.job.flatten] else []) ∧
    (dec.decode provider .console w archive events).2.2.input.Holds
      (if w.tree.exists? (outputDir dec.job archive) then lines.tail else lines) := by
  cases hexists : w.tree.exists? (outputDir dec.job archive) with
  | false =>
      have hprepare := silent_prepareDir_of_new .console hexists
      have hdecode := silent_decode hpause hprepare.pauseInput
        ((congrArg LineInput.ended hprepare.input).trans hfound.ended) provider events
      obtain ⟨hstill, hinput, hquestions⟩ := hprepare.trans hdecode
      refine ⟨hstill.trans hpause, ?_, ?_⟩
      · rw [hquestions]
        exact (List.append_nil _).symm
      · rw [hinput]
        exact hfound
  | true =>
      obtain ⟨rest, hask, hrest⟩ :=
        ask_console hfound (outputDir dec.job archive) dec.job.flatten w.shown
      have hprepare := silent_prepareDir_of_exists hexists hask
      have hdecode := silent_decode hpause hprepare.pauseInput
        ((congrArg LineInput.ended hprepare.input).trans hrest.ended) provider events
      obtain ⟨hstill, hinput, hquestions⟩ := hprepare.trans hdecode
      refine ⟨hstill.trans hpause, ?_, ?_⟩
      · rw [hquestions]
        exact Transcript.questions_ask _ _
      · rw [hinput]
        exact hrest

/-- Clearing makes the directory anew, or fails and leaves everything as it is. -/
theorem decode_of_overwrite (hexists : w.tree.exists? (outputDir dec.job archive) = true)
    (hanswer : dec.answer prompt w archive = .overwrite) (provider : Provider)
    (events : List Event) :
    (∃ t, w.tree.removeDirectory (outputDir dec.job archive) = .ok t ∧
      dec.preparedTree prompt w archive = (t.makeDirectories (outputDir dec.job archive)).1) ∨
    ∃ fault, w.tree.removeDirectory (outputDir dec.job archive) = .error fault ∧
      (dec.decode provider prompt w archive events).1 =
        Report.fail { archive } (OutputError.clearing (outputDir dec.job archive) fault).message ∧
      (dec.decode provider prompt w archive events).2.2.tree = w.tree := by
  obtain ⟨-, -, htree, hprepared⟩ := dec.prepareDir_spec prompt w archive
  rw [preparedTree_eq]
  rw [hanswer] at htree hprepared ⊢
  unfold prepared at htree hprepared ⊢
  rw [if_pos hexists] at htree hprepared ⊢
  dsimp only at htree hprepared ⊢
  cases hremoved : w.tree.removeDirectory (outputDir dec.job archive) with
  | ok t => exact .inl ⟨t, rfl, made_tree _ _⟩
  | error fault =>
      rw [hremoved] at htree hprepared
      dsimp only at htree
      rw [decode_of_refused hprepared]
      dsimp only
      rw [World.tree_write, World.tree_write]
      exact .inr ⟨fault, rfl, rfl, htree⟩

/-- An archive that is skipped is not opened, and nothing is touched behind the preparing. -/
theorem decode_of_skipped_untouched
    (hskip : (dec.prepareDir prompt w archive).2.2 = .ok none)
    (hkept : dec.preparedTree prompt w archive = w.tree) (provider : Provider)
    (events : List Event) :
    (dec.decode provider prompt w archive events).1 = { archive, state := .skipped } ∧
    (dec.decode provider prompt w archive events).2.2.tree = w.tree ∧
    ∀ other, dec.decode other prompt w archive events =
      dec.decode provider prompt w archive events := by
  unfold preparedTree at hkept
  refine ⟨?_, ?_, ?_⟩
  · rw [decode_of_skipped hskip]
  · rw [decode_of_skipped hskip]
    dsimp only
    rw [World.tree_write, hkept]
  · intro other
    rw [decode_of_skipped hskip other, decode_of_skipped hskip provider]

end Decoder

/-! ### Visits -/

namespace Visit

variable {provider : Provider} {v : Visit} {lines : List String}

/-- Whether the path of the output directory exists. -/
def conflicts (v : Visit) : Bool := v.world.tree.exists? v.dir

/-- What comes of preparing the output directory, by asking the user. -/
def prepared (v : Visit) : Except OutputError (Option String) :=
  (v.decoder.prepareDir .console v.world v.archive).2.2

/-- The files behind the preparing. -/
def preparedTree (v : Visit) : Tree := v.decoder.preparedTree .console v.world v.archive

/-- A pass goes by what the user says, and the first of the lines that are left is what the user
says if there is anything to ask. -/
structure Heeds (provider : Provider) (lines : List String) (v : Visit) : Prop where
  found : v.world.input.Holds lines
  asked : (v.worldAfter provider .console).shown.questions = v.world.shown.questions ++
    if v.conflicts then [question v.dir v.decoder.job.flatten] else []
  left : (v.worldAfter provider .console).input.Holds (if v.conflicts then lines.tail else lines)
  /-- What is there is cleared on `y`, unless that fails. -/
  cleared : v.conflicts = true → Says 'y' lines.head? →
    (∃ t, v.world.tree.removeDirectory v.dir = .ok t ∧
      v.preparedTree = (t.makeDirectories v.dir).1) ∨
    ∃ fault, v.world.tree.removeDirectory v.dir = .error fault ∧
      v.report provider .console =
        Report.fail { archive := v.archive } (OutputError.clearing v.dir fault).message ∧
      (v.worldAfter provider .console).tree = v.world.tree
  /-- Without `y` nothing is cleared. -/
  kept : v.conflicts = true → ¬ Says 'y' lines.head? → v.preparedTree = v.world.tree
  /-- Without `y` it is reused on `m` where merging is offered, and not otherwise. -/
  reused : v.conflicts = true → ¬ Says 'y' lines.head? →
    (v.prepared = .ok (some v.dir) ↔ v.decoder.job.flatten = true ∧ Says 'm' lines.head?)
  /-- In all other cases the archive is skipped: it is not opened, and nothing is touched. -/
  skipped : v.conflicts = true → ¬ Says 'y' lines.head? →
    ¬ (v.decoder.job.flatten = true ∧ Says 'm' lines.head?) →
    v.report provider .console = { archive := v.archive, state := .skipped } ∧
    (v.worldAfter provider .console).tree = v.world.tree ∧
    ∀ other, v.result other .console = v.result provider .console

/-- A pass takes one line if there is something to ask, and no line otherwise. -/
theorem takes_line (hfound : v.world.input.Holds lines) (hpause : v.decoder.pauseInput = false)
    (provider : Provider) :
    (v.decoderAfter provider .console).pauseInput = false ∧
    (v.worldAfter provider .console).shown.questions = v.world.shown.questions ++
      (if v.conflicts then [question v.dir v.decoder.job.flatten] else []) ∧
    (v.worldAfter provider .console).input.Holds
      (if v.conflicts then lines.tail else lines) := by
  unfold decoderAfter worldAfter result conflicts dir
  exact Decoder.decode_takes_line hfound hpause provider v.events

theorem heeds (hfound : v.world.input.Holds lines) (hpause : v.decoder.pauseInput = false)
    (provider : Provider) : v.Heeds provider lines := by
  obtain ⟨-, hasked, hleft⟩ := takes_line hfound hpause provider
  have hy := ofReply_eq_overwrite_iff v.decoder.job.flatten lines.head?
  have hm := ofReply_eq_merge_iff v.decoder.job.flatten lines.head?
  have hanswer : v.decoder.answer .console v.world v.archive = _ :=
    Decoder.answer_console hfound
  rw [← hanswer] at hy hm
  refine ⟨hfound, hasked, hleft, ?cleared, ?kept, ?reused, ?skipped⟩
  all_goals unfold conflicts dir
  case cleared =>
    intro hconflicts hsays
    unfold preparedTree report worldAfter result
    exact Decoder.decode_of_overwrite hconflicts (hy.mpr hsays) provider v.events
  case kept =>
    intro hconflicts hnot
    unfold preparedTree
    exact (Decoder.prepareDir_of_not_overwrite hconflicts (mt hy.mp hnot)).1
  case reused =>
    intro hconflicts hnot
    unfold prepared
    have hmerge : (v.decoder.answer .console v.world v.archive = .merge ∧
        v.decoder.job.flatten = true) ↔ v.decoder.job.flatten = true ∧ Says 'm' lines.head? :=
      ⟨fun h => hm.mp h.1, fun h => ⟨hm.mpr h, h.1⟩⟩
    rw [(Decoder.prepareDir_of_not_overwrite hconflicts (mt hy.mp hnot)).2]
    simp [hmerge]
  case skipped =>
    intro hconflicts hnot hother
    obtain ⟨hkept, hprepared⟩ :=
      Decoder.prepareDir_of_not_overwrite hconflicts (mt hy.mp hnot)
    rw [if_neg (fun h => hother (hm.mp h.1))] at hprepared
    unfold report worldAfter result
    exact Decoder.decode_of_skipped_untouched hprepared hkept provider v.events

end Visit

/-- What happens before a pass takes no lines and asks nothing. -/
theorem silent_visit (e : Errand) (dec : Decoder) (w : World) :
    Silent dec (e.meanwhile w) (e.visit dec w).decoder (e.visit dec w).world := by
  have hgate : ∀ dec : Decoder, Silent dec (e.meanwhile w) (e.gate.foldl Decoder.turnGate dec)
      (e.meanwhile w) := by
    intro dec
    induction e.gate generalizing dec with
    | nil => exact .refl _ _
    | cons turn turns ih =>
        have hturn : Silent dec (e.meanwhile w) (dec.turnGate turn) (e.meanwhile w) :=
          ⟨rfl, rfl, rfl⟩
        exact hturn.trans (ih (dec.turnGate turn))
  rw [Errand.visit, Errand.begin]
  cases e.filter with
  | none => exact (hgate _).trans (.hear _ _ _)
  | some filter =>
      have hfilter : Silent dec (e.meanwhile w) (dec.withSourceFilter filter) (e.meanwhile w) :=
        ⟨rfl, rfl, rfl⟩
      exact hfilter.trans ((hgate _).trans (.hear _ _ _))

/-- Every pass heeds the lines that the questions before have left. -/
theorem heeds_of_visits {dec : Decoder} {w : World} {lines : List String} {errands : List Errand}
    {provider : Provider} {front back : List Visit} {v : Visit} (hpause : dec.pauseInput = false)
    (hfound : w.input.Holds lines) (hinput : ∀ e ∈ errands, ∀ w, (e.meanwhile w).input = w.input)
    (hsplit : visits provider .console dec w errands = front ++ v :: back) :
    v.Heeds provider (lines.drop (front.countP Visit.conflicts)) := by
  induction errands generalizing dec w lines front with
  | nil => exact absurd hsplit (by simp [visits])
  | cons e errands ih =>
      have hpause' : (e.visit dec w).decoder.pauseInput = false :=
        (silent_visit e dec w).pauseInput.trans hpause
      have hfound' : (e.visit dec w).world.input.Holds lines :=
        ((silent_visit e dec w).input.trans (hinput e (by simp) w)).symm ▸ hfound
      rcases visits_eq_append_cons hsplit with ⟨rfl, rfl⟩ | ⟨rest, rfl, -, hrest⟩
      · exact Visit.heeds hfound' hpause' provider
      · obtain ⟨hstill, -, hleft⟩ := Visit.takes_line hfound' hpause' provider
        have hheeds := ih hstill hleft (fun e he => hinput e (by simp [he])) hrest
        have hlines : lines.drop ((e.visit dec w :: rest).countP Visit.conflicts) =
            (if (e.visit dec w).conflicts then lines.tail else lines).drop
              (rest.countP Visit.conflicts) := by
          rw [List.countP_cons]
          cases (e.visit dec w).conflicts <;> simp
        rw [hlines]
        exact hheeds

/-- Whatever archives a decoder is sent to, and whatever becomes of files between: if it asks the
user and nobody else uses the lines of input, each pass heeds the lines that the questions of the
passes before have left. -/
theorem only_answers_touch_existing_directories (job : Job) (tree : Tree) (shown : Transcript)
    (lines : List String) (provider : Provider) (errands : List Errand)
    (hinput : ∀ e ∈ errands, ∀ w, (e.meanwhile w).input = w.input) (front back : List Visit)
    (v : Visit) (hsplit : visits provider .console (.ofJob job false)
      { tree, shown, input := .ofLines lines } errands = front ++ v :: back) :
    v.Heeds provider (lines.drop (front.countP Visit.conflicts)) :=
  heeds_of_visits rfl (LineInput.holds_ofLines lines) hinput hsplit

/-- Archives without classes and resources. -/
def hollow : Provider := fun _ _ _ => .ok
  { batches := [], resources := []
    java := fun _ => .failed ["no source"], smali := fun _ => .failed ["no listing"]
    save := fun _ _ t => (t, .failed ["no such resource"]) }

/-- A user who has two answers visits two archives with output directories, one without, and the
first one again. -/
def visitsWithTwoAnswers : List Visit :=
  visits hollow .console (.ofJob { outputRoot := "out", flatten := true } false)
    { tree := { nodes := [(["out"], .directory), (["out", "a.jar_sources"], .directory),
        (["out", "b.jar_sources"], .directory), (["out", "b.jar_sources", "B.java"],
          .file (.bytes [66]))] }
      input := .ofLines [" M", "y"] }
    [{ archive := "a.jar" }, { archive := "b.jar" }, { archive := "c.jar" }, { archive := "a.jar" }]

/-- The first directory is reused and the second one cleared, nothing is asked about the third
archive, and in the end there is no answer left. -/
theorem two_answers_are_heeded :
    (visitsWithTwoAnswers.map fun v => (v.report hollow .console).state) =
      [.done, .done, .done, .skipped] ∧
    (visitsWithTwoAnswers.map fun v =>
      ((v.worldAfter hollow .console).tree.exists? "out/b.jar_sources/B.java")) =
      [true, false, false, false] ∧
    ∃ v, visitsWithTwoAnswers[3]? = some v ∧ v.conflicts = true ∧ v.Heeds hollow [] := by
  have hlast : visitsWithTwoAnswers[3]?.map Visit.conflicts = some true := by decide +kernel
  have hasked : (visitsWithTwoAnswers.take 3).countP Visit.conflicts = 2 := by decide +kernel
  obtain ⟨v, hv, hconflicts⟩ := Option.map_eq_some_iff.mp hlast
  have hsplit : visitsWithTwoAnswers =
      visitsWithTwoAnswers.take 3 ++ v :: visitsWithTwoAnswers.drop 4 := by
    obtain ⟨hlt, rfl⟩ := List.getElem?_eq_some_iff.mp hv
    rw [List.getElem_cons_drop, List.take_append_drop]
  have hheeds := only_answers_touch_existing_directories _ _ _ _ _ _ (by simp) _ _ _ hsplit
  rw [hasked] at hheeds
  exact ⟨by decide +kernel, by decide +kernel, v, hv, hconflicts, hheeds⟩

end ArchiveScout.Decode
