import ArchiveScout.Proofs.Console.Prompt
import ArchiveScout.Proofs.Decode.Accounting
import ArchiveScout.Proofs.Decode.Assignment
import ArchiveScout.Proofs.Decode.Containment
import ArchiveScout.Proofs.Decode.Visit
import Mathlib.Algebra.Order.BigOperators.Group.List
import Mathlib.Algebra.Order.Ring.Nat

/-!
# ArchiveScout.Proofs.Decode.Report

**Reports that agree with what was done.** `Decoder.Ending` lists all that a pass can come to, with
its report and the lines that it shows. A pass finds the pool idle, whatever the passes before came
to, so what it reports depends on nothing but itself.
-/

namespace ArchiveScout.Decode

open ArchiveScout.Archive (ClassEntry)
open ArchiveScout.Console (Choice Prompt Transcript)
open ArchiveScout.File (Tree)

/-! ### What is shown on the way -/

/-- What may be shown until saving is over. -/
def notices : List String :=
  ["Paused...", "Resumed...", "Cleaning...", ">> Press ENTER to pause or resume", "Preparing..."]

/-- Only notices have been shown on the way. -/
def Notices (w w' : World) : Prop :=
  ∃ texts, w'.shown.lines = w.shown.lines ++ texts ∧ ∀ text ∈ texts, text ∈ notices

namespace Notices

variable {w w' w'' : World}

theorem of_eq (h : w'.shown.lines = w.shown.lines) : Notices w w' :=
  ⟨[], h.trans (List.append_nil _).symm, by simp⟩

theorem trans (h : Notices w w') (h' : Notices w' w'') : Notices w w'' := by
  obtain ⟨texts, hlines, htexts⟩ := h
  obtain ⟨texts', hlines', htexts'⟩ := h'
  refine ⟨texts ++ texts', by rw [hlines', hlines, List.append_assoc], ?_⟩
  intro text htext
  rcases List.mem_append.mp htext with htext | htext
  · exact htexts text htext
  · exact htexts' text htext

theorem write (h : Notices w w') (text : String) (htext : text ∈ notices) :
    Notices w (w'.write text) := by
  refine h.trans ⟨[text], Transcript.lines_write _ _, ?_⟩
  intro text' htext'
  rw [List.mem_singleton.mp htext']
  exact htext

theorem hear (dec : Decoder) (w : World) (heard : List Nat) : Notices w (dec.hear w heard).2 := by
  induction heard generalizing dec w with
  | nil => exact of_eq rfl
  | cons _ heard ih =>
      have hline : Notices w (dec.hearLine w).2 := by
        rw [Decoder.hearLine]
        refine (of_eq rfl).write _ ?_
        split <;> decide
      exact hline.trans (ih _ _)

theorem prepareDir (dec : Decoder) (prompt : Prompt) (w : World) (archive : String) :
    Notices w (dec.prepareDir prompt w archive).2.1 := by
  cases hexists : w.tree.exists? (outputDir dec.job archive) with
  | false =>
      rw [Decoder.prepareDir_of_new prompt hexists]
      exact of_eq rfl
  | true =>
      have hask : (prompt.ask (outputDir dec.job archive) dec.job.flatten w.shown
          w.input).2.2.1.lines = w.shown.lines := by
        cases prompt with
        | fixed choice => rfl
        | console => exact Transcript.lines_ask _ _
      have hasked : Notices w (dec.asked prompt w archive).2 := by
        rw [Decoder.asked]
        exact (of_eq hask).trans (hear _ _ _)
      have hannounced : Notices w
          (Decoder.announced (dec.asked prompt w archive).2 (dec.answer prompt w archive)) := by
        cases dec.answer prompt w archive with
        | overwrite => exact hasked.write _ (by decide)
        | merge => exact hasked
        | skip => exact hasked
      rw [Decoder.prepareDir_of_exists prompt hexists]
      exact hannounced.trans (of_eq rfl)

theorem startMonitor (dec : Decoder) (w : World) : Notices w (dec.startMonitor w).2 := by
  rw [Decoder.startMonitor]
  split
  · exact of_eq rfl
  · have hself : Notices w w := of_eq rfl
    have hpress := hself.write ">> Press ENTER to pause or resume" (by decide)
    generalize w.write ">> Press ENTER to pause or resume" = w₁ at hpress ⊢
    dsimp only
    have hlisten : Notices w₁ { w₁ with input := (w₁.input.listen 0).1 } := of_eq rfl
    exact hpress.trans (hlisten.trans (hear _ _ _))

theorem step (opened : Decompiler) (dir : String) (u : Underway) (e : Event) :
    Notices u.world (u.step opened dir e).world := by
  cases e with
  | work task => exact of_eq rfl
  | gate turn => exact of_eq rfl
  | line text =>
      rw [Underway.step, Decoder.hearInput]
      have hfed : Notices u.world { u.world with input := (u.world.input.feed text).1 } :=
        of_eq rfl
      exact hfed.trans (hear _ _ _)

theorem run (opened : Decompiler) (dir : String) (u : Underway) (events : List Event) :
    Notices u.world (u.run opened dir events).world := by
  induction events generalizing u with
  | nil => exact of_eq rfl
  | cons e events ih => exact (step opened dir u e).trans (ih _)

end Notices

/-! ### Ends of passes -/

namespace Decoder

variable {dec : Decoder} {provider : Provider} {prompt : Prompt} {w : World} {archive : String}
  {events : List Event}

/-- The directory of a pass was prepared, and its archive was opened. -/
structure Begun (dec : Decoder) (provider : Provider) (prompt : Prompt) (w : World)
    (archive : String) (opened : Decompiler) : Prop where
  place : (dec.prepareDir prompt w archive).2.2 = .ok (some (outputDir dec.job archive))
  source : provider archive dec.job.openOptions (dec.preparedTree prompt w archive) = .ok opened

/-- The line that tells of failures. -/
def failedLine (dir : String) (failed : Nat) : String :=
  s!"!! {failed} item(s) failed, see {failureLogPath dir}"

/-- The lines behind the notices, when a pass is done. -/
def lastLines (dir : String) (dispatched failed : Nat) : List String :=
  if dispatched = 0 then ["Nothing to save."]
  else savingLine dispatched dispatched ::
    if failed = 0 then [] else [failedLine dir failed]

/-- All that a pass can come to, where the pool was idle. As long as it is held, it has nothing to
report. -/
inductive Ending (dec : Decoder) (provider : Provider) (prompt : Prompt) (w : World)
    (archive : String) (events : List Event) (result : Report × Decoder × World) : Prop
  | refused (e : OutputError) (hmade : (dec.prepareDir prompt w archive).2.2 = .error e)
      (hreport : result.1 = Report.fail { archive } e.message)
  | skipped (hmade : (dec.prepareDir prompt w archive).2.2 = .ok none)
      (hreport : result.1 = { archive, state := .skipped })
  | unopened (causes : List String)
      (hmade : (dec.prepareDir prompt w archive).2.2 = .ok (some (outputDir dec.job archive)))
      (hsource : provider archive dec.job.openOptions (dec.preparedTree prompt w archive) =
        .error causes)
      (hreport : result.1 = Report.fail { archive, outputDir := some (outputDir dec.job archive) }
        (openError archive causes))
  | done (opened : Decompiler) (before : World)
      (hbegun : Begun dec provider prompt w archive opened)
      (hreport : result.1 =
        { archive, outputDir := some (outputDir dec.job archive), state := .done
          dispatched := (tasksOf dec.job opened).length
          failed := (dec.passEnd prompt w archive opened events).failed })
      (htrace : Trace opened (outputDir dec.job archive) (tasksOf dec.job opened)
        (dec.passStart prompt w archive) (dec.passDeeds prompt w archive opened events)
        (dec.passEnd prompt w archive opened events))
      (hnotices : Notices w before)
      (hlines : result.2.2.shown.lines = before.shown.lines ++
        lastLines (outputDir dec.job archive) result.1.dispatched result.1.failed)
  | held (opened : Decompiler) (hbegun : Begun dec provider prompt w archive opened)
      (hreport : result.1 =
        { archive, outputDir := some (outputDir dec.job archive), state := .awaiting
          dispatched := (tasksOf dec.job opened).length })
      (hclosed : result.2.1.pool.isOpen = false)

/-- The lines of a saving that came to its end. -/
theorem lines_savedWorld (w : World) (dir : String) {total : Nat} (htotal : total ≠ 0)
    (space : Workspace) : (savedWorld w dir total space).shown.lines =
      w.shown.lines ++ lastLines dir total space.failed := by
  rw [savedWorld, lastLines, if_neg htotal]
  split
  · exact Transcript.lines_write _ _
  · refine (Transcript.lines_write _ _).trans ?_
    refine (congrArg (· ++ _) (Transcript.lines_write _ _)).trans ?_
    exact List.append_assoc _ _ _

theorem notices_opening (dec : Decoder) (prompt : Prompt) (w : World) (archive : String) :
    Notices w (dec.opening prompt w archive).2 := by
  have hprepare := Notices.prepareDir dec prompt w archive
  unfold opening
  generalize dec.prepareDir prompt w archive = preparing at hprepare ⊢
  obtain ⟨dec₁, w₁, made⟩ := preparing
  exact (hprepare.trans (Notices.startMonitor dec₁ w₁)).write _ (by decide)

theorem notices_waited (dec : Decoder) (prompt : Prompt) (w : World) (archive : String)
    (opened : Decompiler) (events : List Event) :
    Notices w (dec.waited prompt w archive opened events).world := by
  have hopening : Notices w (dec.dispatching prompt w archive opened).world := by
    have hbefore := notices_opening dec prompt w archive
    unfold dispatching Underway.start
    generalize dec.opening prompt w archive = opening at hbefore ⊢
    exact hbefore
  generalize hstart : dec.dispatching prompt w archive opened = u at hopening
  rw [waited, hstart]
  exact hopening.trans (Notices.run opened (outputDir dec.job archive) u _)

theorem decode_ending (hidle : dec.pool.Idle) (provider : Provider) (prompt : Prompt) (w : World)
    (archive : String) (events : List Event) :
    Ending dec provider prompt w archive events (dec.decode provider prompt w archive events) := by
  have hdecoded := decoded hidle provider prompt w archive events
  generalize dec.decode provider prompt w archive events = result at hdecoded ⊢
  cases hdecoded with
  | refused e hmade => exact .refused e hmade rfl
  | skipped hmade => exact .skipped hmade rfl
  | unopened causes hmade hsource => exact .unopened causes hmade hsource rfl
  | nothing opened hmade hsource hnone _ hover =>
      have hpass := passEnd_of_nothing hnone hover
      have hnotices := notices_waited dec prompt w archive opened events
      refine .done opened _ ⟨hmade, hsource⟩ ?_ (trace_pass hover) hnotices
        (Transcript.lines_write _ _)
      rw [hpass, hnone, passStart_failed]
      rfl
  | done opened hmade hsource hsome _ hover =>
      have hnotices := notices_waited dec prompt w archive opened events
      exact .done opened _ ⟨hmade, hsource⟩ rfl (trace_pass hover) hnotices
        (lines_savedWorld _ _ (by simpa using hsome) _)
  | held opened hmade hsource hclosed => exact .held opened ⟨hmade, hsource⟩ rfl hclosed

end Decoder

/-! ### Counting -/

variable {d : Decompiler} {dir : String} {job : Job} {w w' : Workspace} {xs : List Deed}

/-- Whether an action can log a line. -/
def Action.canLog : Action → Bool
  | .settle _ | .resource _ => true
  | .reserve _ | .text _ _ => false

/-- A strand logs at most one line for each action that can log. -/
theorem Thread.length_records_le {behind todo : Task} {progress : Progress}
    {ending : Option Progress} (h : Thread d dir behind progress todo xs ending) :
    (xs.filterMap (Deed.record? d dir)).length ≤ todo.countP Action.canLog := by
  have hlogs : ∀ x ∈ xs, (x.record? d dir).isSome = true → x.action.canLog = true := by
    intro x _ hsome
    cases x.effect d dir <;> simp_all [Action.canLog]
  calc (xs.filterMap (Deed.record? d dir)).length
      = xs.countP fun x => (x.record? d dir).isSome := List.length_filterMap_eq_countP
    _ ≤ xs.countP fun x => x.action.canLog := List.countP_mono_left hlogs
    _ = (xs.map (·.action)).countP Action.canLog := by rw [List.countP_map]; rfl
    _ ≤ todo.countP Action.canLog := h.action_prefix.sublist.countP_le

theorem countP_classActions (job : Job) (entry : ClassEntry) :
    (classActions job entry).countP Action.canLog = 1 := by
  simp [classActions, Action.canLog, List.countP_eq_zero]

/-- Where no batch has more than one class, no task can log more than one line. -/
theorem countP_task_le {task : Task} (hsingle : ∀ batch ∈ d.batches, batch.length ≤ 1)
    (htask : task ∈ tasksOf job d) : task.countP Action.canLog ≤ 1 := by
  obtain ⟨i, hi⟩ := List.mem_iff_getElem?.mp htask
  rcases task_cases hi with ⟨batch, hbatch, rfl⟩ | ⟨name, -, -, rfl⟩
  · have hshort : (eligible job batch).length ≤ 1 :=
      Nat.le_trans (List.length_filter_le _ _) (hsingle batch hbatch)
    match heq : eligible job batch with
    | [] => simp
    | [entry] => simp [countP_classActions]
    | _ :: _ :: _ => simp [heq] at hshort
  · simp [Action.canLog]

/-- Where no batch has more than one class, there are no more failures than tasks. -/
theorem Trace.length_records_le (h : Trace d dir (tasksOf job d) w xs w')
    (hsingle : ∀ batch ∈ d.batches, batch.length ≤ 1) :
    (xs.filterMap (Deed.record? d dir)).length ≤ (tasksOf job d).length := by
  have hplaces := (perm_places _ xs h.place).filterMap (Deed.record? d dir)
  rw [hplaces.length_eq, List.filterMap_flatMap, List.length_flatMap]
  have hle : ∀ n ∈ (List.range (tasksOf job d).length).map (fun i =>
      ((xs.filter (·.place = i)).filterMap (Deed.record? d dir)).length), n ≤ 1 := by
    intro n hn
    obtain ⟨i, hi, rfl⟩ := List.mem_map.mp hn
    have htask := List.getElem?_eq_getElem (List.mem_range.mp hi)
    obtain ⟨ending, hthread⟩ := h.thread i _ htask
    exact Nat.le_trans hthread.length_records_le
      (countP_task_le hsingle (List.mem_of_getElem? htask))
  simpa using List.sum_le_card_nsmul _ 1 hle

theorem single_of_jarProvider {tools : Toolbox} {cfr : Cfr} {archive : String}
    {options : OpenOptions} {t : Tree} {opened : Decompiler}
    (h : jarProvider tools cfr archive options t = .ok opened) :
    ∀ batch ∈ opened.batches, batch.length ≤ 1 := by
  obtain ⟨listed, -, hbatches, -, -⟩ := openJar_eq_ok (openJar_of_jarProvider h)
  intro batch hbatch
  rw [hbatches] at hbatch
  split at hbatch
  · obtain ⟨entry, -, rfl⟩ := List.mem_map.mp hbatch
    exact Nat.le_refl 1
  · exact absurd hbatch List.not_mem_nil

/-! ### Lines -/

/-- Whether a line says how far saving has come. -/
def isSavingLine (text : String) : Bool := ">> Saving... ".toList.isPrefixOf text.toList

/-- All is saved in the end. -/
theorem savingLine_self {n : Nat} (h : n ≠ 0) : Decoder.savingLine n n = ">> Saving... [100%] " := by
  have hpercent : n * 100 / n = 100 := Nat.mul_div_cancel_left 100 (Nat.pos_of_ne_zero h)
  rw [Decoder.savingLine, progressText, if_neg h, hpercent]
  rfl

theorem failedLine_plain (dir : String) (failed : Nat) :
    Decoder.failedLine dir failed ≠ "Nothing to save." ∧
      isSavingLine (Decoder.failedLine dir failed) = false := by
  have hstart : (Decoder.failedLine dir failed).toList =
      '!' :: '!' :: ' ' :: (s!"{failed} item(s) failed, see {failureLogPath dir}").toList := by
    simp [Decoder.failedLine, ToString.toString]
  constructor
  · intro h
    have hfirst := congrArg List.head? hstart
    rw [h, List.head?_cons] at hfirst
    exact absurd hfirst (by decide)
  · rw [isSavingLine, hstart]
    rfl

theorem notices_plain : ∀ text ∈ notices, text ≠ "Nothing to save." ∧ isSavingLine text = false := by
  decide

/-- The lines of a pass say whether there was nothing to save, and that all was saved in the end. -/
theorem lines_of_done {texts : List String} (htexts : ∀ text ∈ texts, text ∈ notices) (dir : String)
    (dispatched failed : Nat) :
    ("Nothing to save." ∈ texts ++ Decoder.lastLines dir dispatched failed ↔ dispatched = 0) ∧
    (dispatched ≠ 0 → ((texts ++ Decoder.lastLines dir dispatched failed).filter
      isSavingLine).getLast? = some ">> Saving... [100%] ") := by
  have hnone : "Nothing to save." ∉ texts := fun hmem =>
    (notices_plain _ (htexts _ hmem)).1 rfl
  have hfilter : texts.filter isSavingLine = [] := by
    rw [List.filter_eq_nil_iff]
    intro text hmem
    simp [(notices_plain _ (htexts _ hmem)).2]
  rw [Decoder.lastLines, List.filter_append, hfilter, List.nil_append]
  by_cases hzero : dispatched = 0
  · simp [hzero]
  · obtain ⟨hne, hfailed⟩ := failedLine_plain dir failed
    generalize Decoder.failedLine dir failed = line at hne hfailed ⊢
    rw [if_neg hzero, savingLine_self hzero]
    by_cases hsound : failed = 0
    · simp [hsound, hzero, hnone, isSavingLine]
    · rw [if_neg hsound, List.filter_cons_of_pos (by decide),
        List.filter_cons_of_neg (by simp [hfailed])]
      refine ⟨?_, fun _ => rfl⟩
      simp [hzero, hnone, hne.symm]

/-! ### Visits -/

namespace Visit

variable {provider : Provider} {prompt : Prompt} {v : Visit}

/-- What is reported and shown of a pass that is done. -/
structure Complete (provider : Provider) (prompt : Prompt) (v : Visit) (opened : Decompiler)
    (texts : List String) : Prop where
  source : provider v.archive v.decoder.job.openOptions
    (v.decoder.preparedTree prompt v.world v.archive) = .ok opened
  dispatched : (v.report provider prompt).dispatched =
    opened.batches.countP (·.any (isEligible v.decoder.job.sourceFilter)) +
      opened.resources.countP v.decoder.job.resourceFilter.accepts
  lines : (v.worldAfter provider prompt).shown.lines = v.world.shown.lines ++ texts
  nothing : "Nothing to save." ∈ texts ↔ (v.report provider prompt).dispatched = 0
  saving : (v.report provider prompt).dispatched ≠ 0 →
    (texts.filter isSavingLine).getLast? = some ">> Saving... [100%] "
  failed : (v.report provider prompt).failed =
    (v.decoder.passRecords prompt v.world v.archive opened v.events).length
  /-- In an archive of classes every batch is a single class. -/
  few : ∀ tools cfr, provider = jarProvider tools cfr →
    (v.report provider prompt).failed ≤ (v.report provider prompt).dispatched

/-- A report agrees with what the pass did, and the pass started afresh. -/
structure Consistent (provider : Provider) (prompt : Prompt) (v : Visit) : Prop where
  fresh : v.decoder.pool.Idle
  state : (v.report provider prompt).state ∈ [.done, .failed, .skipped]
  error : (v.report provider prompt).error.isSome = true ↔
    (v.report provider prompt).state = .failed
  early : (v.report provider prompt).state = .failed ∨ (v.report provider prompt).state = .skipped →
    (v.report provider prompt).dispatched = 0 ∧ (v.report provider prompt).failed = 0
  place : ∀ dir, (v.report provider prompt).outputDir = some dir ↔
    (v.decoder.prepareDir prompt v.world v.archive).2.2 = .ok (some dir)
  done : (v.report provider prompt).state = .done →
    ∃ opened texts, v.Complete provider prompt opened texts

/-- What a pass that is done reports. -/
theorem complete {opened : Decompiler} {before : World}
    (hbegun : Decoder.Begun v.decoder provider prompt v.world v.archive opened)
    (hreport : v.report provider prompt =
      { archive := v.archive, outputDir := some (outputDir v.decoder.job v.archive), state := .done
        dispatched := (tasksOf v.decoder.job opened).length
        failed := (v.decoder.passEnd prompt v.world v.archive opened v.events).failed })
    (htrace : Trace opened (outputDir v.decoder.job v.archive) (tasksOf v.decoder.job opened)
      (v.decoder.passStart prompt v.world v.archive)
      (v.decoder.passDeeds prompt v.world v.archive opened v.events)
      (v.decoder.passEnd prompt v.world v.archive opened v.events))
    (hnotices : Notices v.world before)
    (hlines : (v.worldAfter provider prompt).shown.lines = before.shown.lines ++
      Decoder.lastLines (outputDir v.decoder.job v.archive) (v.report provider prompt).dispatched
        (v.report provider prompt).failed) :
    ∃ opened texts, v.Complete provider prompt opened texts := by
  obtain ⟨texts, hbefore, htexts⟩ := hnotices
  have hfailed : (v.report provider prompt).failed =
      (v.decoder.passRecords prompt v.world v.archive opened v.events).length := by
    rw [hreport]
    exact (failed_linked htrace.linked).trans (Nat.zero_add _)
  have hdispatched : (v.report provider prompt).dispatched =
      (tasksOf v.decoder.job opened).length := by rw [hreport]
  obtain ⟨hnothing, hsaving⟩ := lines_of_done htexts (outputDir v.decoder.job v.archive)
    (v.report provider prompt).dispatched (v.report provider prompt).failed
  refine ⟨opened, _, hbegun.source, hdispatched.trans (length_tasksOf _ _), ?_, hnothing, hsaving,
    hfailed, ?_⟩
  · rw [hlines, hbefore, List.append_assoc]
  · intro tools cfr hprovider
    rw [hfailed, hdispatched]
    exact htrace.length_records_le (single_of_jarProvider (hprovider ▸ hbegun.source))

theorem consistent (hidle : v.decoder.pool.Idle) (hreturns : v.Returns provider prompt) :
    v.Consistent provider prompt := by
  have hending := v.decoder.decode_ending hidle provider prompt v.world v.archive v.events
  change Decoder.Ending _ _ _ _ _ _ (v.result provider prompt) at hending
  have hresult : v.report provider prompt = (v.result provider prompt).1 := rfl
  have hworld : v.worldAfter provider prompt = (v.result provider prompt).2.2 := rfl
  cases hending with
  | refused e hmade hreport =>
      rw [← hresult] at hreport
      exact ⟨hidle, by simp [hreport, Report.fail], by simp [hreport, Report.fail],
        by simp [hreport, Report.fail], by simp [hreport, hmade, Report.fail],
        by simp [hreport, Report.fail]⟩
  | skipped hmade hreport =>
      rw [← hresult] at hreport
      exact ⟨hidle, by simp [hreport], by simp [hreport], by simp [hreport],
        by simp [hreport, hmade], by simp [hreport]⟩
  | unopened causes hmade hsource hreport =>
      rw [← hresult] at hreport
      exact ⟨hidle, by simp [hreport, Report.fail], by simp [hreport, Report.fail],
        by simp [hreport, Report.fail], by simp [hreport, hmade, Report.fail],
        by simp [hreport, Report.fail]⟩
  | done opened before hbegun hreport htrace hnotices hlines =>
      rw [← hresult] at hreport hlines
      rw [← hworld] at hlines
      exact ⟨hidle, by simp [hreport], by simp [hreport], by simp [hreport],
        by simp [hreport, hbegun.place],
        fun _ => complete hbegun hreport htrace hnotices hlines⟩
  | held opened hbegun hreport =>
      rw [← hresult] at hreport
      exact absurd (by rw [hreport]) hreturns

end Visit

/-- Whatever archives a decoder is sent to, whatever it is answered, whatever files, archives and
tools do, and however workers take turns and the gate is turned meanwhile: every report agrees with
what its pass did, and every pass starts afresh. A pass that has not returned stands at a closed
gate, and it returns with such a report when the gate is opened; and if all passes return, there is
one for each archive. -/
theorem reports_are_consistent (job : Job) (pauseInput : Bool) (provider : Provider)
    (prompt : Prompt) (w : World) (errands : List Errand) :
    (∀ v ∈ visits provider prompt (.ofJob job pauseInput) w errands,
      v.Returns provider prompt → v.Consistent provider prompt) ∧
    (∀ v ∈ visits provider prompt (.ofJob job pauseInput) w errands,
      ¬ v.Returns provider prompt → (v.decoderAfter provider prompt).pool.isOpen = false ∧
        v.resumed.Returns provider prompt ∧ v.resumed.Consistent provider prompt) ∧
    ((∀ v ∈ visits provider prompt (.ofJob job pauseInput) w errands,
        v.Returns provider prompt) →
      (visits provider prompt (.ofJob job pauseInput) w errands).map Visit.archive =
        errands.map Errand.archive) := by
  have hidle : ∀ v ∈ visits provider prompt (.ofJob job pauseInput) w errands,
      v.decoder.pool.Idle :=
    fun v hv => (Decoder.Ready.of_mem_visits (.ofJob job pauseInput) hv).idle
  refine ⟨fun v hv => Visit.consistent (hidle v hv), fun v hv hheld => ?_, archives_visits⟩
  have hreturns := Decoder.returns_resumed (hidle v hv) provider prompt
  exact ⟨Decoder.isOpen_of_not_returns (hidle v hv) hheld, hreturns,
    Visit.consistent (v := v.resumed) (hidle v hv) hreturns⟩

/-- Archives of classes, with tools that do not start. -/
def toollessJars : Provider :=
  jarProvider { plainTools with call := fun _ _ => none } ⟨"cfr.jar", true⟩

/-- A decoder without tools is sent to an archive of one class, to the same one again, and to an
archive that is not there. A line pauses the first pass before its task has passed the gate, and
then it is resumed. -/
def toollessVisits : List Visit :=
  visits toollessJars (.fixed .skip) (.ofJob { outputRoot := "out", pauseEnabled := true })
    { tree := treeWithClass "com/Main" }
    [{ archive := "app.jar", events := [.line "", .work 0, .gate .resume] },
      { archive := "app.jar" }, { archive := "none.jar" }]

/-- The class fails, then its directory exists, and then the archive does not. -/
theorem toolless_reports_are_consistent :
    (toollessVisits.map fun v => (v.report toollessJars (.fixed .skip)).state) =
      [.done, .skipped, .failed] ∧
    ∃ v, toollessVisits[0]? = some v ∧ (v.report toollessJars (.fixed .skip)).failed = 1 ∧
      "Paused..." ∈ (v.worldAfter toollessJars (.fixed .skip)).shown.lines ∧
      v.Consistent toollessJars (.fixed .skip) := by
  have hfirst : toollessVisits[0]?.map (fun v => ((v.report toollessJars (.fixed .skip)).failed,
      decide ("Paused..." ∈ (v.worldAfter toollessJars (.fixed .skip)).shown.lines),
      decide ((v.report toollessJars (.fixed .skip)).state = .done))) =
        some (1, true, true) := by
    decide +kernel
  obtain ⟨v, hv, hall⟩ := Option.map_eq_some_iff.mp hfirst
  simp only [Prod.mk.injEq, decide_eq_true_eq] at hall
  obtain ⟨hfailed, hpaused, hdone⟩ := hall
  obtain ⟨hconsistent, -⟩ := reports_are_consistent { outputRoot := "out", pauseEnabled := true }
    true toollessJars (.fixed .skip) { tree := treeWithClass "com/Main" }
    [{ archive := "app.jar", events := [.line "", .work 0, .gate .resume] },
      { archive := "app.jar" }, { archive := "none.jar" }]
  have hreturns : v.Returns toollessJars (.fixed .skip) := by
    rw [Visit.Returns, hdone]
    simp
  exact ⟨by decide +kernel, v, hv, hfailed, hpaused,
    hconsistent v (List.mem_of_getElem? hv) hreturns⟩

end ArchiveScout.Decode
