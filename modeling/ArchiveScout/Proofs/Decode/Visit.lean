import ArchiveScout.Proofs.Decode.Decoder

/-!
# ArchiveScout.Proofs.Decode.Visit

**One decoder and many archives.** A decoder is sent from archive to archive. Before each pass the
selection of classes may be changed, the gate may be turned, listeners may hear lines, and anything
may happen to files and input; while the pass waits for its tasks, events happen. Each `Visit` is a
pass with the decoder and the world that it finds. As long as a pass does not return, it is the last
one; what keeps it is a closed gate, and it returns when the gate is opened.
-/

namespace ArchiveScout.Decode

open ArchiveScout.Console (Prompt)

/-- An archive that a decoder is sent to, and what happens before. -/
structure Errand where
  archive : String
  /-- What happens while the tasks of the pass are awaited. -/
  events : List Event := []
  /-- The new selection of classes, if it is changed. -/
  filter : Option SourceFilter := none
  /-- What becomes of the gate. -/
  gate : List GateTurn := []
  /-- The listeners that hear lines. -/
  heard : List Nat := []
  /-- What else happens. -/
  meanwhile : World → World := id

/-- What a decoder finds when it sets out. -/
def Errand.begin (e : Errand) (dec : Decoder) (w : World) : Decoder × World :=
  let dec := match e.filter with
    | some filter => dec.withSourceFilter filter
    | none => dec
  (e.gate.foldl Decoder.turnGate dec).hear (e.meanwhile w) e.heard

/-- A pass over an archive, with the decoder and the world before it. -/
structure Visit where
  archive : String
  events : List Event
  decoder : Decoder
  world : World

namespace Visit

/-- What the pass comes to. -/
def result (provider : Provider) (prompt : Prompt) (v : Visit) : Report × Decoder × World :=
  v.decoder.decode provider prompt v.world v.archive v.events

/-- The report of the pass. -/
def report (provider : Provider) (prompt : Prompt) (v : Visit) : Report :=
  (v.result provider prompt).1

/-- The decoder behind the pass. -/
def decoderAfter (provider : Provider) (prompt : Prompt) (v : Visit) : Decoder :=
  (v.result provider prompt).2.1

/-- The world behind the pass. -/
def worldAfter (provider : Provider) (prompt : Prompt) (v : Visit) : World :=
  (v.result provider prompt).2.2

/-- The pass does not go on waiting. -/
def Returns (provider : Provider) (prompt : Prompt) (v : Visit) : Prop :=
  (v.report provider prompt).state ≠ .awaiting

/-- The same pass, where the gate is opened in the end. -/
def resumed (v : Visit) : Visit := { v with events := v.events ++ [.gate .resume] }

/-- The output directory of the archive. -/
def dir (v : Visit) : String := outputDir v.decoder.job v.archive

end Visit

/-- The visit that comes of an errand. -/
def Errand.visit (e : Errand) (dec : Decoder) (w : World) : Visit :=
  let (dec, w) := e.begin dec w
  ⟨e.archive, e.events, dec, w⟩

/-- The visits of a decoder that is sent from archive to archive. -/
def visits (provider : Provider) (prompt : Prompt) (dec : Decoder) (w : World) :
    List Errand → List Visit
  | [] => []
  | e :: errands =>
    let v := e.visit dec w
    v :: if (v.report provider prompt).state = .awaiting then []
      else visits provider prompt (v.decoderAfter provider prompt) (v.worldAfter provider prompt)
        errands

variable {provider : Provider} {prompt : Prompt} {dec : Decoder} {w : World}
  {errands : List Errand} {v : Visit}

/-- The first of some visits, and those behind it. -/
theorem visits_eq_append_cons {e : Errand} {front back : List Visit}
    (h : visits provider prompt dec w (e :: errands) = front ++ v :: back) :
    (front = [] ∧ v = e.visit dec w) ∨
    ∃ rest, front = e.visit dec w :: rest ∧
      ((e.visit dec w).report provider prompt).state ≠ .awaiting ∧
      visits provider prompt ((e.visit dec w).decoderAfter provider prompt)
        ((e.visit dec w).worldAfter provider prompt) errands = rest ++ v :: back := by
  rw [visits] at h
  cases front with
  | nil => exact .inl ⟨rfl, (List.cons.inj h).1.symm⟩
  | cons first rest =>
      obtain ⟨rfl, hrest⟩ := List.cons.inj h
      by_cases hawaiting : ((e.visit dec w).report provider prompt).state = .awaiting
      · rw [if_pos hawaiting] at hrest
        exact absurd hrest (by simp)
      · rw [if_neg hawaiting] at hrest
        exact .inr ⟨rest, rfl, hawaiting, hrest⟩

namespace Decoder

theorem Ready.turnGates (h : dec.Ready) (turns : List GateTurn) :
    (turns.foldl Decoder.turnGate dec).Ready := by
  induction turns generalizing dec with
  | nil => exact h
  | cons turn turns ih => exact ih (h.turnGate turn)

theorem Ready.visit (h : dec.Ready) (e : Errand) (w : World) : (e.visit dec w).decoder.Ready := by
  rw [Errand.visit, Errand.begin]
  cases e.filter with
  | none => exact (h.turnGates e.gate).hear _ _
  | some filter => exact ((h.withSourceFilter filter).turnGates e.gate).hear _ _

theorem Ready.decoderAfter (h : v.decoder.Ready) (hend : v.Returns provider prompt) :
    (v.decoderAfter provider prompt).Ready := by
  unfold Visit.Returns Visit.report Visit.result at hend
  unfold Visit.decoderAfter Visit.result
  exact h.decode provider prompt v.world v.archive v.events hend

/-- A pass that gets its directory and opens the archive is done with it, or it waits. -/
theorem state_of_opened {dir : String} {opened : Decompiler} (hidle : v.decoder.pool.Idle)
    (hplace : (v.decoder.prepareDir prompt v.world v.archive).2.2 = .ok (some dir))
    (hsource : provider v.archive v.decoder.job.openOptions
      (v.decoder.preparedTree prompt v.world v.archive) = .ok opened) :
    (v.report provider prompt).state = .done ∨ (v.report provider prompt).state = .awaiting := by
  have hdecoded := decoded hidle provider prompt v.world v.archive v.events
  unfold Visit.report Visit.result
  generalize v.decoder.decode provider prompt v.world v.archive v.events = result at hdecoded ⊢
  cases hdecoded with
  | refused e hmade => exact absurd (hmade.symm.trans hplace) (by simp)
  | skipped hmade => exact absurd (hmade.symm.trans hplace) (by simp)
  | unopened causes hmade hfailed => exact absurd (hfailed.symm.trans hsource) (by simp)
  | nothing => exact .inl rfl
  | done => exact .inl rfl
  | held => exact .inr rfl

/-- A decoder is ready for each archive that it visits. -/
theorem Ready.of_mem_visits (h : dec.Ready) (hv : v ∈ visits provider prompt dec w errands) :
    v.decoder.Ready := by
  obtain ⟨front, back, hsplit⟩ := List.append_of_mem hv
  clear hv
  induction errands generalizing dec w front with
  | nil => exact absurd hsplit (by simp [visits])
  | cons e errands ih =>
      rcases visits_eq_append_cons hsplit with ⟨rfl, rfl⟩ | ⟨rest, rfl, hend, hrest⟩
      · exact h.visit e w
      · exact ih ((h.visit e w).decoderAfter hend) rest hrest

/-! ### What a pass leaves of its decoder

A pass sends its decoder's pool to work and listens for lines meanwhile. The job stays as it is, and
so does the pause support, which decides whether anything can close the gate. -/

/-- The job and the pause support are as before. -/
structure Keeps (dec dec' : Decoder) : Prop where
  job : dec'.job = dec.job
  pauseSupport : dec'.pool.pauseSupport = dec.pool.pauseSupport

theorem Keeps.trans {dec' dec'' : Decoder} (h : dec.Keeps dec') (h' : dec'.Keeps dec'') :
    dec.Keeps dec'' :=
  ⟨h'.job.trans h.job, h'.pauseSupport.trans h.pauseSupport⟩

theorem keeps_hear (dec : Decoder) (w : World) (heard : List Nat) :
    dec.Keeps (dec.hear w heard).1 := by
  obtain ⟨⟨paused, hdec⟩, -⟩ := dec.exists_hear w heard
  rw [hdec]
  exact ⟨rfl, rfl⟩

theorem keeps_prepareDir (dec : Decoder) (prompt : Prompt) (w : World) (archive : String) :
    dec.Keeps (dec.prepareDir prompt w archive).1 := by
  cases hexists : w.tree.exists? (outputDir dec.job archive) with
  | false =>
      rw [prepareDir_of_new prompt hexists]
      exact ⟨rfl, rfl⟩
  | true =>
      rw [prepareDir_of_exists prompt hexists]
      exact keeps_hear _ _ _

theorem keeps_startMonitor (dec : Decoder) (w : World) : dec.Keeps (dec.startMonitor w).1 := by
  rw [startMonitor]
  split
  · exact ⟨rfl, rfl⟩
  · have hlistening : dec.Keeps { dec with monitoring := true } := ⟨rfl, rfl⟩
    exact hlistening.trans (keeps_hear _ _ _)

theorem keeps_opening (dec : Decoder) (prompt : Prompt) (w : World) (archive : String) :
    dec.Keeps (dec.opening prompt w archive).1 := by
  have hprepare := keeps_prepareDir dec prompt w archive
  unfold opening
  generalize dec.prepareDir prompt w archive = preparing at hprepare ⊢
  obtain ⟨dec₁, w₁, made⟩ := preparing
  exact hprepare.trans (keeps_startMonitor dec₁ w₁)

theorem keeps_waited (dec : Decoder) (prompt : Prompt) (w : World) (archive : String)
    (opened : Decompiler) (events : List Event) :
    dec.Keeps (dec.waited prompt w archive opened events).decoder := by
  have hopening := keeps_opening dec prompt w archive
  have hkept : (dec.dispatching prompt w archive opened).Kept
      (dec.waited prompt w archive opened events) := by
    rw [waited]
    exact Underway.kept_run _ _
  have hstart : dec.Keeps (dec.dispatching prompt w archive opened).decoder := by
    unfold dispatching Underway.start
    generalize dec.opening prompt w archive = opening at hopening ⊢
    rw [Pool.foldl_dispatch]
    exact hopening.trans ⟨rfl, rfl⟩
  exact hstart.trans ⟨hkept.job, hkept.pauseSupport⟩

theorem keeps_decode (hidle : dec.pool.Idle) (provider : Provider) (prompt : Prompt) (w : World)
    (archive : String) (events : List Event) :
    dec.Keeps (dec.decode provider prompt w archive events).2.1 := by
  have hprepare := keeps_prepareDir dec prompt w archive
  have hopening := keeps_opening dec prompt w archive
  have hdecoded := decoded hidle provider prompt w archive events
  generalize dec.decode provider prompt w archive events = result at hdecoded ⊢
  -- Projections are reduced first, so that the parts of a pass need not be unfolded.
  cases hdecoded with
  | refused => dsimp only; exact hprepare
  | skipped => dsimp only; exact hprepare
  | unopened => dsimp only; exact hopening
  | nothing opened => dsimp only; exact keeps_waited dec prompt w archive opened events
  | done opened =>
      dsimp only
      exact (keeps_waited dec prompt w archive opened events).trans ⟨rfl, rfl⟩
  | held opened => dsimp only; exact keeps_waited dec prompt w archive opened events

/-- A pass leaves the job of its decoder and its pause support as they are. -/
theorem keeps_decoderAfter (hidle : v.decoder.pool.Idle) (provider : Provider)
    (prompt : Prompt) : v.decoder.Keeps (v.decoderAfter provider prompt) := by
  unfold Visit.decoderAfter Visit.result
  exact keeps_decode hidle provider prompt v.world v.archive v.events

/-! ### Coming back -/

/-- A closed gate is all that keeps a pass from returning. -/
theorem isOpen_of_not_returns (hidle : v.decoder.pool.Idle)
    (hheld : ¬ v.Returns provider prompt) :
    (v.decoderAfter provider prompt).pool.isOpen = false := by
  have hdecoded := decoded hidle provider prompt v.world v.archive v.events
  unfold Visit.Returns Visit.report Visit.result at hheld
  unfold Visit.decoderAfter Visit.result
  generalize v.decoder.decode provider prompt v.world v.archive v.events = result
    at hdecoded hheld ⊢
  rw [not_not] at hheld
  cases hdecoded with
  | held _ _ _ hclosed => exact hclosed
  | _ => exact absurd hheld (by simp [Report.fail])

theorem isOpen_waited_resume (dec : Decoder) (prompt : Prompt) (w : World) (archive : String)
    (opened : Decompiler) (events : List Event) :
    (dec.waited prompt w archive opened (events ++ [.gate .resume])).decoder.pool.isOpen =
      true := by
  rw [waited, passEvents, Underway.run_append, Underway.isOpen_lastTurns, Underway.run_append]
  simp [Underway.run, Underway.step, turnGate, Pool.turn, Pool.resume, Pool.isOpen]

/-- Whatever has happened, a pass returns when the gate is opened. -/
theorem returns_resumed (hidle : v.decoder.pool.Idle) (provider : Provider) (prompt : Prompt) :
    v.resumed.Returns provider prompt := by
  have hdecoded := decoded hidle provider prompt v.world v.archive
    (v.events ++ [.gate .resume])
  unfold Visit.Returns Visit.report Visit.result Visit.resumed
  dsimp only
  generalize v.decoder.decode provider prompt v.world v.archive _ = result at hdecoded ⊢
  cases hdecoded with
  | held opened _ _ hclosed =>
      rw [isOpen_waited_resume] at hclosed
      exact absurd hclosed (by simp)
  | _ => simp [Report.fail]

end Decoder

/-- Where all passes return, every archive is visited. -/
theorem archives_visits (hreturns : ∀ v ∈ visits provider prompt dec w errands,
    v.Returns provider prompt) :
    (visits provider prompt dec w errands).map Visit.archive = errands.map Errand.archive := by
  induction errands generalizing dec w with
  | nil => rfl
  | cons e errands ih =>
      rw [visits] at hreturns ⊢
      obtain ⟨hfirst, hrest⟩ := List.forall_mem_cons.mp hreturns
      rw [if_neg hfirst] at hrest ⊢
      rw [List.map_cons, List.map_cons, ih hrest]
      rfl

end ArchiveScout.Decode
