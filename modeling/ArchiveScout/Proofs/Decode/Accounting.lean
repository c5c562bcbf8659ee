import ArchiveScout.Proofs.Decode.Decoder
import ArchiveScout.Proofs.Decode.Strand
import ArchiveScout.Proofs.Decode.Task

/-!
# ArchiveScout.Proofs.Decode.Accounting

**Nothing gets lost.** When a pass is done, every class and every resource that was asked for
has been written, or has been counted and has its line in the log. A class that fails does not
keep the classes behind it in its batch from being tried. What a decompiler answers does not
matter, nor does what happens while the tasks are awaited; only a request that panics takes the
rest of its task with it, and a log that refuses a line does not get it.
-/

namespace ArchiveScout.Decode

open ArchiveScout.Archive (ClassEntry)
open ArchiveScout.Console (Prompt)
open ArchiveScout.File

variable {d : Decompiler} {dir : String} {job : Job} {xs : List Deed} {w w' : Workspace}

/-! ### Counting -/

/-- Failures are the deeds that logged a line. -/
theorem failed_linked (h : Linked d dir w xs w') :
    w'.failed = w.failed + (xs.filterMap (Deed.record? d dir)).length := by
  induction h with
  | nil => simp
  | @cons x xs w' _ ih =>
      rw [ih, Deed.failed_after, List.filterMap_cons]
      cases x.record? d dir with
      | none => simp
      | some line =>
          simp only [Option.toList_some, List.length_cons, List.length_nil]
          omega

/-! ### Classes and resources -/

/-- A class at a place was settled, with some classes still behind it: all its texts were
written, or it was counted and its line went to the log. -/
def ClassAccounted (job : Job) (d : Decompiler) (dir : String) (xs : List Deed) (place : Nat)
    (entry : ClassEntry) (behind : List ClassEntry) : Prop :=
  ∃ x ∈ xs, x.place = place ∧ x.action = .settle entry ∧
    x.rest = behind.flatMap (classActions job) ∧
    ((x.record? d dir = none ∧ ∀ kind ∈ job.kinds, ∃ y ∈ xs, y.place = place ∧
        y.action = .text kind entry ∧ ∃ text, d.text kind entry = .done text ∧
          (y.after d dir).tree.read (x.progress.paths.of kind) = .ok (Content.ofText text)) ∨
      (x.record? d dir = some (classRecord entry) ∧
        Logs dir (classRecord entry) x.before.tree (x.after d dir).tree))

/-- A resource at a place was saved, or it was counted and its line went to the log. -/
def ResourceAccounted (d : Decompiler) (dir : String) (xs : List Deed) (place : Nat)
    (name : String) : Prop :=
  ∃ x ∈ xs, x.place = place ∧ x.action = .resource name ∧
    ((x.record? d dir = none ∧ ∃ path,
        d.save name dir x.before.tree = ((x.after d dir).tree, .done path)) ∨
      (x.record? d dir = some (resourceRecord name) ∧
        Logs dir (resourceRecord name) (d.save name dir x.before.tree).1 (x.after d dir).tree))

/-- A class is accounted for unless a request for it, or for a class before it in its batch,
panics. -/
theorem Trace.class_accounted {tasks : List Task} (h : Trace d dir tasks w xs w') {place : Nat}
    {before behind : List ClassEntry} {entry : ClassEntry}
    (htask : tasks[place]? = some ((before ++ entry :: behind).flatMap (classActions job)))
    (hno : ∀ c ∈ before ++ [entry], ∀ kind ∈ job.kinds, d.text kind c ≠ .panicked) :
    ClassAccounted job d dir xs place entry behind := by
  obtain ⟨ending, hthread⟩ := h.thread place _ htask
  obtain ⟨ys, first, zs, ws, ending', hxs, hpiece⟩ :=
    hthread.exists_piece fun c hc => hno c (List.mem_append_left _ hc)
  have hmem : ∀ x ∈ zs, x ∈ xs ∧ x.place = place := by
    intro x hx
    have hin : x ∈ xs.filter (·.place = place) := by simp [hxs, hx]
    simpa using List.mem_filter.mp hin
  obtain ⟨kept, rfl⟩ := hpiece.thread.comes_through fun x hx =>
    Deed.kept_ne_none (List.mem_cons_of_mem _ hx) (hno entry (by simp))
  have hpaths := hpiece.paths
  obtain ⟨texts, x, rfl, haction, hrest, hactions, hsound⟩ := hpiece.settled
  obtain ⟨hx, hplace⟩ := hmem x (by simp)
  -- The deed that settles the class tells how it ended.
  refine ⟨x, hx, hplace, haction, hrest, ?_⟩
  cases x.effect d dir with
  | settled _ _ hgood _ _ _ hrecord =>
      refine .inl ⟨hrecord, fun kind hkind => ?_⟩
      have htext : Action.text kind entry ∈ texts.map (·.action) := by
        rw [hactions]
        exact List.mem_map_of_mem hkind
      obtain ⟨y, hy, hyaction⟩ := List.mem_map.mp htext
      obtain ⟨hyxs, hyplace⟩ := hmem y (List.mem_append_left _ hy)
      obtain ⟨text, hdone, hread⟩ := Deed.read_text hyaction (hsound.mp hgood y hy)
      have hsame : y.progress.paths = x.progress.paths :=
        Option.some.inj ((hpaths y (by simp [hy])).symm.trans (hpaths x (by simp)))
      exact ⟨y, hyxs, hyplace, hyaction, text, hdone, hsame ▸ hread⟩
  | logged entry' haction' _ hafter _ _ hrecord =>
      obtain rfl := Action.settle.inj (haction.symm.trans haction')
      exact .inr ⟨hrecord, hafter ▸ logs_appendRecord dir x.before.tree (classRecord entry)⟩
  | _ => simp_all

/-- A resource is accounted for unless saving it panics. -/
theorem Trace.resource_accounted {tasks : List Task} (h : Trace d dir tasks w xs w') {place : Nat}
    {name : String} (htask : tasks[place]? = some [.resource name])
    (hno : ∀ t, (d.save name dir t).2 ≠ .panicked) : ResourceAccounted d dir xs place name := by
  obtain ⟨ending, hthread⟩ := h.thread place _ htask
  obtain ⟨x, hxs, haction, -⟩ := hthread.single
  have hin : x ∈ xs.filter (·.place = place) := by simp [hxs]
  obtain ⟨hx, hplace⟩ : x ∈ xs ∧ x.place = place := by simpa using List.mem_filter.mp hin
  refine ⟨x, hx, hplace, haction, ?_⟩
  cases x.effect d dir with
  | saved name' path t haction' hsave hafter _ _ hrecord =>
      obtain rfl := Action.resource.inj (haction.symm.trans haction')
      exact .inl ⟨hrecord, path, by rw [hsave, hafter]⟩
  | unsaved name' causes t haction' hsave hafter _ _ hrecord =>
      obtain rfl := Action.resource.inj (haction.symm.trans haction')
      refine .inr ⟨hrecord, ?_⟩
      rw [hsave, hafter]
      exact logs_appendRecord dir t (resourceRecord name)
  | lost name' t haction' hsave =>
      obtain rfl := Action.resource.inj (haction.symm.trans haction')
      exact absurd (by rw [hsave]) (hno x.before.tree)
  | _ => simp_all

/-! ### Passes -/

/-- When a pass is done, the reported failures are the lines that went to the log, and every
selected class and every selected resource is accounted for, whatever the decompiler answers
and whatever happens while the tasks are awaited. Only a request that panics is an exception, for
its class and the classes behind it in the batch. -/
theorem decode_accounts_for_all {dec : Decoder} (hready : dec.Ready) (provider : Provider)
    (prompt : Prompt) (w : World) (archive : String) (events : List Event)
    (hdone : (dec.decode provider prompt w archive events).1.state = .done) :
    ∃ opened,
      provider archive dec.job.openOptions (dec.preparedTree prompt w archive) = .ok opened ∧
      (dec.decode provider prompt w archive events).1.failed =
        (dec.passRecords prompt w archive opened events).length ∧
      (∀ before batch after earlier entry later,
        opened.batches = before ++ batch :: after →
        eligible dec.job batch = earlier ++ entry :: later →
        (∀ c ∈ earlier ++ [entry], ∀ kind ∈ dec.job.kinds, opened.text kind c ≠ .panicked) →
        ClassAccounted dec.job opened (outputDir dec.job archive)
          (dec.passDeeds prompt w archive opened events) (batchPlace dec.job before) entry later) ∧
      (∀ before name after,
        opened.resources = before ++ name :: after →
        dec.job.resourceFilter.accepts name = true →
        (∀ t, (opened.save name (outputDir dec.job archive) t).2 ≠ .panicked) →
        ResourceAccounted opened (outputDir dec.job archive)
          (dec.passDeeds prompt w archive opened events)
          (resourcePlace dec.job opened before) name) := by
  obtain ⟨opened, hpassed⟩ := hready.passed hdone
  refine ⟨opened, hpassed.source, ?_, ?_, ?_⟩
  · rw [hpassed.failed, failed_linked hpassed.trace.linked]
    exact Nat.zero_add _
  · intro before batch after earlier entry later hbatches heligible hno
    have hne : eligible dec.job batch ≠ [] := by simp [heligible]
    have htask := task_of_batch hbatches hne
    rw [heligible] at htask
    exact hpassed.trace.class_accounted htask hno
  · intro before name after hresources haccepts hno
    exact hpassed.trace.resource_accounted (task_of_resource hresources haccepts) hno

/-- A decompiler with one batch of classes, some of which fail and some of which panic, and
with resources, of which one cannot be saved. -/
def moody (failing panicking : List String) (resources : List String) : Decompiler where
  batches := [["a", "b"].map fun path => ClassEntry.ofPath path]
  resources := resources
  java := fun entry =>
    if entry.aliasPath ∈ panicking then .panicked
    else if entry.aliasPath ∈ failing then .failed ["no source"]
    else .done entry.fullName
  smali := fun _ => .failed ["no listing"]
  save := fun name dir t =>
    if name = "bad" then (t, .failed ["no such resource"])
    else writeBelow t (Path.join dir name) (.bytes []) "Failed to write resource"

/-- The pass of a new decoder over the archive of a moody decompiler. -/
def moodyPass (d : Decompiler) (events : List Event) : Report × Decoder × World :=
  (Decoder.ofJob { outputRoot := "out" }).decode (fun _ _ _ => .ok d) (.fixed .skip)
    { tree := {} } "app.jar" events

/-- A class behind one that failed is accounted for. -/
theorem class_behind_failed_accounted :
    (moodyPass (moody ["a"] [] []) []).1.state = .done ∧
      ClassAccounted { outputRoot := "out" } (moody ["a"] [] []) "out/app.jar_sources"
        ((Decoder.ofJob { outputRoot := "out" }).passDeeds (.fixed .skip) { tree := {} } "app.jar"
          (moody ["a"] [] []) []) 0 (.ofPath "b") [] := by
  have hdone : (moodyPass (moody ["a"] [] []) []).1.state = .done := by decide +kernel
  unfold moodyPass at hdone ⊢
  obtain ⟨opened, hopened, -, hclass, -⟩ := decode_accounts_for_all (.ofJob { outputRoot := "out" })
    (fun _ _ _ => .ok (moody ["a"] [] [])) (.fixed .skip) { tree := {} } "app.jar" [] hdone
  obtain rfl := Except.ok.inj hopened
  exact ⟨hdone, hclass [] _ [] [.ofPath "a"] (.ofPath "b") [] rfl (by decide +kernel)
    (by decide +kernel)⟩

/-- A class that panics is neither written nor logged, and neither is the class behind it in
its batch. A failure is counted but not logged where a resource took the place of the log. -/
theorem panicked_and_refused_are_lost :
    ((moodyPass (moody [] ["a"] []) []).1.state = .done ∧
      (moodyPass (moody [] ["a"] []) []).1.failed = 0 ∧
      (moodyPass (moody [] ["a"] []) []).2.2.tree.nodes.map Prod.fst =
        [["out", "app.jar_sources"], ["out"]]) ∧
    ((moodyPass (moody ["a"] [] ["_failed_classes/x", "bad"]) [.work 1, .work 1]).1.state = .done ∧
      (moodyPass (moody ["a"] [] ["_failed_classes/x", "bad"]) [.work 1, .work 1]).1.failed = 2 ∧
      (moodyPass (moody ["a"] [] ["_failed_classes/x", "bad"]) [.work 1, .work 1]).2.2.tree.isFile
        "out/app.jar_sources/_failed_classes" = false) := by
  decide +kernel

end ArchiveScout.Decode
