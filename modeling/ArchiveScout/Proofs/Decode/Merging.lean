import ArchiveScout.Proofs.Decode.Accounting
import ArchiveScout.Proofs.Decode.Overwriting
import ArchiveScout.Proofs.Decode.Replay
import Mathlib.Data.List.Flatten

/-!
# ArchiveScout.Proofs.Decode.Merging

**Merging only adds.** A pass without resources that reuses an output directory, with flattened
names, leaves all files that were there as they were; only the log gets lines behind what it held.
Each text that a class has and that the file system takes gets a new file of its own right in the
directory, and besides these and a log that was not there nothing is new. The path of a text is
handed out when nothing stands there, no other text of the pass gets it, and no directories are
needed on the way: so nothing that was there is in the way, in any order of the workers.
-/

namespace ArchiveScout.Decode

open ArchiveScout.Archive (ClassEntry)
open ArchiveScout.Console (Prompt)
open ArchiveScout.File
open ArchiveScout.File.Tree (Evolves Stands)
open PathResolver (bothFree_iff freeIndex_spec lastName lastName_ne_up names)

variable {d : Decompiler} {dir : String} {job : Job} {w w' : Workspace} {x : Deed}
  {xs : List Deed} {loc l : Location} {source : String → Tree → Outcome (List UInt8)}

/-! ### Decompilers without resources -/

/-- A decompiler without resources, all of whose classes are made from class paths. -/
structure Decompiler.SourcesOnly (d : Decompiler) : Prop where
  resources : d.resources = []
  classes : ∀ batch ∈ d.batches, ∀ entry ∈ batch, ∃ path inner, entry = .ofPath path inner

/-- An archive of classes that is opened without its resources. -/
theorem sourcesOnly_of_jarProvider {tools : Toolbox} {cfr : Cfr} {archive : String}
    {options : OpenOptions} {t : Tree} {opened : Decompiler}
    (h : jarProvider tools cfr archive options t = .ok opened)
    (hno : options.includeResources = false) : opened.SourcesOnly := by
  have hopen := openJar_of_jarProvider h
  obtain ⟨_, -, -, hresources, -⟩ := openJar_eq_ok hopen
  obtain ⟨listed, -, hclasses⟩ := batches_openJar hopen
  refine ⟨by rw [hresources, if_neg (by simp [hno])], fun batch hbatch entry hentry => ?_⟩
  exact ⟨_, _, ofPath_of_mem_groupClasses (hclasses batch hbatch entry hentry)⟩

/-- The decompiler with resources whose bytes come from a source. -/
def Decompiler.savingFrom (d : Decompiler) (source : String → Tree → Outcome (List UInt8)) :
    Decompiler :=
  { d with save := fun name dir t => saveFound name dir t (source name t) }

theorem savesFrom_savingFrom (d : Decompiler) (source : String → Tree → Outcome (List UInt8)) :
    (d.savingFrom source).SavesFrom source := fun _ _ _ => rfl

@[simp] theorem Decompiler.text_savingFrom (d : Decompiler)
    (source : String → Tree → Outcome (List UInt8)) : (d.savingFrom source).text = d.text := by
  funext kind
  cases kind <;> rfl

/-- How resources are saved does not matter to a deed for a class. -/
structure Deed.SameWith (d d' : Decompiler) (dir : String) (x : Deed) : Prop where
  after : x.after d' dir = x.after d dir
  kept : x.kept d' dir = x.kept d dir
  output : x.output? d' dir = x.output? d dir
  accepted : x.accepted? d' dir = x.accepted? d dir

theorem Deed.sameWith (d : Decompiler) (source : String → Tree → Outcome (List UInt8))
    (dir : String) (hno : ∀ name, x.action ≠ .resource name) :
    x.SameWith d (d.savingFrom source) dir := by
  have htext := d.text_savingFrom source
  obtain ⟨place, action, rest, before, progress⟩ := x
  cases action with
  | reserve entry => exact ⟨rfl, rfl, rfl, rfl⟩
  | text kind entry =>
      refine ⟨?_, ?_, ?_, rfl⟩ <;>
        simp only [Deed.after, Deed.kept, Deed.output?, Action.perform, htext]
  | settle entry => exact ⟨rfl, rfl, rfl, rfl⟩
  | resource name => exact absurd rfl (hno name)

/-- Deeds for classes are linked in the same way, however resources are saved. -/
theorem Linked.savingFrom (h : Linked d dir w xs w')
    (source : String → Tree → Outcome (List UInt8))
    (hno : ∀ x ∈ xs, ∀ name, x.action ≠ .resource name) :
    Linked (d.savingFrom source) dir w xs w' := by
  induction h with
  | nil w => exact .nil w
  | @cons x xs w' _ ih =>
      have hsame := Deed.sameWith d source dir (hno x List.mem_cons_self)
      have hrest := ih fun y hy => hno y (List.mem_cons_of_mem x hy)
      rw [← hsame.after] at hrest
      exact .cons hrest

theorem Thread.savingFrom {behind todo : Task} {progress : Progress} {ending : Option Progress}
    (h : Thread d dir behind progress todo xs ending)
    (source : String → Tree → Outcome (List UInt8))
    (hno : ∀ x ∈ xs, ∀ name, x.action ≠ .resource name) :
    Thread (d.savingFrom source) dir behind progress todo xs ending := by
  induction h with
  | nil progress => exact .nil progress
  | @cons x _ _ _ _ hrest hkept _ ih =>
      have hsame := Deed.sameWith d source dir (hno x List.mem_cons_self)
      exact .cons hrest (hsame.kept.trans hkept) (ih fun y hy => hno y (List.mem_cons_of_mem x hy))
  | @panic x _ hrest hkept =>
      have hsame := Deed.sameWith d source dir (hno x List.mem_cons_self)
      exact .panic hrest (hsame.kept.trans hkept)

theorem Trace.savingFrom {tasks : List Task} (h : Trace d dir tasks w xs w')
    (source : String → Tree → Outcome (List UInt8))
    (hno : ∀ x ∈ xs, ∀ name, x.action ≠ .resource name) :
    Trace (d.savingFrom source) dir tasks w xs w' := by
  refine ⟨h.linked.savingFrom source hno, fun i task htask => ?_, h.place⟩
  obtain ⟨ending, hthread⟩ := h.thread i task htask
  exact ⟨ending, hthread.savingFrom source fun x hx => hno x (List.mem_of_mem_filter hx)⟩

/-- In a pass over a decompiler without resources there are no deeds for resources. -/
theorem Trace.action_ne_resource (h : Trace d dir (tasksOf job d) w xs w')
    (hnone : d.resources = []) (hx : x ∈ xs) (name : String) : x.action ≠ .resource name := by
  intro haction
  have hmem := (h.resource_mem hx haction).1
  rw [hnone] at hmem
  exact List.not_mem_nil hmem

/-! ### Texts -/

/-- The text that an action has to write. -/
def Action.produced? (d : Decompiler) : Action → Option (ClassEntry × Kind)
  | .text kind entry => if (d.text kind entry).isDone then some (entry, kind) else none
  | _ => none

/-- The texts that come to be written for the classes of a batch: those of one class after another,
up to a request that panics. -/
def producedTexts (job : Job) (d : Decompiler) : List ClassEntry → List (ClassEntry × Kind)
  | [] => []
  | entry :: entries => (writtenKinds d entry job.kinds).map (entry, ·) ++
      if job.kinds.any fun kind => d.text kind entry = .panicked then []
      else producedTexts job d entries

/-- The requested texts that a class has. -/
def classTexts (job : Job) (d : Decompiler) (entry : ClassEntry) : List (ClassEntry × Kind) :=
  (job.kinds.filter fun kind => (d.text kind entry).isDone).map (entry, ·)

/-- All requested texts that the selected classes of an archive have. -/
def archiveTexts (job : Job) (d : Decompiler) : List (ClassEntry × Kind) :=
  d.batches.flatMap fun batch => (eligible job batch).flatMap (classTexts job d)

/-- The texts of the classes for which no request panics, nor one for a class before it in its
batch. -/
def calmTexts (job : Job) (d : Decompiler) : List (ClassEntry × Kind) :=
  d.batches.flatMap fun batch =>
    ((eligible job batch).takeWhile fun entry =>
      job.kinds.all fun kind => d.text kind entry ≠ .panicked).flatMap (classTexts job d)

theorem writtenKinds_sublist (entry : ClassEntry) (kinds : List Kind) :
    (writtenKinds d entry kinds).Sublist (kinds.filter fun kind => (d.text kind entry).isDone) := by
  induction kinds with
  | nil => exact .slnil
  | cons kind kinds ih =>
      rw [writtenKinds, List.filter_cons]
      cases d.text kind entry with
      | done text => exact ih.cons_cons kind
      | failed causes => exact ih
      | panicked => exact List.nil_sublist _

theorem writtenKinds_of_calm {entry : ClassEntry} {kinds : List Kind}
    (hcalm : ∀ kind ∈ kinds, d.text kind entry ≠ .panicked) :
    writtenKinds d entry kinds = kinds.filter fun kind => (d.text kind entry).isDone := by
  induction kinds with
  | nil => rfl
  | cons kind kinds ih =>
      obtain ⟨hfirst, hrest⟩ := List.forall_mem_cons.mp hcalm
      rw [writtenKinds, List.filter_cons, ih hrest]
      cases htext : d.text kind entry with
      | done text => rfl
      | failed causes => rfl
      | panicked => exact absurd htext hfirst

/-- What comes to be written for a batch is all that its classes have, but for what panics. -/
theorem producedTexts_between (entries : List ClassEntry) :
    ((entries.takeWhile fun entry => job.kinds.all fun kind => d.text kind entry ≠ .panicked).flatMap
      (classTexts job d)).Sublist (producedTexts job d entries) ∧
    (producedTexts job d entries).Sublist (entries.flatMap (classTexts job d)) := by
  induction entries with
  | nil => exact ⟨.slnil, .slnil⟩
  | cons entry entries ih =>
      obtain ⟨hlower, hupper⟩ := ih
      have hclass := (writtenKinds_sublist (d := d) entry job.kinds).map ((entry, ·) : Kind → _)
      rw [producedTexts, List.flatMap_cons, List.takeWhile_cons]
      by_cases hcalm : ∀ kind ∈ job.kinds, d.text kind entry ≠ .panicked
      · rw [if_pos (by simpa using hcalm), if_neg (by simpa using hcalm),
          writtenKinds_of_calm hcalm, List.flatMap_cons]
        exact ⟨hlower.append_left _, hupper.append_left _⟩
      · rw [if_neg (by simpa using hcalm), if_pos (by simpa using hcalm), List.append_nil]
        exact ⟨List.nil_sublist _, hclass.trans (List.sublist_append_left _ _)⟩

variable {content : String → Outcome (List UInt8)}

theorem executed_append (front back : Task) : executed d content (front ++ back) =
    executed d content front ++
      if front.any (Action.panics d content) then [] else executed d content back := by
  induction front with
  | nil => simp [executed]
  | cons action front ih =>
      rw [List.cons_append, executed, executed, ih, List.any_cons]
      cases action.panics d content <;> simp

/-- The texts that come to be written for a class. -/
theorem filterMap_executed_class (entry : ClassEntry) :
    (executed d content (classActions job entry)).filterMap (Action.produced? d) =
      (writtenKinds d entry job.kinds).map (entry, ·) := by
  have hkinds : ∀ kinds : List Kind,
      (executed d content (kinds.map (.text · entry) ++ [.settle entry])).filterMap
        (Action.produced? d) = (writtenKinds d entry kinds).map (entry, ·) := by
    intro kinds
    induction kinds with
    | nil => rfl
    | cons kind kinds ih =>
        rw [List.map_cons, List.cons_append, executed, writtenKinds, Action.panics]
        cases htext : d.text kind entry with
        | done text => simp [Action.produced?, htext, Outcome.isDone, ih]
        | failed causes => simp [Action.produced?, htext, Outcome.isDone, ih]
        | panicked => simp [Action.produced?, htext, Outcome.isDone]
  exact hkinds job.kinds

theorem any_panics_classActions (entry : ClassEntry) :
    (classActions job entry).any (Action.panics d content) =
      job.kinds.any fun kind => decide (d.text kind entry = .panicked) := by
  simp [classActions, Action.panics, Function.comp_def]

/-- The texts that come to be written for the classes of a batch. -/
theorem filterMap_executed_batch (entries : List ClassEntry) :
    (executed d content (entries.flatMap (classActions job))).filterMap (Action.produced? d) =
      producedTexts job d entries := by
  induction entries with
  | nil => rfl
  | cons entry entries ih =>
      rw [List.flatMap_cons, executed_append, List.filterMap_append, filterMap_executed_class,
        any_panics_classActions, producedTexts]
      split
      · rfl
      · rw [ih]

theorem executed_savingFrom (d : Decompiler) (source : String → Tree → Outcome (List UInt8))
    (task : Task) : executed (d.savingFrom source) content task = executed d content task := by
  induction task with
  | nil => rfl
  | cons action task ih =>
      have hpanics : action.panics (d.savingFrom source) content = action.panics d content := by
        cases action <;> simp only [Action.panics, Decompiler.text_savingFrom]
      rw [executed, executed, ih, hpanics]

/-- The texts that come to be written for all batches of an archive. -/
theorem filterMap_executed_batches (batches : List (List ClassEntry)) :
    ((batches.filterMap (batchTask? job)).flatMap (executed d content)).filterMap
      (Action.produced? d) = batches.flatMap fun batch => producedTexts job d (eligible job batch) := by
  induction batches with
  | nil => rfl
  | cons batch batches ih =>
      rw [List.flatMap_cons, ← ih]
      by_cases hempty : eligible job batch = []
      · have htask : batchTask? job batch = none := by
          rw [batchTask?, if_pos (by simpa [eligible] using hempty)]
        rw [List.filterMap_cons_none htask, hempty]
        rfl
      · have htask : batchTask? job batch =
            some ((eligible job batch).flatMap (classActions job)) := by
          rw [batchTask?, if_neg (by simpa [eligible] using hempty)]
          rfl
        rw [List.filterMap_cons_some htask, List.flatMap_cons, List.filterMap_append,
          filterMap_executed_batch]

/-- Every text that a selected class has is tried at most once, and once where nothing panics, in
every order. -/
theorem Trace.subperm_produced (h : Trace d dir (tasksOf job d) w xs w')
    (hnone : d.resources = []) :
    (calmTexts job d).Subperm (xs.filterMap fun x => x.action.produced? d) ∧
      (xs.filterMap fun x => x.action.produced? d).Subperm (archiveTexts job d) := by
  have hno := fun x hx => h.action_ne_resource hnone (x := x) hx
  -- No resource is asked for, so any source will do.
  have hperm : (xs.map (·.action)).Perm ((tasksOf job d).flatMap
      (executed (d.savingFrom fun _ _ => .failed []) fun _ => .failed [])) :=
    (h.savingFrom (fun _ _ => .failed []) hno).perm_executed (savesFrom_savingFrom d _)
      fun x hx name haction => absurd haction (hno x hx name)
  have htexts := hperm.filterMap (Action.produced? d)
  rw [List.filterMap_map, tasksOf, hnone, List.filterMap_nil, List.append_nil,
    funext (executed_savingFrom d _), filterMap_executed_batches] at htexts
  have hlower : (calmTexts job d).Sublist _ := List.Sublist.flatMap_right d.batches
    fun batch _ => (producedTexts_between (eligible job batch)).1
  have hupper : List.Sublist _ (archiveTexts job d) := List.Sublist.flatMap_right d.batches
    fun batch _ => (producedTexts_between (eligible job batch)).2
  exact ⟨htexts.subperm_left.mpr hlower.subperm, htexts.subperm_right.mpr hupper.subperm⟩

/-! ### New files -/

/-- A workspace for flattened names, in a directory that stands. -/
structure Workspace.Flat (w : Workspace) (dir : String) (loc : Location) : Prop where
  root : w.resolver.root = dir
  flatten : w.resolver.flatten = true
  nonempty : dir ≠ ""
  stands : w.tree.Stands dir loc

/-- The flattened file of a class has a single name. -/
theorem names_simpleName (path : String) (inner : List String) (n : Nat) (kind : Kind) :
    names true (ClassEntry.ofPath path inner).simpleName n kind =
      [lastName (ClassEntry.ofPath path inner).simpleName n kind] := by
  rw [names, PathResolver.steps_fileName_eq, pieces_simpleName]
  rfl

/-- What is handed out is the path of nothing that is there. -/
theorem Deed.handed_unused {paths : OutputPaths} (h : x.handed? = some paths) (kind : Kind) :
    x.before.tree.exists? (paths.of kind) = false := by
  rw [Deed.handed?] at h
  split at h
  · rename_i entry _
    obtain rfl := Option.some.inj h
    exact (bothFree_iff.mp (freeIndex_spec x.before.resolver x.before.tree
      (x.before.resolver.baseOf entry)).2.1 kind).2
  · exact absurd h (by simp)

section Flat

variable (h : Trace d dir (tasksOf job d) w xs w') (hplain : d.SourcesOnly)
  (hflat : w.Flat dir loc)
include h hplain hflat

theorem Trace.not_strays (hx : x ∈ xs) : ¬ x.Strays w.resolver := by
  rw [Deed.Strays]
  cases haction : x.action with
  | text kind entry =>
      obtain ⟨⟨batch, hbatch, hentry⟩, -⟩ := h.text_candidate hx haction
      obtain ⟨path, inner, rfl⟩ :=
        hplain.classes batch hbatch entry (List.mem_of_mem_filter hentry)
      exact not_not.mpr (staysBelow_baseOf inner (.inl hflat.flatten))
  | resource name => exact absurd haction (h.action_ne_resource hplain.resources hx name)
  | reserve entry => exact id
  | settle entry => exact id

/-- A text has its path right in the directory. -/
theorem Trace.text_leads {kind : Kind} {entry : ClassEntry} (hx : x ∈ xs)
    (haction : x.action = .text kind entry) :
    ∃ name, name ≠ ".." ∧ Path.Leads dir (x.progress.paths.of kind) [name] ∧
      Tree.namesDirectory (x.progress.paths.of kind) = false := by
  obtain ⟨⟨batch, hbatch, hentry⟩, n, -, hpaths⟩ := h.text_candidate hx haction
  obtain ⟨path, inner, rfl⟩ := hplain.classes batch hbatch entry (List.mem_of_mem_filter hentry)
  have hrelative := (staysBelow_simpleName path inner).1
  have hbase : w.resolver.baseOf (.ofPath path inner) = (ClassEntry.ofPath path inner).simpleName := by
    rw [PathResolver.baseOf, if_pos hflat.flatten]
  have hleads := PathResolver.leads_candidate hrelative w.resolver n kind
  rw [hflat.root, hflat.flatten, names_simpleName] at hleads
  rw [hpaths, hbase]
  exact ⟨_, lastName_ne_up _ _ _, hleads, PathResolver.namesDirectory_candidate hrelative
    (hflat.root ▸ hflat.nonempty) n kind⟩

/-- A deed makes no directory, and writes at most its file and the log. -/
theorem Trace.evolves_deed (hx : x ∈ xs) (hdir : x.before.tree.Stands dir loc) :
    Evolves (fun _ => False)
      (fun l => x.location? d dir = some l ∨ (x.accepted? d dir).isSome ∧ l = logLocation loc)
      x.before.tree (x.after d dir).tree := by
  cases x.effect d dir with
  | written kind entry text t haction _ hwrite hafter _ houtput =>
      obtain ⟨name, -, hleads, -⟩ := h.text_leads hplain hflat hx haction
      rw [room_of_leads_single hdir hleads] at hwrite
      obtain ⟨l, htarget, rfl⟩ := Tree.write_eq_ok hwrite
      obtain ⟨htarget', -, hfile⟩ := Tree.fileTarget_eq_ok htarget
      have htree : (x.after d dir).tree = x.before.tree.put l (.file (Content.ofText text)) := by
        rw [hafter]
      have hlocation :=
        Deed.location?_of_locate houtput (htree ▸ Tree.locate_put htarget (Content.ofText text))
      rw [htree]
      refine (Tree.evolves_put_file (Tree.ne_nil_of_target htarget') hfile _ _).mono
        (fun _ h => h) ?_
      rintro _ rfl
      exact .inl hlocation
  | refused kind entry text haction _ hafter =>
      obtain ⟨name, -, hleads, -⟩ := h.text_leads hplain hflat hx haction
      rw [hafter]
      dsimp only
      rw [room_of_leads_single hdir hleads]
      exact .refl _ _ _
  | logged entry haction _ hafter _ _ hrecord =>
      have hlog : x.logTree d dir = x.before.tree := by simp only [Deed.logTree, haction]
      have hevolves := Deed.evolves_appendRecord (hlog ▸ hdir) hrecord
      rw [hlog] at hevolves
      rw [hafter]
      exact hevolves.mono (fun _ h => h) fun _ => .inr
  | saved name _ _ haction =>
      exact absurd haction (h.action_ne_resource hplain.resources hx name)
  | unsaved name _ _ haction =>
      exact absurd haction (h.action_ne_resource hplain.resources hx name)
  | lost name _ haction => exact absurd haction (h.action_ne_resource hplain.resources hx name)
  | _ =>
      simp_all only
      exact .refl _ _ _

/-- A pass makes no directory, and writes at most the files of its deeds and the log. -/
theorem Trace.evolves_flat : Evolves (fun _ => False)
    (fun l => (∃ x ∈ xs, x.location? d dir = some l) ∨
      (∃ x ∈ xs, (x.accepted? d dir).isSome) ∧ l = logLocation loc)
    w.tree w'.tree := by
  refine (linked_evolves h.linked hflat.stands fun x hx hstands => ?_).2
  refine (h.evolves_deed hplain hflat hx hstands).mono (fun _ h => h) fun l hl => ?_
  exact hl.imp (fun hlocation => ⟨x, hx, hlocation⟩) fun ⟨haccepted, hlog⟩ =>
    ⟨⟨x, hx, haccepted⟩, hlog⟩

/-- No text is written at the place of the log. -/
theorem Trace.location_ne_log_flat (hsave : d.SavesFrom source) (hx : x ∈ xs) :
    x.location? d dir ≠ some (logLocation loc) :=
  h.log_of_not_strays hsave hflat.root (linked_files h.linked hsave hflat.stands).1 hx
    (h.not_strays hplain hflat hx)

theorem Trace.noOverwriting_flat (hsave : d.SavesFrom source) : NoOverwriting d dir loc xs := by
  have hapart := h.apart_of_not_strays hsave hflat.root hflat.nonempty
    (linked_files h.linked hsave hflat.stands).1
  refine ⟨hapart.imp_of_mem fun hx hy hboth => ?_, fun _ x hx => ?_⟩
  · exact hboth (h.not_strays hplain hflat hx) (h.not_strays hplain hflat hy)
  · exact h.location_ne_log_flat hplain hflat hsave hx

/-- Nothing stood before where a text was written. -/
theorem Trace.get?_location (hsave : d.SavesFrom source) (hx : x ∈ xs)
    (hl : x.location? d dir = some l) : w.tree.get? l = none := by
  obtain ⟨path, houtput⟩ := Deed.exists_output_of_location hl
  obtain ⟨l', content, hl', -, hlocate⟩ := locate_of_noOverwriting h.linked hsave hflat.stands
    (h.noOverwriting_flat hplain hflat hsave) hx houtput
  obtain rfl := Option.some.inj (hl.symm.trans hl')
  obtain ⟨kind, entry, haction, -⟩ :=
    Deed.text_of_not_strays hl (h.not_strays hplain hflat hx)
  obtain rfl := Deed.output?_text haction houtput
  obtain ⟨name, hup, hleads, hkind⟩ := h.text_leads hplain hflat hx haction
  -- The path was handed out when nothing was there, and what is there never goes away.
  obtain ⟨us, vs, rfl⟩ := List.append_of_mem hx
  obtain ⟨-, first, hfirst, -, hhanded⟩ := h.handed_before haction
  obtain ⟨front, back, hsplit⟩ := List.append_of_mem hfirst
  have hlinked := h.linked
  rw [hsplit, List.append_assoc, List.cons_append] at hlinked
  obtain ⟨hfront, hback⟩ := hlinked.split
  have hbefore := (linked_files hfront hsave hflat.stands).2
  have hbehind := (linked_files (.cons hback) hsave (hbefore.stands hflat.stands)).2
  by_contra hsome
  have hfound := Tree.exists?_of_located hbehind (hbefore.stands hflat.stands) hleads hup hkind
    hlocate (hbefore.isSome (Option.isSome_iff_ne_none.mpr hsome))
  rw [Deed.handed_unused hhanded kind] at hfound
  exact absurd hfound (by simp)

end Flat

/-! ### What is added -/

/-- A text that a deed wrote, and where. -/
def Deed.textFile? (d : Decompiler) (dir : String) (x : Deed) :
    Option ((ClassEntry × Kind) × Location) :=
  (x.action.produced? d).bind fun text => (x.location? d dir).map (text, ·)

theorem Deed.textFile?_eq_some {text : ClassEntry × Kind} : x.textFile? d dir = some (text, l) ↔
    x.action.produced? d = some text ∧ x.location? d dir = some l := by
  rw [textFile?, Option.bind_eq_some_iff]
  constructor
  · rintro ⟨text', htext, hfile⟩
    obtain ⟨l', hl, heq⟩ := Option.map_eq_some_iff.mp hfile
    obtain ⟨rfl, rfl⟩ := Prod.mk.inj heq
    exact ⟨htext, hl⟩
  · rintro ⟨htext, hl⟩
    exact ⟨text, htext, by rw [hl]; rfl⟩

theorem Deed.SameWith.textFile {d' : Decompiler} (h : x.SameWith d d' dir)
    (htext : d'.text = d.text) : x.textFile? d' dir = x.textFile? d dir := by
  have hproduced : x.action.produced? d' = x.action.produced? d := by
    cases x.action <;> simp only [Action.produced?, htext]
  rw [textFile?, textFile?, location?, location?, h.after, h.output, hproduced]

/-- To a tree with an output directory texts in new files were added, and lines of the log, and
nothing else has changed. -/
structure Adds (d : Decompiler) (loc : Location) (files : List ((ClassEntry × Kind) × Location))
    (lines : List String) (t t' : Tree) : Prop where
  nodup : (files.map Prod.snd).Nodup
  fresh : ∀ file ∈ files, t.get? file.2 = none ∧ file.2 ≠ logLocation loc
  content : ∀ file ∈ files, ∃ text, d.text file.1.2 file.1.1 = .done text ∧
    t'.get? file.2 = some (.file (Content.ofText text))
  directory : ∀ l, t.get? l = some .directory → t'.get? l = some .directory
  file : ∀ l content, l ≠ logLocation loc → t.get? l = some (.file content) →
    t'.get? l = some (.file content)
  log : ∀ content, t.get? (logLocation loc) = some (.file content) →
    t'.get? (logLocation loc) = some (.file (content.append (linesBytes lines)))
  newLog : t.get? (logLocation loc) = none → t'.get? (logLocation loc) =
    if lines = [] then none else some (.file (.bytes (linesBytes lines)))
  only : ∀ l, t.get? l = none → l ≠ logLocation loc → l ∉ files.map Prod.snd → t'.get? l = none

section Flat

variable (h : Trace d dir (tasksOf job d) w xs w') (hplain : d.SourcesOnly)
  (hflat : w.Flat dir loc)
include h hplain hflat

/-- What a deed wrote is a text. -/
theorem Trace.exists_textFile (hx : x ∈ xs) (hl : x.location? d dir = some l) :
    ∃ text, x.textFile? d dir = some (text, l) := by
  obtain ⟨path, houtput⟩ := Deed.exists_output_of_location hl
  obtain ⟨kind, entry, haction, -⟩ :=
    Deed.text_of_not_strays hl (h.not_strays hplain hflat hx)
  have hwritten : (x.output? d dir).isSome := by simp [houtput]
  obtain ⟨text, htext, -⟩ := Deed.read_text haction hwritten
  refine ⟨(entry, kind), Deed.textFile?_eq_some.mpr ⟨?_, hl⟩⟩
  rw [haction, Action.produced?, htext]
  rfl

/-- What was written for a text is there at the end. -/
theorem Trace.get?_textFile (hsave : d.SavesFrom source) {file : (ClassEntry × Kind) × Location}
    (hx : x ∈ xs) (hfile : x.textFile? d dir = some file) :
    ∃ text, d.text file.1.2 file.1.1 = .done text ∧
      w'.tree.get? file.2 = some (.file (Content.ofText text)) := by
  obtain ⟨⟨entry, kind⟩, l⟩ := file
  obtain ⟨hproduced, hl⟩ := Deed.textFile?_eq_some.mp hfile
  obtain ⟨path, houtput⟩ := Deed.exists_output_of_location hl
  obtain ⟨l', content, hl', hcontent, hlocate⟩ := locate_of_noOverwriting h.linked hsave
    hflat.stands (h.noOverwriting_flat hplain hflat hsave) hx houtput
  obtain rfl := Option.some.inj (hl.symm.trans hl')
  obtain ⟨kind', entry', haction, -⟩ :=
    Deed.text_of_not_strays hl (h.not_strays hplain hflat hx)
  have hwritten : (x.output? d dir).isSome := by simp [houtput]
  obtain ⟨text, htext, -⟩ := Deed.read_text haction hwritten
  simp only [haction, Action.produced?, htext, Outcome.isDone, if_true, Option.some.injEq,
    Prod.mk.injEq] at hproduced
  obtain ⟨rfl, rfl⟩ := hproduced
  obtain rfl : Content.ofText text = content := by
    simpa only [Deed.content?, haction, htext, Option.some.injEq] using hcontent
  exact ⟨text, htext, (Tree.locate_eq_ok hlocate).2.2.1⟩

/-- Nothing stood before where texts were written, and none of it is the log. -/
theorem Trace.textFile_fresh (hsave : d.SavesFrom source) {file : (ClassEntry × Kind) × Location}
    (hx : x ∈ xs) (hfile : x.textFile? d dir = some file) :
    w.tree.get? file.2 = none ∧ file.2 ≠ logLocation loc := by
  have hl := (Deed.textFile?_eq_some.mp hfile).2
  refine ⟨h.get?_location hplain hflat hsave hx hl, fun heq => ?_⟩
  rw [heq] at hl
  exact h.location_ne_log_flat hplain hflat hsave hx hl

/-- The log ends with the lines that it accepted. -/
theorem Trace.file?_log_flat (hsave : d.SavesFrom source) : w'.tree.file? (logLocation loc) =
    logged (w.tree.file? (logLocation loc)) (xs.filterMap (Deed.accepted? d dir)) :=
  linked_log h.linked hsave hflat.stands fun _ hx => h.location_ne_log_flat hplain hflat hsave hx

/-- A new log has the lines that it accepted; without any there is none. -/
theorem Trace.get?_newLog (hsave : d.SavesFrom source)
    (hnone : w.tree.get? (logLocation loc) = none) : w'.tree.get? (logLocation loc) =
      if xs.filterMap (Deed.accepted? d dir) = [] then none
      else some (.file (.bytes (linesBytes (xs.filterMap (Deed.accepted? d dir))))) := by
  have hlog := h.file?_log_flat hplain hflat hsave
  have hbefore : w.tree.file? (logLocation loc) = none := by rw [Tree.file?, hnone]
  rw [hbefore, logged_none] at hlog
  split at hlog
  · rename_i hlines
    rw [if_pos hlines, (h.evolves_flat hplain hflat).same id, hnone]
    rintro (⟨x, hx, hl⟩ | ⟨⟨x, hx, haccepted⟩, -⟩)
    · exact h.location_ne_log_flat hplain hflat hsave hx hl
    · rw [List.filterMap_eq_nil_iff.mp hlines x hx] at haccepted
      exact absurd haccepted (by simp)
  · rename_i hlines
    rw [if_neg hlines]
    exact Tree.file?_eq_some.mp hlog

theorem Trace.adds_of_savesFrom (hsave : d.SavesFrom source) :
    Adds d loc (xs.filterMap (Deed.textFile? d dir)) (xs.filterMap (Deed.accepted? d dir))
      w.tree w'.tree where
  nodup := by
    have hno := h.noOverwriting_flat hplain hflat hsave
    refine List.pairwise_map.mpr (List.pairwise_filterMap.mpr (hno.files.imp ?_))
    rintro x y hapart ⟨text, l⟩ hfile ⟨text', l'⟩ hfile' rfl
    exact hapart l (Deed.textFile?_eq_some.mp hfile).2 (Deed.textFile?_eq_some.mp hfile').2
  fresh := by
    intro file hmem
    obtain ⟨x, hx, hfile⟩ := List.mem_filterMap.mp hmem
    exact h.textFile_fresh hplain hflat hsave hx hfile
  content := by
    intro file hmem
    obtain ⟨x, hx, hfile⟩ := List.mem_filterMap.mp hmem
    exact h.get?_textFile hplain hflat hsave hx hfile
  directory := fun _ => (h.evolves_flat hplain hflat).directory
  file := by
    intro l content hne hcontent
    refine (h.evolves_flat hplain hflat).file hcontent ?_
    rintro (⟨x, hx, hl⟩ | ⟨-, rfl⟩)
    · rw [h.get?_location hplain hflat hsave hx hl] at hcontent
      exact absurd hcontent (by simp)
    · exact hne rfl
  log := by
    intro content hcontent
    have hlog := h.file?_log_flat hplain hflat hsave
    rw [Tree.file?_eq_some.mpr hcontent, logged_some] at hlog
    exact Tree.file?_eq_some.mp hlog
  newLog := h.get?_newLog hplain hflat hsave
  only := by
    intro l hnone hne hother
    rw [(h.evolves_flat hplain hflat).same id, hnone]
    rintro (⟨x, hx, hl⟩ | ⟨-, rfl⟩)
    · obtain ⟨text, hfile⟩ := h.exists_textFile hplain hflat hx hl
      exact hother (List.mem_map.mpr ⟨_, List.mem_filterMap.mpr ⟨x, hx, hfile⟩, rfl⟩)
    · exact hne rfl

/-- A pass over a decompiler without resources, with flattened names, only adds files and lines,
in every order. -/
theorem Trace.adds :
    Adds d loc (xs.filterMap (Deed.textFile? d dir)) (xs.filterMap (Deed.accepted? d dir))
      w.tree w'.tree := by
  have hno := fun x hx => h.action_ne_resource hplain.resources (x := x) hx
  have hsame := fun x hx => Deed.sameWith d (fun _ _ => .failed []) dir (hno x hx)
  have htrace : Trace (d.savingFrom fun _ _ => .failed []) dir
      (tasksOf job (d.savingFrom fun _ _ => .failed [])) w xs w' := h.savingFrom _ hno
  have hadds := htrace.adds_of_savesFrom ⟨hplain.resources, hplain.classes⟩ hflat
    (savesFrom_savingFrom d _)
  rw [List.filterMap_congr fun x hx => (hsame x hx).textFile (d.text_savingFrom _),
    List.filterMap_congr fun x hx => (hsame x hx).accepted] at hadds
  exact ⟨hadds.nodup, hadds.fresh, d.text_savingFrom _ ▸ hadds.content, hadds.directory, hadds.file,
    hadds.log, hadds.newLog, hadds.only⟩

end Flat

/-! ### Passes -/

namespace Decoder

variable {dec : Decoder} {provider : Provider} {prompt : Prompt} {w : World} {archive : String}
  {events : List Event}

/-- A pass that gets its directory and fails leaves the files as they are. -/
theorem tree_decode_of_failed (hidle : dec.pool.Idle)
    (hplace : (dec.prepareDir prompt w archive).2.2 = .ok (some dir))
    (hdone : (dec.decode provider prompt w archive events).1.state ≠ .done)
    (hend : (dec.decode provider prompt w archive events).1.state ≠ .awaiting) :
    (dec.decode provider prompt w archive events).2.2.tree = dec.preparedTree prompt w archive := by
  obtain ⟨-, -, hopening⟩ := opening_spec dec prompt w archive
  have hdecoded := decoded hidle provider prompt w archive events
  generalize dec.decode provider prompt w archive events = result at hdecoded hdone hend ⊢
  cases hdecoded with
  | refused e hmade => exact absurd (hmade.symm.trans hplace) (by simp)
  | skipped hmade => exact absurd (hmade.symm.trans hplace) (by simp)
  | unopened =>
      dsimp only
      rw [World.tree_write, hopening]
  | nothing => exact absurd rfl hdone
  | done => exact absurd rfl hdone
  | held => exact absurd rfl hend

end Decoder

/-- A pass that reuses an output directory, with flattened names and without resources, only adds
to it: a new file for each text that a class has and that the file system takes, and the lines of
the failures that the log takes, behind whatever it held. Everything else is as it was, whatever
happens while the tasks are awaited. A pass that fails changes nothing. Classes that panic, and
those behind them in their batches, are left open: for these there is at most one file for each
text that they have. -/
theorem merging_only_adds {dec : Decoder} (hready : dec.Ready) (provider : Provider)
    (prompt : Prompt) (w : World) (archive : String) (events : List Event)
    (hflatten : dec.job.flatten = true)
    (hexists : w.tree.exists? (outputDir dec.job archive) = true)
    (hmerge : dec.answer prompt w archive = .merge)
    (hplain : ∀ opened, provider archive dec.job.openOptions w.tree = .ok opened →
      opened.SourcesOnly) :
    ((dec.decode provider prompt w archive events).1.state ≠ .done →
      (dec.decode provider prompt w archive events).1.state ≠ .awaiting →
      (dec.decode provider prompt w archive events).2.2.tree = w.tree) ∧
    ((dec.decode provider prompt w archive events).1.state = .done → ∃ opened loc,
      provider archive dec.job.openOptions w.tree = .ok opened ∧
      w.tree.Stands (outputDir dec.job archive) loc ∧
      (calmTexts dec.job opened).Subperm
        ((dec.passDeeds prompt w archive opened events).filterMap fun x =>
          x.action.produced? opened) ∧
      ((dec.passDeeds prompt w archive opened events).filterMap fun x =>
        x.action.produced? opened).Subperm (archiveTexts dec.job opened) ∧
      (dec.decode provider prompt w archive events).1.failed =
        (dec.passRecords prompt w archive opened events).length ∧
      Adds opened loc
        ((dec.passDeeds prompt w archive opened events).filterMap
          (Deed.textFile? opened (outputDir dec.job archive)))
        ((dec.passDeeds prompt w archive opened events).filterMap
          (Deed.accepted? opened (outputDir dec.job archive)))
        w.tree (dec.decode provider prompt w archive events).2.2.tree) := by
  have hanswer : dec.answer prompt w archive ≠ .overwrite := by
    rw [hmerge]
    simp
  obtain ⟨hkept, hplace⟩ := Decoder.prepareDir_of_not_overwrite hexists hanswer
  rw [if_pos ⟨hmerge, hflatten⟩] at hplace
  refine ⟨fun hdone hend =>
      (Decoder.tree_decode_of_failed hready.idle hplace hdone hend).trans hkept, fun hdone => ?_⟩
  obtain ⟨opened, hpassed⟩ := hready.passed hdone
  obtain ⟨loc, hstands⟩ := hpassed.stands
  have hsource := hpassed.source
  have htrace := hpassed.trace
  have hflat : (dec.passStart prompt w archive).Flat (outputDir dec.job archive) loc :=
    ⟨by rw [Decoder.passStart_resolver], by rw [Decoder.passStart_resolver, hflatten],
      Decoder.outputDir_ne_empty _ _, by rwa [Decoder.passStart_tree]⟩
  rw [hkept] at hsource hstands
  have hadds := htrace.adds (hplain opened hsource) hflat
  rw [Decoder.passStart_tree, hkept, ← hpassed.tree] at hadds
  obtain ⟨hlower, hupper⟩ := htrace.subperm_produced (hplain opened hsource).resources
  refine ⟨opened, loc, hsource, hstands, hlower, hupper, ?_, hadds⟩
  rw [hpassed.failed, failed_linked htrace.linked]
  exact Nat.zero_add _

/-- A tree with an archive of a class, and with an output directory from a pass before. -/
def treeWithOutput : Tree :=
  { nodes :=
    [(["app.jar"], .file (.archive { members := [⟨"a/Main.class", []⟩] })),
      (["out"], .directory), (["out", "app.jar_sources"], .directory),
      (["out", "app.jar_sources", "Main.java"], .file (.bytes [66])),
      (["out", "app.jar_sources", "_failed_classes"], .file (.bytes [45]))] }

/-- The pass of a new decoder that reuses this directory. -/
def mergingPass : Report × Decoder × World :=
  (Decoder.ofJob { outputRoot := "out", flatten := true }).decode
    (jarProvider plainTools ⟨"cfr.jar", true⟩) (.fixed .merge) { tree := treeWithOutput } "app.jar"

/-- The class gets the next name, and the file from before stays as it was. -/
theorem class_is_added_beside_output :
    mergingPass.1.state = .done ∧
    mergingPass.2.2.tree.isFile "out/app.jar_sources/Main~2.java" = true ∧
    mergingPass.2.2.tree.get? ["out", "app.jar_sources", "Main.java"] =
      some (.file (.bytes [66])) := by
  have hdone : mergingPass.1.state = .done := by decide +kernel
  have hloc : treeWithOutput.descend (treeWithOutput.start "out/app.jar_sources")
      (Tree.steps "out/app.jar_sources") = .ok ["out", "app.jar_sources"] := by decide +kernel
  obtain ⟨-, hadded⟩ := merging_only_adds (.ofJob { outputRoot := "out", flatten := true })
    (jarProvider plainTools ⟨"cfr.jar", true⟩) (.fixed .merge) { tree := treeWithOutput } "app.jar"
    [] rfl (by decide +kernel) rfl fun opened h => sourcesOnly_of_jarProvider h rfl
  obtain ⟨opened, loc, -, hstands, -, -, -, hadds⟩ := hadded hdone
  obtain rfl := Except.ok.inj (hstands.1.symm.trans hloc)
  exact ⟨hdone, by decide +kernel, hadds.file _ _ (by decide) (by decide +kernel)⟩

/-- The pass of a new decoder that reuses a directory in which some things are. -/
def reusingPass (d : Decompiler) (found : List (Location × Node)) : Report × Decoder × World :=
  (Decoder.ofJob { outputRoot := "out", flatten := true }).decode (fun _ _ _ => .ok d)
    (.fixed .merge)
    { tree := { nodes := (["out"], .directory) :: (["out", "app.jar_sources"], .directory) :: found } }
    "app.jar"

/-- Where a directory is in place of the log, a class that fails is counted, but no log is added. A
class that panics is not counted, and no log is added either. -/
theorem failed_class_adds_no_log :
    ((reusingPass (moody ["a"] [] [])
        [(["out", "app.jar_sources", "_failed_classes"], .directory)]).1.state = .done ∧
      (reusingPass (moody ["a"] [] [])
        [(["out", "app.jar_sources", "_failed_classes"], .directory)]).1.failed = 1 ∧
      (reusingPass (moody ["a"] [] [])
        [(["out", "app.jar_sources", "_failed_classes"], .directory)]).2.2.tree.isFile
          "out/app.jar_sources/_failed_classes" = false) ∧
    ((reusingPass (moody [] ["a"] []) []).1.state = .done ∧
      (reusingPass (moody [] ["a"] []) []).1.failed = 0 ∧
      (reusingPass (moody [] ["a"] []) []).2.2.tree.nodes.map Prod.fst =
        [["out"], ["out", "app.jar_sources"]]) := by
  decide +kernel

end ArchiveScout.Decode
