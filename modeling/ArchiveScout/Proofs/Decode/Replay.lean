import ArchiveScout.Proofs.Decode.Deed
import ArchiveScout.Proofs.Decode.Strand
import ArchiveScout.Proofs.Decode.Task
import ArchiveScout.Proofs.Decode.Assignment

/-!
# ArchiveScout.Proofs.Decode.Replay

**What is the same in every order.** When the answers of a decompiler depend only on the class
or the resource that is asked for, every order does the same actions: those of each task, up to
one that panics. If moreover an action alone decides whether the file system takes what it has to
write, every order logs the same lines, as often.
-/

namespace ArchiveScout.Decode

open ArchiveScout.Archive (ClassEntry)
open ArchiveScout.File

variable {d : Decompiler} {dir : String} {job : Job} {w w' v v' : Workspace} {x : Deed}
  {xs ys : List Deed} {source : String → Tree → Outcome (List UInt8)}
  {content : String → Outcome (List UInt8)} {taken : Action → Bool}

/-- Whether an action panics. -/
def Action.panics (d : Decompiler) (content : String → Outcome (List UInt8)) : Action → Bool
  | .text kind entry => d.text kind entry = .panicked
  | .resource name => content name = .panicked
  | _ => false

/-- The actions of a task that come to be done. -/
def executed (d : Decompiler) (content : String → Outcome (List UInt8)) : Task → Task
  | [] => []
  | action :: rest => action :: if action.panics d content then [] else executed d content rest

/-- The kinds of text that come to be written for a class: those that are done, up to one that
panics. -/
def writtenKinds (d : Decompiler) (entry : ClassEntry) : List Kind → List Kind
  | [] => []
  | kind :: kinds =>
      match d.text kind entry with
      | .done _ => kind :: writtenKinds d entry kinds
      | .failed _ => writtenKinds d entry kinds
      | .panicked => []

/-- The line that an action logs, if the file system takes what some of the actions write. -/
def Action.line? (job : Job) (d : Decompiler) (content : String → Outcome (List UInt8))
    (taken : Action → Bool) : Action → Option String
  | .settle entry =>
      if job.kinds.all fun kind => (d.text kind entry).isDone && taken (.text kind entry) then none
      else some (classRecord entry)
  | .resource name =>
      match content name with
      | .done _ => if taken (.resource name) then none else some (resourceRecord name)
      | .failed _ => some (resourceRecord name)
      | .panicked => none
  | _ => none

/-- A deed for a resource finds what the resource has in all orders. -/
def Deed.Steady (source : String → Tree → Outcome (List UInt8))
    (content : String → Outcome (List UInt8)) (x : Deed) : Prop :=
  ∀ name, x.action = .resource name → source name x.before.tree = content name

/-- The file system refuses what a deed has to write, or its line. -/
def Deed.Refused (d : Decompiler) (dir : String) (source : String → Tree → Outcome (List UInt8))
    (x : Deed) : Prop :=
  (x.content? d source).isSome ∧ x.output? d dir = none ∨ x.LogRefused d dir

instance (d : Decompiler) (dir : String) (source : String → Tree → Outcome (List UInt8))
    (x : Deed) : Decidable (x.Refused d dir source) :=
  inferInstanceAs (Decidable (_ ∧ _ ∨ _))

/-- Nothing came in the way of a run: resources had in it what they have in all orders, and the
file system refused nothing. -/
structure Undisturbed (d : Decompiler) (dir : String)
    (source : String → Tree → Outcome (List UInt8)) (content : String → Outcome (List UInt8))
    (xs : List Deed) : Prop where
  steady : ∀ x ∈ xs, x.Steady source content
  smooth : ∀ x ∈ xs, ¬ x.Refused d dir source

/-- The actions decide how a run ends: what a resource has in it, and whether the file system takes
what is written. -/
structure Decided (d : Decompiler) (dir : String) (source : String → Tree → Outcome (List UInt8))
    (content : String → Outcome (List UInt8)) (taken : Action → Bool) (xs : List Deed) : Prop where
  steady : ∀ x ∈ xs, x.Steady source content
  written : ∀ x ∈ xs, (x.content? d source).isSome → (x.output? d dir).isSome = taken x.action

/-! ### Actions -/

theorem Deed.kept_eq_none_iff (hsave : d.SavesFrom source) (hsteady : x.Steady source content) :
    x.kept d dir = none ↔ x.action.panics d content = true := by
  cases x.effect d dir with
  | saved name path t haction hsaved _ hkept =>
      rw [hsave, hsteady name haction] at hsaved
      obtain ⟨data, hdata, -⟩ := saveFound_done hsaved
      simp [hkept, haction, Action.panics, hdata]
  | unsaved name causes t haction hsaved _ hkept =>
      rw [hsave, hsteady name haction] at hsaved
      have hno : content name ≠ .panicked := by
        intro hpanic
        rw [hpanic] at hsaved
        exact absurd (Prod.mk.inj hsaved).2 (by simp)
      simp [hkept, haction, Action.panics, hno]
  | lost name t haction hsaved _ hkept =>
      rw [hsave, hsteady name haction] at hsaved
      simp [hkept, haction, Action.panics, saveFound_panicked hsaved]
  | _ => simp_all [Action.panics]

theorem Thread.map_executed {behind todo : Task} {progress : Progress} {ending : Option Progress}
    (h : Thread d dir behind progress todo xs ending) (hsave : d.SavesFrom source)
    (hsteady : ∀ x ∈ xs, x.Steady source content) :
    xs.map (·.action) = executed d content todo := by
  induction h with
  | nil => rfl
  | @cons x _ _ _ _ _ hkept _ ih =>
      have hno : ¬ x.action.panics d content = true := by
        rw [← Deed.kept_eq_none_iff hsave (hsteady x List.mem_cons_self), hkept]
        simp
      rw [List.map_cons, ih fun y hy => hsteady y (List.mem_cons_of_mem x hy), executed, if_neg hno]
  | @panic x _ _ hkept =>
      rw [executed, if_pos ((Deed.kept_eq_none_iff hsave (hsteady x List.mem_cons_self)).mp hkept)]
      rfl

/-- A run does what comes to be done of each of its tasks, and this depends on the tasks alone. -/
theorem Trace.perm_executed {tasks : List Task} (hsave : d.SavesFrom source)
    (h : Trace d dir tasks w xs w') (hsteady : ∀ x ∈ xs, x.Steady source content) :
    (xs.map (·.action)).Perm (tasks.flatMap (executed d content)) := by
  have htasks : tasks = (List.range tasks.length).map fun i => tasks[i]?.getD [] := by
    refine List.ext_getElem (by simp) fun i hi _ => ?_
    simp [List.getElem?_eq_getElem hi]
  have hplaces : (List.range tasks.length).flatMap
      (fun i => (xs.filter (·.place = i)).map (·.action)) =
        (List.range tasks.length).flatMap fun i => executed d content (tasks[i]?.getD []) := by
    refine List.flatMap_congr fun i hi => ?_
    have htask := List.getElem?_eq_getElem (List.mem_range.mp hi)
    obtain ⟨ending, hthread⟩ := h.thread i _ htask
    have hstrand : ∀ x ∈ xs.filter (·.place = i), x.Steady source content :=
      fun x hx => hsteady x (List.mem_of_mem_filter hx)
    rw [hthread.map_executed hsave hstrand, htask, Option.getD_some]
  have hperm := (perm_places _ xs h.place).map (·.action)
  rw [List.map_flatMap, hplaces] at hperm
  rwa [htasks, List.flatMap_map]

/-- Two runs of the same tasks do the same actions, if in another order. -/
theorem Trace.perm_actions {tasks : List Task} (hsave : d.SavesFrom source)
    (h : Trace d dir tasks w xs w') (hsteady : ∀ x ∈ xs, x.Steady source content)
    (h' : Trace d dir tasks v ys v') (hsteady' : ∀ y ∈ ys, y.Steady source content) :
    (xs.map (·.action)).Perm (ys.map (·.action)) :=
  (h.perm_executed hsave hsteady).trans (h'.perm_executed hsave hsteady').symm

/-- Where no action of a task panics, all come to be done. -/
theorem executed_eq_self {task : Task} (h : ∀ action ∈ task, action.panics d content = false) :
    executed d content task = task := by
  induction task with
  | nil => rfl
  | cons action rest ih =>
      have hfirst := h action List.mem_cons_self
      rw [executed, if_neg (by simp [hfirst]), ih fun other hother =>
        h other (List.mem_cons_of_mem action hother)]

/-- The kinds of text that come to be written are those whose actions are done, and have an
answer. -/
theorem mem_writtenKinds (content : String → Outcome (List UInt8)) {entry : ClassEntry}
    {kind : Kind} {kinds : List Kind} :
    kind ∈ writtenKinds d entry kinds ↔ (d.text kind entry).isDone = true ∧
      Action.text kind entry ∈
        executed d content (kinds.map (.text · entry) ++ [.settle entry]) := by
  induction kinds with
  | nil => simp [writtenKinds, executed, Action.panics]
  | cons other kinds ih =>
      rw [writtenKinds, List.map_cons, List.cons_append, executed, Action.panics]
      cases hother : d.text other entry with
      | done text =>
          rw [List.mem_cons, ih, if_neg (by simp), List.mem_cons]
          by_cases hkind : kind = other
          · simp [hkind, hother, Outcome.isDone]
          · simp [hkind]
      | failed causes =>
          rw [ih, if_neg (by simp), List.mem_cons]
          by_cases hkind : kind = other
          · simp [hkind, hother, Outcome.isDone]
          · simp [hkind]
      | panicked =>
          rw [if_pos (by simp), List.mem_singleton]
          constructor
          · exact fun h => absurd h List.not_mem_nil
          · rintro ⟨hdone, haction⟩
            obtain ⟨rfl, -⟩ := Action.text.inj haction
            simp [hother, Outcome.isDone] at hdone

/-! ### Lines -/

/-- Only what a deed has to write is written. -/
theorem Deed.content?_of_output? (hsave : d.SavesFrom source) (houtput : (x.output? d dir).isSome) :
    (x.content? d source).isSome := by
  cases x.fileEffect hsave dir with
  | wrote _ _ _ _ _ _ hcontent => simp [hcontent]
  | logged _ hnone => simp [hnone] at houtput
  | quiet hnone => simp [hnone] at houtput

/-- Where nothing is refused, whatever is to be written is taken. -/
theorem Undisturbed.decided (h : Undisturbed d dir source content xs) :
    Decided d dir source content (fun _ => true) xs := by
  refine ⟨h.steady, fun x hx hcontent => ?_⟩
  by_contra hno
  exact h.smooth x hx (.inl ⟨hcontent, by simpa using hno⟩)

namespace Decided

/-- A deed writes if it has something to write and this is taken. -/
theorem output?_isSome (h : Decided d dir source content taken xs) (hsave : d.SavesFrom source)
    (hx : x ∈ xs) :
    (x.output? d dir).isSome = ((x.content? d source).isSome && taken x.action) := by
  cases hcontent : (x.content? d source).isSome with
  | true => rw [h.written x hx hcontent, Bool.true_and]
  | false =>
      rw [Bool.false_and, ← Bool.not_eq_true]
      intro houtput
      exact absurd (Deed.content?_of_output? hsave houtput) (by simp [hcontent])

theorem text_written {kind : Kind} {entry : ClassEntry}
    (h : Decided d dir source content taken xs) (hsave : d.SavesFrom source) (hx : x ∈ xs)
    (haction : x.action = .text kind entry) : (x.output? d dir).isSome =
      ((d.text kind entry).isDone && taken (.text kind entry)) := by
  rw [h.output?_isSome hsave hx, Deed.content?_text haction, haction]

theorem resource_written {name : String} (h : Decided d dir source content taken xs)
    (hsave : d.SavesFrom source) (hx : x ∈ xs) (haction : x.action = .resource name) :
    (x.output? d dir).isSome = ((content name).isDone && taken (.resource name)) := by
  rw [h.output?_isSome hsave hx, Deed.content?_resource haction, h.steady x hx name haction,
    haction]

/-- A resource gets a line if its bytes cannot be had or are not taken. -/
theorem resource_record {name : String} (h : Decided d dir source content taken xs)
    (hsave : d.SavesFrom source) (hx : x ∈ xs) (haction : x.action = .resource name) (job : Job) :
    x.record? d dir = (Action.resource name).line? job d content taken := by
  have hwritten := h.resource_written hsave hx haction
  have hfound := h.steady x hx name haction
  rw [Action.line?]
  cases x.effect d dir with
  | saved name' path t haction' hsaved _ _ houtput hrecord =>
      rw [hrecord]
      rw [houtput, Option.isSome_some, eq_comm, Bool.and_eq_true] at hwritten
      obtain ⟨hdone, htaken⟩ := hwritten
      cases hcontent : content name with
      | done data => exact (if_pos htaken).symm
      | failed causes => simp [hcontent, Outcome.isDone] at hdone
      | panicked => rfl
  | unsaved name' causes t haction' hsaved _ _ houtput hrecord =>
      obtain rfl := Action.resource.inj (haction.symm.trans haction')
      rw [hsave, hfound] at hsaved
      rw [houtput] at hwritten
      rw [hrecord]
      cases hcontent : content name with
      | done data =>
          rw [hcontent] at hwritten
          have hno : taken (.resource name) = false := hwritten.symm
          exact (if_neg (by simp [hno])).symm
      | failed _ => rfl
      | panicked =>
          rw [hcontent] at hsaved
          exact absurd (Prod.mk.inj hsaved).2 (by simp)
  | lost name' t haction' hsaved _ _ _ hrecord =>
      obtain rfl := Action.resource.inj (haction.symm.trans haction')
      rw [hsave, hfound] at hsaved
      rw [hrecord, saveFound_panicked hsaved]
  | _ => simp_all

end Decided

/-- A class is sound if all its texts were there and taken. -/
theorem Trace.sound_eq {entry : ClassEntry} (h : Trace d dir (tasksOf job d) w xs w')
    (hsave : d.SavesFrom source) (hdecided : Decided d dir source content taken xs) (hx : x ∈ xs)
    (haction : x.action = .settle entry) : x.progress.sound =
      job.kinds.all fun kind => (d.text kind entry).isDone && taken (.text kind entry) := by
  obtain ⟨-, behind, first, ys, ending, hpiece, hmem, hsub⟩ :=
    h.exists_piece hx (.inr (.inr haction))
  have hxys : x ∈ ys := hpiece.mem_tail hmem (by simp [haction])
  obtain ⟨texts, rfl, hactions, hsound⟩ := hpiece.settled_of_mem hxys haction
  have hdone : ∀ y ∈ texts, ∀ kind, y.action = .text kind entry → (y.output? d dir).isSome =
      ((d.text kind entry).isDone && taken (.text kind entry)) := by
    intro y hy kind hkind
    have hyxs : y ∈ xs := hsub (List.mem_cons_of_mem _ (List.mem_append_left _ hy))
    rw [hdecided.text_written hsave hyxs hkind]
  rw [Bool.eq_iff_iff, hsound, List.all_eq_true]
  constructor
  · intro hwritten kind hkind
    have hin : Action.text kind entry ∈ texts.map (·.action) := by
      rw [hactions]
      exact List.mem_map_of_mem hkind
    obtain ⟨y, hy, hyaction⟩ := List.mem_map.mp hin
    exact hdone y hy kind hyaction ▸ hwritten y hy
  · intro hwritten y hy
    have hin := List.mem_map_of_mem (f := (·.action)) hy
    rw [hactions, List.mem_map] at hin
    obtain ⟨kind, hkind, hyaction⟩ := hin
    rw [hdone y hy kind hyaction.symm]
    exact hwritten kind hkind

/-- The line that a deed logs depends only on its action. -/
theorem Trace.record?_eq (hsave : d.SavesFrom source) (h : Trace d dir (tasksOf job d) w xs w')
    (hdecided : Decided d dir source content taken xs) (hx : x ∈ xs) :
    x.record? d dir = x.action.line? job d content taken := by
  cases haction : x.action with
  | reserve entry => rw [Deed.record?, haction]; rfl
  | text kind entry => rw [Deed.record?, haction]; rfl
  | settle entry =>
      have hsound := h.sound_eq hsave hdecided hx haction
      simp only [Deed.record?, haction, Action.line?, hsound]
  | resource name => exact hdecided.resource_record hsave hx haction job

/-- The lines of a run are those of its actions. -/
theorem Trace.records_eq (hsave : d.SavesFrom source) (h : Trace d dir (tasksOf job d) w xs w')
    (hdecided : Decided d dir source content taken xs) : xs.filterMap (Deed.record? d dir) =
      (xs.map (·.action)).filterMap (Action.line? job d content taken) := by
  rw [List.filterMap_map]
  exact List.filterMap_congr fun x hx => h.record?_eq hsave hdecided hx

/-- Two runs of the same tasks log the same lines, if in another order. -/
theorem Trace.perm_records (hsave : d.SavesFrom source)
    (h : Trace d dir (tasksOf job d) w xs w') (hdecided : Decided d dir source content taken xs)
    (h' : Trace d dir (tasksOf job d) v ys v')
    (hdecided' : Decided d dir source content taken ys) :
    (xs.filterMap (Deed.record? d dir)).Perm (ys.filterMap (Deed.record? d dir)) := by
  rw [h.records_eq hsave hdecided, h'.records_eq hsave hdecided']
  exact (Trace.perm_actions hsave h hdecided.steady h' hdecided'.steady).filterMap _

end ArchiveScout.Decode
