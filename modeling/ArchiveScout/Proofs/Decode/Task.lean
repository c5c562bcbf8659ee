import ArchiveScout.Decode.Task

/-!
# ArchiveScout.Proofs.Decode.Task

**Which tasks a pass has.** There is one for every batch with a selected class and one for every
selected resource, and no others; the batches come first.
-/

namespace ArchiveScout.Decode

open ArchiveScout.Archive (ClassEntry)

variable {d : Decompiler} {job : Job}

/-- The classes of a batch that are selected. -/
def eligible (job : Job) (batch : List ClassEntry) : List ClassEntry :=
  batch.filter (isEligible job.sourceFilter)

/-- A class is selected in one of the batches. -/
def Selected (job : Job) (d : Decompiler) (entry : ClassEntry) : Prop :=
  ∃ batch ∈ d.batches, entry ∈ eligible job batch

/-- A resource is selected. -/
def Requested (job : Job) (d : Decompiler) (name : String) : Prop :=
  name ∈ d.resources ∧ job.resourceFilter.accepts name = true

/-- The place of a batch among the tasks, given the batches before it. -/
def batchPlace (job : Job) (before : List (List ClassEntry)) : Nat :=
  (before.filterMap (batchTask? job)).length

/-- The place of a resource among the tasks, given the resources before it. -/
def resourcePlace (job : Job) (d : Decompiler) (before : List String) : Nat :=
  batchPlace job d.batches + (before.filterMap (resourceTask? job)).length

theorem getElem?_filterMap_append {α β : Type} {f : α → Option β} {a : α} {b : β} (h : f a = some b)
    (before after : List α) :
    ((before ++ a :: after).filterMap f)[(before.filterMap f).length]? = some b := by
  rw [List.filterMap_append, List.filterMap_cons_some h, List.getElem?_append_right (Nat.le_refl _),
    Nat.sub_self]
  rfl

/-- Every batch with a selected class has a task. -/
theorem task_of_batch {before after : List (List ClassEntry)} {batch : List ClassEntry}
    (hbatches : d.batches = before ++ batch :: after) (hne : eligible job batch ≠ []) :
    (tasksOf job d)[batchPlace job before]? =
      some ((eligible job batch).flatMap (classActions job)) := by
  have htask : batchTask? job batch = some ((eligible job batch).flatMap (classActions job)) := by
    rw [batchTask?, if_neg (by simpa [eligible] using hne)]
    rfl
  have hget := getElem?_filterMap_append htask before after
  rw [← hbatches] at hget
  rw [tasksOf, batchPlace, List.getElem?_append_left (List.getElem?_eq_some_iff.mp hget).1]
  exact hget

/-- Every selected resource has a task. -/
theorem task_of_resource {before after : List String} {name : String}
    (hresources : d.resources = before ++ name :: after)
    (haccepts : job.resourceFilter.accepts name = true) :
    (tasksOf job d)[resourcePlace job d before]? = some [.resource name] := by
  have htask : resourceTask? job name = some [.resource name] := by
    rw [resourceTask?, if_pos haccepts]
  have hget := getElem?_filterMap_append htask before after
  rw [← hresources] at hget
  rw [tasksOf, resourcePlace, batchPlace, List.getElem?_append_right (Nat.le_add_right _ _),
    Nat.add_sub_cancel_left]
  exact hget

/-- Every task is for the classes of a batch or for a resource. -/
theorem task_cases {i : Nat} {task : Task} (h : (tasksOf job d)[i]? = some task) :
    (∃ batch ∈ d.batches, task = (eligible job batch).flatMap (classActions job)) ∨
      ∃ name ∈ d.resources, job.resourceFilter.accepts name = true ∧ task = [.resource name] := by
  have hmem := List.mem_of_getElem? h
  rw [tasksOf, List.mem_append, List.mem_filterMap, List.mem_filterMap] at hmem
  rcases hmem with ⟨batch, hbatch, htask⟩ | ⟨name, hname, htask⟩
  · rw [batchTask?] at htask
    split at htask
    · exact absurd htask (by simp)
    · exact .inl ⟨batch, hbatch, (Option.some.inj htask).symm⟩
  · rw [resourceTask?] at htask
    split at htask
    · rename_i haccepts
      exact .inr ⟨name, hname, haccepts, (Option.some.inj htask).symm⟩
    · exact absurd htask (by simp)

/-- There is a task for each batch with a selected class, and for each selected resource. -/
theorem length_tasksOf (job : Job) (d : Decompiler) : (tasksOf job d).length =
    d.batches.countP (·.any (isEligible job.sourceFilter)) +
      d.resources.countP job.resourceFilter.accepts := by
  rw [tasksOf, List.length_append, List.length_filterMap_eq_countP,
    List.length_filterMap_eq_countP]
  congr 1
  · refine List.countP_congr fun batch _ => ?_
    simp [batchTask?]
  · refine List.countP_congr fun name _ => ?_
    simp [resourceTask?]

end ArchiveScout.Decode
