import ArchiveScout.Proofs.Archive.Grouping
import ArchiveScout.Proofs.Decode.Hierarchy

/-!
# ArchiveScout.Proofs.Decode.Coverage

**Every class in one task.** The entries of an archive divide its classes among them, and a pass has
one task for every entry that is selected. No class is therefore written by two tasks, and without a
selection every class is written by one.
-/

namespace ArchiveScout.Decode

open ArchiveScout.Archive (Catalog ClassEntry Partitions catalog countP_covers
  groupClasses partitions_groupClasses)
open ArchiveScout.File (Tree)

variable {d : Decompiler} {job : Job} {path : String} {paths : List String} {entry : ClassEntry}

/-- Whether a task hands out files for a class, or for one that the class is written with. -/
def Task.covers (path : String) (task : Task) : Bool :=
  task.any fun
    | .reserve entry => entry.covers path
    | _ => false

theorem covers_classActions (job : Job) (entry : ClassEntry) (path : String) :
    Task.covers path (classActions job entry) = entry.covers path := by
  simp [Task.covers, classActions]

/-- Tasks for resources cover no class. -/
theorem covers_resourceTask {name : String} {task : Task} (h : resourceTask? job name = some task)
    (path : String) : Task.covers path task = false := by
  rw [resourceTask?] at h
  split at h
  · obtain rfl := Option.some.inj h
    rfl
  · exact absurd h (by simp)

/-- The tasks that cover a class are as many as the entries that are asked for and cover it. -/
theorem countP_tasksOf {tools : Toolbox} {cfr : Cfr} {archive : String} {t : Tree}
    {listed : Catalog} (hopen : openJar tools cfr archive job.openOptions t = .ok d)
    (hlisted : catalog t archive = .ok listed) (path : String) :
    (tasksOf job d).countP (Task.covers path) =
      (askedClasses job listed.classes).countP fun entry => entry.covers path := by
  have hresources : (d.resources.filterMap (resourceTask? job)).countP (Task.covers path) = 0 := by
    rw [List.countP_eq_zero]
    intro task htask
    obtain ⟨name, -, hname⟩ := List.mem_filterMap.mp htask
    simp [covers_resourceTask hname]
  rw [tasksOf, batchTasks_openJar hopen hlisted, List.countP_append, hresources, Nat.add_zero,
    List.countP_map]
  refine List.countP_congr fun entry _ => ?_
  rw [Function.comp_apply, covers_classActions]

theorem mem_of_covers (hentry : entry ∈ groupClasses paths) (h : entry.covers path = true) :
    path ∈ paths := by
  have hpartitions := partitions_groupClasses paths
  rw [ClassEntry.covers, Bool.or_eq_true, beq_iff_eq, List.contains_iff_mem] at h
  rcases h with rfl | hinner
  · exact hpartitions.given entry hentry
  · rw [hpartitions.inner entry hentry] at hinner
    exact List.mem_of_mem_filter hinner

theorem askedClasses_sublist (job : Job) (paths : List String) :
    (askedClasses job paths).Sublist (groupClasses paths) := by
  rw [askedClasses]
  split
  · exact List.nil_sublist _
  · exact List.filter_sublist

theorem askedClasses_all (hkinds : job.kinds ≠ []) (hall : job.sourceFilter = .all)
    (paths : List String) : askedClasses job paths = groupClasses paths := by
  rw [askedClasses, if_neg hkinds, eligible, hall]
  exact List.filter_eq_self.mpr fun entry _ => rfl

/-- Grouping divides class paths among entries: every path is that of one entry or inside of one.
A pass over an archive therefore covers no class with two tasks, and each one with a task if texts
of all classes are wanted. -/
theorem classes_are_divided_among_tasks :
    (∀ paths, Partitions (groupClasses paths) paths) ∧
      ∀ (tools : Toolbox) (cfr : Cfr) (archive : String) (t : Tree) (job : Job) (d : Decompiler),
        openJar tools cfr archive job.openOptions t = .ok d →
          ∃ listed, catalog t archive = .ok listed ∧
            (∀ task ∈ tasksOf job d, ∀ path, Task.covers path task = true →
              path ∈ listed.classes) ∧
            (∀ path, (tasksOf job d).countP (Task.covers path) ≤ 1) ∧
            (job.kinds ≠ [] → job.sourceFilter = .all → ∀ path ∈ listed.classes,
              (tasksOf job d).countP (Task.covers path) = 1) := by
  refine ⟨partitions_groupClasses, fun tools cfr archive t job d hopen => ?_⟩
  obtain ⟨listed, hlisted, -⟩ := openJar_eq_ok hopen
  have hcount := countP_tasksOf hopen hlisted
  have hknown : ∀ path, 0 < (tasksOf job d).countP (Task.covers path) → path ∈ listed.classes := by
    intro path hpos
    rw [hcount, List.countP_pos_iff] at hpos
    obtain ⟨entry, hentry, hcovers⟩ := hpos
    exact mem_of_covers ((askedClasses_sublist job listed.classes).subset hentry) hcovers
  refine ⟨listed, hlisted, ?_, fun path => ?_, fun hkinds hall path hpath => ?_⟩
  · intro task htask path hcovers
    exact hknown path (List.countP_pos_iff.mpr ⟨task, htask, hcovers⟩)
  · by_cases hpath : path ∈ listed.classes
    · rw [hcount, ← countP_covers hpath]
      exact (askedClasses_sublist job listed.classes).countP_le
    · have hzero := mt (hknown path) hpath
      omega
  · rw [hcount, askedClasses_all hkinds hall, countP_covers hpath]

/-- A class that is written with the one around it is covered once. -/
theorem inner_class_is_covered_once :
    ∃ d, openJar brokenTools ⟨"cfr.jar", true⟩ "app.jar" hierarchyDecoder.job.openOptions
        hierarchyTree = .ok d ∧
      (tasksOf hierarchyDecoder.job d).countP (Task.covers "a/Main$1") = 1 := by
  have hopen := openJar_of_jarProvider openJar_hierarchyTree
  obtain ⟨listed, hlisted, -, -, hall⟩ := classes_are_divided_among_tasks.2 brokenTools
    ⟨"cfr.jar", true⟩ "app.jar" hierarchyTree hierarchyDecoder.job hierarchyJar hopen
  obtain rfl := Except.ok.inj (hlisted.symm.trans catalog_hierarchyTree)
  exact ⟨hierarchyJar, hopen, hall (by decide) rfl "a/Main$1" (by decide)⟩

end ArchiveScout.Decode
