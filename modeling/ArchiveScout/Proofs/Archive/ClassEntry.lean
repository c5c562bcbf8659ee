import ArchiveScout.Archive.ClassEntry
import ArchiveScout.Proofs.File.Path
import Mathlib.Data.List.Nodup

/-!
# ArchiveScout.Proofs.Archive.ClassEntry

**The entries of an archive.** Class paths that fold into the same top-level class come into one
entry, so entries have different paths, and each of these is among the given ones.
-/

namespace ArchiveScout.Archive

open ArchiveScout.File

variable {path : String} {paths : List String} {entry : ClassEntry}

/-- A class path as class files have it: names between slashes, none of them empty and none with
a point, a semicolon or a bracket. -/
def IsBinaryName (path : String) : Prop :=
  ∀ name ∈ Path.pieces path,
    name ≠ "" ∧ '.' ∉ name.toList ∧ ';' ∉ name.toList ∧ '[' ∉ name.toList

instance (path : String) : Decidable (IsBinaryName path) :=
  inferInstanceAs (Decidable (∀ name ∈ Path.pieces path, _))

/-- Points do not stand in binary names. -/
theorem IsBinaryName.step (h : IsBinaryName path) {name : String}
    (hname : name ∈ Path.pieces path) : Path.isStep name = true ∧ name ≠ ".." := by
  obtain ⟨hne, hpoint, -, -⟩ := h name hname
  have hother : ∀ text : String, '.' ∈ text.toList → name ≠ text := by
    rintro text hmem rfl
    exact hpoint hmem
  refine ⟨?_, hother ".." (by decide)⟩
  simp [Path.isStep, hne, hother "." (by decide)]

/-! ### Grouping -/

/-- The top-level class of a path is the path itself or a known one. -/
theorem topLevelClass_cases (known : String → Bool) (path : String) :
    topLevelClass known path = path ∨ known (topLevelClass known path) = true := by
  rw [topLevelClass]
  cases hfind : ((outerPaths path.toList).map String.ofList).find? known with
  | none => exact .inl rfl
  | some outer => exact .inr (List.find?_some hfind)

theorem mem_sorted {texts : List String} {text : String} : text ∈ sorted texts ↔ text ∈ texts :=
  List.mem_mergeSort

theorem sorted_eq_self {texts : List String} (h : texts.Pairwise (· ≤ ·)) :
    sorted texts = texts := by
  refine List.mergeSort_of_pairwise (h.imp ?_)
  intro a b hab
  simpa using hab

/-- The path of an entry is one of those that were grouped. -/
theorem aliasPath_mem (h : entry ∈ groupClasses paths) : entry.aliasPath ∈ paths := by
  rw [groupClasses, List.mem_map] at h
  obtain ⟨top, htop, rfl⟩ := h
  rw [List.mem_eraseDups, mem_sorted, List.mem_map] at htop
  obtain ⟨path, hpath, rfl⟩ := htop
  show topLevelClass paths.contains path ∈ paths
  rcases topLevelClass_cases paths.contains path with hsame | hknown
  · rwa [hsame]
  · exact List.contains_iff_mem.mp hknown

theorem nodup_eraseDups (texts : List String) : texts.eraseDups.Nodup := by
  match texts with
  | [] => exact List.nodup_nil
  | text :: texts =>
      rw [List.eraseDups_cons, List.nodup_cons]
      exact ⟨by simp [List.mem_eraseDups], nodup_eraseDups _⟩
termination_by texts.length
decreasing_by exact Nat.lt_succ_of_le (List.length_filter_le _ _)

/-- Different entries have different paths. -/
theorem nodup_aliasPath (paths : List String) :
    ((groupClasses paths).map ClassEntry.aliasPath).Nodup := by
  rw [groupClasses, List.map_map]
  have hpath : (ClassEntry.aliasPath ∘ fun top => ClassEntry.ofPath top
      (paths.filter fun p => topLevelClass paths.contains p == top && p != top)) = id := rfl
  rw [hpath, List.map_id]
  exact nodup_eraseDups _

end ArchiveScout.Archive
