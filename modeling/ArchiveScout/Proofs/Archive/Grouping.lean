import ArchiveScout.Proofs.Archive.TopLevel

/-!
# ArchiveScout.Proofs.Archive.Grouping

**Grouping loses no class and takes none twice.** The entries of an archive stand for the different
top-level classes of its paths. Since these fold into themselves, a path is either that of an entry
or inside of one, and there is exactly one entry for what it folds into.
-/

namespace ArchiveScout.Archive

variable {paths texts : List String} {path : String} {entry : ClassEntry}

/-! ### Order -/

theorem pairwise_sorted (texts : List String) : (sorted texts).Pairwise (· ≤ ·) := by
  have htrans : ∀ a b c : String, decide (a ≤ b) = true → decide (b ≤ c) = true →
      decide (a ≤ c) = true := by
    intro a b c hab hbc
    simpa using String.le_trans (of_decide_eq_true hab) (of_decide_eq_true hbc)
  have htotal : ∀ a b : String, (decide (a ≤ b) || decide (b ≤ a)) = true := by
    intro a b
    simpa using String.le_total a b
  exact (List.pairwise_mergeSort htrans htotal texts).imp fun hle => of_decide_eq_true hle

theorem eraseDups_sublist (texts : List String) : texts.eraseDups.Sublist texts := by
  match texts with
  | [] => exact List.Sublist.refl []
  | text :: texts =>
      rw [List.eraseDups_cons]
      exact ((eraseDups_sublist _).trans List.filter_sublist).cons_cons text
termination_by texts.length
decreasing_by exact Nat.lt_succ_of_le (List.length_filter_le _ _)

/-- Texts in order ascend once the repeated ones are dropped. -/
theorem pairwise_lt_eraseDups (h : texts.Pairwise (· ≤ ·)) :
    texts.eraseDups.Pairwise (· < ·) := by
  have hle := h.sublist (eraseDups_sublist texts)
  exact (hle.and (nodup_eraseDups texts)).imp fun hboth => Std.lt_of_le_of_ne hboth.1 hboth.2

/-! ### Entries -/

/-- Whether a class is written with an entry: as its top-level class, or inside of it. -/
def ClassEntry.covers (entry : ClassEntry) (path : String) : Bool :=
  entry.aliasPath == path || entry.inner.contains path

/-- The paths of the entries are those that the given ones fold into. -/
theorem aliasPaths_groupClasses (paths : List String) :
    (groupClasses paths).map ClassEntry.aliasPath =
      (sorted (paths.map (topLevelClass paths.contains))).eraseDups := by
  rw [groupClasses, List.map_map]
  exact List.map_id _

theorem mem_aliasPaths : path ∈ (groupClasses paths).map ClassEntry.aliasPath ↔
    ∃ p ∈ paths, topLevelClass paths.contains p = path := by
  rw [aliasPaths_groupClasses, List.mem_eraseDups, mem_sorted, List.mem_map]

theorem inner_of_mem_groupClasses (h : entry ∈ groupClasses paths) :
    entry.inner = paths.filter fun p =>
      topLevelClass paths.contains p == entry.aliasPath && p != entry.aliasPath := by
  rw [groupClasses, List.mem_map] at h
  obtain ⟨top, -, rfl⟩ := h
  rfl

theorem mem_inner (h : entry ∈ groupClasses paths) : path ∈ entry.inner ↔
    path ∈ paths ∧ topLevelClass paths.contains path = entry.aliasPath ∧
      path ≠ entry.aliasPath := by
  rw [inner_of_mem_groupClasses h, List.mem_filter]
  simp

/-- A given path is that of an entry if it folds into itself. -/
theorem mem_aliasPaths_iff (hpath : path ∈ paths) :
    path ∈ (groupClasses paths).map ClassEntry.aliasPath ↔
      topLevelClass paths.contains path = path := by
  rw [mem_aliasPaths]
  constructor
  · rintro ⟨p, -, rfl⟩
    exact topLevelClass_topLevelClass paths.contains p
  · exact fun hself => ⟨path, hpath, hself⟩

/-- A given path is covered by the entry of what it folds into, and by no other one. -/
theorem covers_iff (hpath : path ∈ paths) (h : entry ∈ groupClasses paths) :
    entry.covers path = true ↔ entry.aliasPath = topLevelClass paths.contains path := by
  rw [ClassEntry.covers, Bool.or_eq_true, beq_iff_eq, List.contains_iff_mem, mem_inner h]
  constructor
  · rintro (rfl | ⟨-, htop, -⟩)
    · exact ((mem_aliasPaths_iff hpath).mp (List.mem_map_of_mem h)).symm
    · exact htop.symm
  · intro htop
    by_cases hself : entry.aliasPath = path
    · exact .inl hself
    · exact .inr ⟨hpath, htop.symm, Ne.symm hself⟩

/-- The entries with a path are as many as the path is among those of all entries. -/
theorem countP_aliasPath (paths : List String) (path : String) :
    (groupClasses paths).countP (fun entry => entry.aliasPath = path) =
      if path ∈ (groupClasses paths).map ClassEntry.aliasPath then 1 else 0 := by
  rw [← (nodup_aliasPath paths).count, List.count, List.countP_map]
  refine List.countP_congr fun entry _ => ?_
  simp

theorem countP_covers (hpath : path ∈ paths) :
    (groupClasses paths).countP (fun entry => entry.covers path) = 1 := by
  have htop : topLevelClass paths.contains path ∈ (groupClasses paths).map ClassEntry.aliasPath :=
    mem_aliasPaths.mpr ⟨path, hpath, rfl⟩
  have hcount := countP_aliasPath paths (topLevelClass paths.contains path)
  rw [if_pos htop] at hcount
  rw [← hcount]
  refine List.countP_congr fun entry hentry => ?_
  rw [covers_iff hpath hentry, decide_eq_true_iff]

/-! ### The partition -/

/-- Entries that divide given class paths among them. -/
structure Partitions (entries : List ClassEntry) (paths : List String) : Prop where
  ascending : (entries.map ClassEntry.aliasPath).Pairwise (· < ·)
  given : ∀ entry ∈ entries, entry.aliasPath ∈ paths
  /-- Those inside come in the given order, and each as often as it is given. -/
  inner : ∀ entry ∈ entries, entry.inner = paths.filter fun path => entry.inner.contains path
  inside : ∀ entry ∈ entries, ∀ path ∈ entry.inner, IsInside entry.aliasPath path
  once : ∀ path ∈ paths,
    entries.countP (fun entry => entry.aliasPath = path) = 1 ∧
      entries.countP (fun entry => path ∈ entry.inner) = 0 ∨
    entries.countP (fun entry => entry.aliasPath = path) = 0 ∧
      entries.countP (fun entry => path ∈ entry.inner) = 1

theorem partitions_groupClasses (paths : List String) : Partitions (groupClasses paths) paths := by
  refine ⟨?ascending, fun entry => aliasPath_mem, ?inner, ?inside, ?once⟩
  case ascending =>
    rw [aliasPaths_groupClasses]
    exact pairwise_lt_eraseDups (pairwise_sorted _)
  case inner =>
    intro entry hentry
    have hself : (fun path => entry.inner.contains path) = fun path =>
        decide (path ∈ paths) && (topLevelClass paths.contains path == entry.aliasPath &&
          path != entry.aliasPath) := by
      funext path
      rw [Bool.eq_iff_iff, List.contains_iff_mem, mem_inner hentry]
      simp
    rw [hself, inner_of_mem_groupClasses hentry]
    refine List.filter_congr fun path hpath => ?_
    simp [hpath]
  case inside =>
    intro entry hentry path hpath
    obtain ⟨-, htop, hne⟩ := (mem_inner hentry).mp hpath
    rw [← htop] at hne ⊢
    exact isInside_topLevelClass hne.symm
  case once =>
    intro path hpath
    have hcovers := countP_covers hpath
    have halias := countP_aliasPath paths path
    by_cases hself : topLevelClass paths.contains path = path
    · -- What folds into itself is inside of nothing.
      rw [if_pos ((mem_aliasPaths_iff hpath).mpr hself)] at halias
      refine .inl ⟨halias, List.countP_eq_zero.mpr fun entry hentry => ?_⟩
      rw [decide_eq_true_iff, mem_inner hentry, hself]
      rintro ⟨-, heq, hne⟩
      exact hne heq
    · rw [if_neg (mt (mem_aliasPaths_iff hpath).mp hself)] at halias
      refine .inr ⟨halias, hcovers ▸ List.countP_congr fun entry hentry => ?_⟩
      have hne : entry.aliasPath ≠ path := by
        rintro rfl
        exact hself ((mem_aliasPaths_iff hpath).mp (List.mem_map_of_mem hentry))
      simp [ClassEntry.covers, hne]

end ArchiveScout.Archive
