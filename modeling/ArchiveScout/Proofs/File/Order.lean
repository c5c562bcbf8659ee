import ArchiveScout.File.Path
import Mathlib.Data.List.Sort

/-!
# ArchiveScout.Proofs.File.Order

**The order of paths.** Lists of components are in a linear order, in which the first components
that differ decide. Paths with the same components cannot be told apart by it, and all others can.
So a list in which no path comes twice is sorted into an ascending one, and this depends on its
members only.
-/

namespace ArchiveScout.File

/-! ### Components -/

namespace Component

theorem le_total (a b : Component) : (a.le b || b.le a) = true := by
  cases a <;> cases b <;> simp [le, String.le_total]

theorem le_trans {a b c : Component} (hab : a.le b = true) (hbc : b.le c = true) :
    a.le c = true := by
  cases a <;> cases b <;> cases c <;> simp_all [le]
  exact String.le_trans hab hbc

theorem le_antisymm {a b : Component} (hab : a.le b = true) (hba : b.le a = true) : a = b := by
  cases a <;> cases b <;> simp_all [le]
  exact String.le_antisymm hab hba

end Component

namespace Path

variable {a b c : List Component} {path path' : String} {paths paths' : List String}

/-! ### Lists of components -/

theorem compLe_total (a b : List Component) : (compLe a b || compLe b a) = true := by
  induction a generalizing b with
  | nil => simp [compLe]
  | cons x a ih =>
      cases b with
      | nil => simp [compLe]
      | cons y b =>
          by_cases hxy : x = y
          · simpa [compLe, hxy] using ih b
          · simpa [compLe, hxy, Ne.symm hxy] using Component.le_total x y

theorem compLe_trans (hab : compLe a b = true) (hbc : compLe b c = true) : compLe a c = true := by
  induction a generalizing b c with
  | nil => simp [compLe]
  | cons x a ih =>
      match b, c with
      | [], _ => simp [compLe] at hab
      | _ :: _, [] => simp [compLe] at hbc
      | y :: b, z :: c =>
          rw [compLe] at hab hbc ⊢
          by_cases hxy : x = y <;> by_cases hyz : y = z
          · subst hxy hyz
            rw [if_pos rfl] at hab hbc ⊢
            exact ih hab hbc
          · subst hxy
            rw [if_neg hyz] at hbc ⊢
            exact hbc
          · subst hyz
            rw [if_neg hxy] at hab ⊢
            exact hab
          · rw [if_neg hxy] at hab
            rw [if_neg hyz] at hbc
            have hxz : x ≠ z := by
              rintro rfl
              exact hxy (Component.le_antisymm hab hbc)
            rw [if_neg hxz]
            exact Component.le_trans hab hbc

theorem compLe_antisymm (hab : compLe a b = true) (hba : compLe b a = true) : a = b := by
  induction a generalizing b with
  | nil =>
      cases b with
      | nil => rfl
      | cons y b => simp [compLe] at hba
  | cons x a ih =>
      cases b with
      | nil => simp [compLe] at hab
      | cons y b =>
          rw [compLe] at hab hba
          by_cases hxy : x = y
          · subst hxy
            rw [if_pos rfl] at hab hba
            rw [ih hab hba]
          · rw [if_neg hxy] at hab
            rw [if_neg (Ne.symm hxy)] at hba
            exact absurd (Component.le_antisymm hab hba) hxy

/-! ### Paths -/

/-- A path is not the same as another one and comes before it in the order of paths. -/
structure Before (path path' : String) : Prop where
  le : compLe (components path) (components path') = true
  ne : components path ≠ components path'

instance (path path' : String) : Decidable (Before path path') :=
  decidable_of_iff (compLe (components path) (components path') = true ∧
    components path ≠ components path') ⟨fun h => ⟨h.1, h.2⟩, fun h => ⟨h.le, h.ne⟩⟩

instance : Std.Irrefl Before where
  irrefl _ h := h.ne rfl

instance : Std.Antisymm Before where
  antisymm _ _ h h' := absurd (compLe_antisymm h.le h'.le) h.ne

theorem mem_sorted : path ∈ sorted paths ↔ path ∈ paths :=
  List.mem_mergeSort

/-- Paths that are all different ascend once they are sorted. -/
theorem pairwise_before_sorted (h : (paths.map components).Nodup) :
    (sorted paths).Pairwise Before := by
  have hle : (sorted paths).Pairwise fun a b => compLe (components a) (components b) = true := by
    apply List.pairwise_mergeSort
    · intro a b c hab hbc
      exact compLe_trans hab hbc
    · intro a b
      exact compLe_total (components a) (components b)
  have hne : (sorted paths).Pairwise fun a b => components a ≠ components b :=
    List.pairwise_map.mp (((List.mergeSort_perm paths _).map components).nodup_iff.mpr h)
  exact (hle.and hne).imp fun hboth => ⟨hboth.1, hboth.2⟩

/-- Paths that ascend are what sorting makes of them in any order. -/
theorem sorted_eq (h : paths.Perm paths') (hascending : paths'.Pairwise Before) :
    sorted paths = paths' := by
  have hne : (paths'.map components).Nodup :=
    List.pairwise_map.mpr (hascending.imp fun hbefore => hbefore.ne)
  have hsorted := pairwise_before_sorted ((h.map components).nodup_iff.mpr hne)
  exact hsorted.eq_of_mem_iff hascending fun path => mem_sorted.trans h.mem_iff

end Path

end ArchiveScout.File
