import ArchiveScout.File.Scan
import ArchiveScout.Proofs.File.Tree
import Mathlib.Data.List.Nodup

/-!
# ArchiveScout.Proofs.File.Walk

**A walk visits no file twice.** Where each location of a tree has one node and names are ordinary,
the components of a visited path are those of the directory and the names on the way to the file.
What is visited in different members of a directory therefore differs at the member's name, and
from member to member the walk goes on in the same way.
-/

namespace ArchiveScout.File

open ArchiveScout.Text (splitOn_of_notMem)
open ArchiveScout.File.Path (components)

variable {t : Tree} {loc : Location} {path name : String} {node : Node}

/-- A name as directories have them. -/
structure IsFileName (name : String) : Prop where
  ne_empty : name ≠ ""
  ne_current : name ≠ "."
  ne_parent : name ≠ ".."
  plain : '/' ∉ name.toList

instance (name : String) : Decidable (IsFileName name) :=
  decidable_of_iff (name ≠ "" ∧ name ≠ "." ∧ name ≠ ".." ∧ '/' ∉ name.toList)
    ⟨fun h => ⟨h.1, h.2.1, h.2.2.1, h.2.2.2⟩,
      fun h => ⟨h.ne_empty, h.ne_current, h.ne_parent, h.plain⟩⟩

/-- A name behind a path is one more component. -/
theorem IsFileName.components_join (h : IsFileName name) (hpath : path ≠ "") :
    components (Path.join path name) = components path ++ [.name name] := by
  have hpieces : Path.pieces name = [name] := by
    rw [Path.pieces, splitOn_of_notMem h.plain]
    simp
  have habsolute : Path.isAbsolute name = false := by
    rw [Path.isAbsolute, decide_eq_false_iff_not]
    exact fun hhead => h.plain (List.mem_of_head? hhead)
  have hsteps : Tree.steps name = [name] := by
    rw [Path.steps_eq, hpieces, List.filter_cons_of_pos, List.filter_nil]
    simp [Path.isStep, h.ne_empty, h.ne_current]
  rw [Path.components_join habsolute (.inl hpath), hsteps]
  simp [Path.stepComponent, h.ne_parent]

namespace Tree

/-- A tree as a disk has it: one node for each location, under ordinary names. -/
structure Proper (t : Tree) : Prop where
  once : (t.nodes.map Prod.fst).Nodup
  names : ∀ entry ∈ t.nodes, ∀ name ∈ entry.1, IsFileName name

theorem children_sublist (t : Tree) (loc : Location) :
    ((t.children loc).map fun child => (loc ++ [child.1], child.2)).Sublist t.nodes := by
  rw [children]
  induction t.nodes with
  | nil => exact .slnil
  | cons entry nodes ih =>
      obtain ⟨inner, node⟩ := entry
      rw [List.filterMap_cons]
      split
      · exact ih.cons _
      · rename_i child hchild
        dsimp only at hchild
        split at hchild
        · rename_i last hlast
          split at hchild
          · rename_i houter
            obtain rfl := Option.some.inj hchild
            rw [List.map_cons, ← houter, List.dropLast_append_getLast? _ hlast]
            exact (houter ▸ ih).cons_cons _
          · exact absurd hchild (by simp)
        · exact absurd hchild (by simp)

namespace Proper

variable (h : t.Proper)
include h

theorem isFileName {child : String × Node} (hchild : child ∈ t.children loc) :
    IsFileName child.1 :=
  h.names _ ((t.children_sublist loc).subset (List.mem_map_of_mem hchild)) _ (by simp)

/-- The members of a directory have different names. -/
theorem nodup_children (loc : Location) : ((t.children loc).map Prod.fst).Nodup := by
  have hlocations := h.once.sublist ((t.children_sublist loc).map Prod.fst)
  rw [List.map_map] at hlocations
  refine List.Nodup.of_map (fun name => loc ++ [name]) ?_
  rwa [List.map_map]

end Proper

end Tree

/-! ### Walking -/

variable {above near : List RuleSet} {fuel : Nat}

/-- What a walk visits in a member of a directory: nothing if the member is left out, and otherwise
the file, or what the walk visits from there. -/
inductive VisitedIn (t : Tree) (above : List RuleSet) (fuel : Nat) (loc : Location) (path : String)
    (near : List RuleSet) : String × Node → List String → Prop
  | leftOut (child : String × Node) : VisitedIn t above fuel loc path near child []
  | file (name : String) (content : Content) :
      VisitedIn t above fuel loc path near (name, .file content) [Path.join path name]
  | directory (name : String) : VisitedIn t above fuel loc path near (name, .directory)
      (walk t above fuel (loc ++ [name]) (Path.join path name) near)

/-- A walk goes from member to member. -/
theorem exists_visitedIn (t : Tree) (above : List RuleSet) (fuel : Nat) (loc : Location)
    (path : String) (near : List RuleSet) :
    ∃ visit, walk t above (fuel + 1) loc path near = (t.children loc).flatMap visit ∧
      ∀ child, VisitedIn t above fuel loc path (⟨path, rulesAt t loc⟩ :: near) child
        (visit child) := by
  refine ⟨_, rfl, fun child => ?_⟩
  obtain ⟨name, node⟩ := child
  dsimp only
  split
  · exact .leftOut _
  · cases node with
    | file content => exact .file name content
    | directory => exact .directory name

/-- Whatever is visited is below the path where a walk starts, and no two files have the same
components. -/
theorem Tree.Proper.walk_spec (h : t.Proper) (hpath : path ≠ "") :
    (∀ file ∈ walk t above fuel loc path near, components path <+: components file) ∧
      ((walk t above fuel loc path near).map components).Nodup := by
  induction fuel generalizing loc path near with
  | zero => simp [walk]
  | succ fuel ih =>
      obtain ⟨visit, hwalk, hvisit⟩ := exists_visitedIn t above fuel loc path near
      -- Below a member, its name is the first component that comes in.
      have hmember : ∀ child ∈ t.children loc,
          (∀ file ∈ visit child, components path ++ [.name child.1] <+: components file) ∧
            ((visit child).map components).Nodup := by
        intro child hchild
        have hjoin := (h.isFileName hchild).components_join hpath
        have hvisited := hvisit child
        generalize visit child = files at hvisited ⊢
        cases hvisited with
        | leftOut => simp
        | file name content => simp [hjoin]
        | directory name =>
            rw [← hjoin]
            exact ih (Path.join_ne_empty (h.isFileName hchild).ne_empty)
      rw [hwalk]
      constructor
      · intro file hfile
        obtain ⟨child, hchild, hfile⟩ := List.mem_flatMap.mp hfile
        exact (List.prefix_append _ _).trans ((hmember child hchild).1 file hfile)
      · rw [List.map_flatMap, List.nodup_flatMap]
        refine ⟨fun child hchild => (hmember child hchild).2, ?_⟩
        refine (List.pairwise_map.mp (h.nodup_children loc)).imp_of_mem ?_
        intro child child' hchild hchild' hne parts hparts hparts'
        obtain ⟨file, hfile, rfl⟩ := List.mem_map.mp hparts
        obtain ⟨file', hfile', hsame⟩ := List.mem_map.mp hparts'
        have hbegins := (hmember child hchild).1 file hfile
        have hbegins' := (hmember child' hchild').1 file' hfile'
        rw [hsame] at hbegins'
        have heq := (List.prefix_of_prefix_length_le hbegins hbegins' (by simp)).eq_of_length
          (by simp)
        exact hne (by simpa using heq)

/-- The files that are visited below a directory are all different. -/
theorem Tree.Proper.nodup_visited (h : t.Proper) (path : String) :
    ((visited t path).map components).Nodup := by
  rw [visited]
  split
  · simp
  · split
    · rename_i loc hlocate
      refine (h.walk_spec ?_).2
      rintro rfl
      obtain ⟨hcheck, -⟩ := Tree.locate_eq_ok hlocate
      exact absurd hcheck (by decide)
    · simp

end ArchiveScout.File
