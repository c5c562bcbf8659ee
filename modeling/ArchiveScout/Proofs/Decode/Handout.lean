import ArchiveScout.Proofs.Decode.OutputPaths
import Mathlib.Order.Bounds.Basic

/-!
# ArchiveScout.Proofs.Decode.Handout

**A resolver that is called again and again.** Between two calls the files may change in any way.
The search tries one index after another without a bound of its own; it always comes to an end,
at the least index whose two files neither exist nor were handed out by an earlier call. So all
paths of a run are different, even if a base name looks like another one with its suffix.
-/

namespace ArchiveScout.Decode

open ArchiveScout.Archive (ClassEntry)
open ArchiveScout.File

namespace PathResolver

variable {r : PathResolver} {t : Tree} {base : String} {n m : Nat} {key : List Component}
  {calls : List (Tree × ClassEntry)}

/-! ### The search -/

/-- A search that has come to an index and stops at another one: it goes on from every index
that is not free to the next one. -/
inductive Search (r : PathResolver) (t : Tree) (base : String) : Nat → Nat → Prop
  | found {n : Nat} (h : r.bothFree t base n = true) : Search r t base n n
  | next {n m : Nat} (h : r.bothFree t base n = false) (hrest : Search r t base (n + 1) m) :
      Search r t base n m

/-- A search stops at a free index if none that it comes by is free. -/
theorem search_of_least (hfree : r.bothFree t base m = true) (hle : n ≤ m)
    (hleast : ∀ k, n ≤ k → k < m → r.bothFree t base k = false) : r.Search t base n m := by
  induction hle using Nat.decreasingInduction with
  | self => exact .found hfree
  | of_succ k hlt ih =>
      have hrest := ih fun j hj hjm => hleast j (by omega) hjm
      exact .next (hleast k (Nat.le_refl k) hlt) hrest

/-- The search from the first index stops. -/
theorem search_freeIndex (r : PathResolver) (t : Tree) (base : String) :
    r.Search t base 1 (r.freeIndex t base) := by
  obtain ⟨hone, hfree, hleast⟩ := r.freeIndex_spec t base
  exact search_of_least hfree hone hleast

/-! ### Calls -/

/-- What is handed out by calls, each with the files that it finds. -/
def handOut (r : PathResolver) : List (Tree × ClassEntry) → List OutputPaths
  | [] => []
  | (t, entry) :: calls => (r.resolve t entry).1 :: (r.resolve t entry).2.handOut calls

/-- The resolver behind calls. -/
def afterCalls (r : PathResolver) (calls : List (Tree × ClassEntry)) : PathResolver :=
  calls.foldl (fun r call => (r.resolve call.1 call.2).2) r

@[simp] theorem afterCalls_cons (r : PathResolver) (call : Tree × ClassEntry)
    (calls : List (Tree × ClassEntry)) :
    r.afterCalls (call :: calls) = (r.resolve call.1 call.2).2.afterCalls calls := rfl

theorem handOut_append (r : PathResolver) (calls more : List (Tree × ClassEntry)) :
    r.handOut (calls ++ more) = r.handOut calls ++ (r.afterCalls calls).handOut more := by
  induction calls generalizing r with
  | nil => rfl
  | cons call calls ih => simp [handOut, ih]

@[simp] theorem length_handOut (r : PathResolver) (calls : List (Tree × ClassEntry)) :
    (r.handOut calls).length = calls.length := by
  induction calls generalizing r with
  | nil => rfl
  | cons call calls ih => simp [handOut, ih]

/-- Calls change nothing of a resolver but what it remembers. -/
theorem afterCalls_spec (r : PathResolver) (calls : List (Tree × ClassEntry)) :
    (r.afterCalls calls).root = r.root ∧ (r.afterCalls calls).flatten = r.flatten ∧
      ∀ key, key ∈ (r.afterCalls calls).assigned ↔
        key ∈ r.assigned ∨ ∃ paths ∈ r.handOut calls, key ∈ paths.keys := by
  induction calls generalizing r with
  | nil => simp [afterCalls, handOut]
  | cons call calls ih =>
      obtain ⟨t, entry⟩ := call
      obtain ⟨hroot, hflatten, hkeys⟩ := ih (r.resolve t entry).2
      have hassigned : (r.resolve t entry).2.assigned =
          (r.resolve t entry).1.keys ++ r.assigned := rfl
      rw [afterCalls_cons]
      refine ⟨hroot, hflatten, fun key => ?_⟩
      rw [hkeys, hassigned]
      simp [handOut, or_assoc, or_left_comm]

/-- No path is handed out twice, and none that was handed out before. -/
theorem nodup_handOut (r : PathResolver) (calls : List (Tree × ClassEntry)) :
    ((r.handOut calls).flatMap OutputPaths.keys).Nodup ∧
      ∀ key ∈ (r.handOut calls).flatMap OutputPaths.keys, key ∉ r.assigned := by
  induction calls generalizing r with
  | nil => simp [handOut]
  | cons call calls ih =>
      obtain ⟨t, entry⟩ := call
      obtain ⟨hspec, hkeys, hfresh⟩ := r.resolve_spec t entry
      obtain ⟨hnodup, hnew⟩ := ih (r.resolve t entry).2
      rw [hspec] at hnew
      simp only [List.mem_append, not_or] at hnew
      rw [handOut, List.flatMap_cons]
      constructor
      · refine List.nodup_append.mpr ⟨hkeys, hnodup, ?_⟩
        rintro key hkey _ hkey' rfl
        exact (hnew key hkey').1 hkey
      · intro key hkey
        rcases List.mem_append.mp hkey with hkey | hkey
        · exact hfresh key hkey
        · exact (hnew key hkey).2

/-! ### What is handed out -/

/-- Neither file for an index exists, and neither is one of the paths that were handed out. -/
def Unused (r : PathResolver) (t : Tree) (earlier : List OutputPaths) (base : String)
    (n : Nat) : Prop :=
  ∀ kind, t.exists? ((r.candidate base n).of kind) = false ∧
    ∀ paths ∈ earlier, ∀ kind',
      Path.components (paths.of kind') ≠ Path.components ((r.candidate base n).of kind)

/-- For a resolver that was new before some calls, an index is free if it is unused. -/
theorem bothFree_afterCalls (hnew : r.assigned = []) (t : Tree) (base : String) (n : Nat) :
    (r.afterCalls calls).bothFree t base n = true ↔ r.Unused t (r.handOut calls) base n := by
  obtain ⟨hroot, hflatten, hkeys⟩ := r.afterCalls_spec calls
  rw [bothFree_iff, candidate_congr hroot hflatten]
  refine forall_congr' fun kind => ?_
  rw [hkeys, hnew, and_comm]
  simp only [List.not_mem_nil, false_or, OutputPaths.mem_keys]
  constructor
  · rintro ⟨hexists, hno⟩
    refine ⟨hexists, fun paths hpaths kind' heq => hno ⟨paths, hpaths, kind', heq.symm⟩⟩
  · rintro ⟨hexists, hno⟩
    refine ⟨hexists, ?_⟩
    rintro ⟨paths, hpaths, kind', heq⟩
    exact hno paths hpaths kind' heq.symm

/-- The file for an index, by its name: the first index has the base name alone. -/
theorem candidate_name (r : PathResolver) (base : String) (hn : 1 ≤ n) (kind : Kind) :
    (r.candidate base n).of kind = Path.join (r.folder kind)
      (base ++ (if n = 1 then "" else "~" ++ toString n) ++ kind.ending) := by
  have hone : n ≤ 1 ↔ n = 1 := by omega
  rw [candidate_of, fileName, stem_eq, suffix, if_congr hone rfl rfl]

/-- Whatever the calls of a new resolver are, and however the files change between them, the search
of each call comes to an end at the least index whose two files neither exist nor were handed out
before; these two files are handed out, and no path is ever handed out twice. -/
theorem calls_hand_out_least_unused (root : String) (flatten : Bool)
    (calls : List (Tree × ClassEntry)) :
    ((PathResolver.mk root flatten []).handOut calls).length = calls.length ∧
    (∀ before t entry after, calls = before ++ (t, entry) :: after →
      ∃ n paths, ((PathResolver.mk root flatten []).handOut calls)[before.length]? = some paths ∧
        ((PathResolver.mk root flatten []).afterCalls before).Search t
          ((PathResolver.mk root flatten []).baseOf entry) 1 n ∧
        IsLeast {n | 1 ≤ n ∧ (PathResolver.mk root flatten []).Unused t
          ((PathResolver.mk root flatten []).handOut before)
          ((PathResolver.mk root flatten []).baseOf entry) n} n ∧
        ∀ kind, paths.of kind = Path.join ((PathResolver.mk root flatten []).folder kind)
          ((PathResolver.mk root flatten []).baseOf entry ++
            (if n = 1 then "" else "~" ++ toString n) ++ kind.ending)) ∧
    (((PathResolver.mk root flatten []).handOut calls).flatMap OutputPaths.keys).Nodup := by
  generalize hr : PathResolver.mk root flatten [] = r
  have hnew : r.assigned = [] := by rw [← hr]
  refine ⟨r.length_handOut calls, ?_, (r.nodup_handOut calls).1⟩
  intro before t entry after hcalls
  obtain ⟨hroot, hflatten, -⟩ := r.afterCalls_spec before
  have hbase : (r.afterCalls before).baseOf entry = r.baseOf entry := baseOf_congr hflatten entry
  obtain ⟨hone, hfree, hleast⟩ := (r.afterCalls before).freeIndex_spec t (r.baseOf entry)
  refine ⟨_, _, ?_, search_freeIndex _ t _, ⟨⟨hone, (bothFree_afterCalls hnew _ _ _).mp hfree⟩, ?_⟩,
    fun kind => candidate_name r _ hone kind⟩
  · rw [hcalls, handOut_append, List.getElem?_append_right (by simp), length_handOut, Nat.sub_self,
      handOut, List.getElem?_cons_zero, resolve, hbase, candidate_congr hroot hflatten]
  · rintro m ⟨hm, hunused⟩
    by_contra hlt
    have hno := hleast m hm (by omega)
    rw [(bothFree_afterCalls hnew _ _ _).mpr hunused] at hno
    exact absurd hno (by simp)

/-- A class whose name looks like that of another one with a suffix, and a third class with the
first name; one file is there before. -/
def suffixedCalls : List (Tree × ClassEntry) :=
  [({ nodes := [(["out"], .directory), (["out", "Main.smali"], .file (.bytes []))] },
      .ofPath "a/Main"),
    ({}, .ofPath "Main~2"), ({}, .ofPath "b/Main"), ({}, .ofPath "c/Main")]

/-- The name with a suffix is taken when the class that is called so comes, and the third class
gets the bare name, since the file is no longer there. -/
theorem suffixed_calls_hand_out_least_unused :
    ((PathResolver.mk "out" true []).handOut suffixedCalls).map OutputPaths.smali =
      ["out/Main~2.smali", "out/Main~2~2.smali", "out/Main.smali", "out/Main~3.smali"] ∧
    (∃ n, "out/Main~3.smali" = Path.join "out"
        ("Main" ++ (if n = 1 then "" else "~" ++ toString n) ++ ".smali") ∧
      IsLeast {n | 1 ≤ n ∧ (PathResolver.mk "out" true []).Unused {}
        ((PathResolver.mk "out" true []).handOut (suffixedCalls.take 3)) "Main" n} n) ∧
    (((PathResolver.mk "out" true []).handOut suffixedCalls).flatMap OutputPaths.keys).Nodup := by
  obtain ⟨-, hcalls, hnodup⟩ := calls_hand_out_least_unused "out" true suffixedCalls
  obtain ⟨n, paths, hget, -, hleast, hname⟩ :=
    hcalls (suffixedCalls.take 3) {} (.ofPath "c/Main") [] rfl
  have hall : ((PathResolver.mk "out" true []).handOut suffixedCalls).map OutputPaths.smali =
      ["out/Main~2.smali", "out/Main~2~2.smali", "out/Main.smali", "out/Main~3.smali"] := by
    decide +kernel
  have hfourth := congrArg (·[3]?) hall
  simp only [List.getElem?_map] at hfourth
  rw [show (suffixedCalls.take 3).length = 3 from rfl] at hget
  rw [hget] at hfourth
  have hbase : (PathResolver.mk "out" true []).baseOf (.ofPath "c/Main") = "Main" := by decide
  rw [hbase] at hleast hname
  exact ⟨hall, ⟨n, (Option.some.inj hfourth).symm.trans (hname .smali), hleast⟩, hnodup⟩

end PathResolver

end ArchiveScout.Decode
