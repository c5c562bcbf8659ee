import ArchiveScout.Proofs.Decode.OutputPaths
import ArchiveScout.Proofs.Decode.Strand
import ArchiveScout.Proofs.Decode.Task
import Mathlib.Data.List.Flatten

/-!
# ArchiveScout.Proofs.Decode.Assignment

**Which paths are handed out in a pass.** Whatever the order, no path is handed out twice, and
the text of a class is written at a path that was handed out for this class and this kind of
text. So no two texts share a path.
-/

namespace ArchiveScout.Decode

open ArchiveScout.Archive (ClassEntry)
open ArchiveScout.File
open ArchiveScout.File.Tree (steps)
open PathResolver (StaysBelow bothFree_iff freeIndex_spec lastName lastName_injective names)

variable {d : Decompiler} {dir : String} {job : Job} {w w' : Workspace} {x : Deed}
  {xs : List Deed} {r r' : PathResolver} {t : Tree} {entry : ClassEntry} {kind kind' : Kind}

/-! ### What is handed out -/

theorem Deed.resolver_after (d : Decompiler) (dir : String) (x : Deed) :
    (x.after d dir).resolver = { x.before.resolver with
      assigned := x.handed?.toList.flatMap OutputPaths.keys ++ x.before.resolver.assigned } := by
  cases x.effect d dir with
  | handed entry haction hafter =>
      rw [hafter, (PathResolver.resolve_spec _ _ _).1]
      simp [Deed.handed?, haction]
  | logged _ haction _ hafter => simp [Deed.handed?, haction, hafter, Workspace.fail]
  | unsaved _ _ _ haction _ hafter => simp [Deed.handed?, haction, hafter, Workspace.fail]
  | _ => simp_all [Deed.handed?]

/-- All deeds of a pass find a resolver for the same directory. -/
theorem linked_resolver (h : Linked d dir w xs w') : ∀ x ∈ xs,
    x.before.resolver.root = w.resolver.root ∧ x.before.resolver.flatten = w.resolver.flatten := by
  induction h with
  | nil => simp
  | @cons x xs w' _ ih =>
      rw [Deed.resolver_after] at ih
      intro y hy
      rcases List.mem_cons.mp hy with rfl | hy
      · exact ⟨rfl, rfl⟩
      · exact ih y hy

/-- No path is handed out twice, and none that was handed out before. -/
theorem nodup_handed (h : Linked d dir w xs w') :
    ((xs.filterMap Deed.handed?).flatMap OutputPaths.keys).Nodup ∧
      ∀ key ∈ (xs.filterMap Deed.handed?).flatMap OutputPaths.keys, key ∉ w.resolver.assigned := by
  induction h with
  | nil => simp
  | @cons x xs w' _ ih =>
      rw [Deed.resolver_after] at ih
      obtain ⟨hnodup, hnew⟩ := ih
      cases hhanded : x.handed? with
      | none =>
          rw [List.filterMap_cons_none hhanded]
          exact ⟨hnodup, by simpa [hhanded] using hnew⟩
      | some paths =>
          rw [List.filterMap_cons_some hhanded, List.flatMap_cons]
          obtain ⟨hkeys, hfresh⟩ : paths.keys.Nodup ∧
              ∀ key ∈ paths.keys, key ∉ x.before.resolver.assigned := by
            rw [Deed.handed?] at hhanded
            split at hhanded
            · rename_i entry _
              obtain rfl := Option.some.inj hhanded
              exact (PathResolver.resolve_spec _ _ entry).2
            · exact absurd hhanded (by simp)
          refine ⟨?_, ?_⟩
          · refine List.nodup_append.mpr ⟨hkeys, hnodup, ?_⟩
            rintro key hkey _ hkey' rfl
            exact hnew key hkey' (List.mem_append_left _ (by simpa [hhanded] using hkey))
          · intro key hkey hmem
            rcases List.mem_append.mp hkey with hkey | hkey
            · exact hfresh key hkey hmem
            · exact hnew key hkey (List.mem_append_right _ hmem)

/-! ### Texts -/

/-- What a resolver remembers of the file that an action writes. -/
def OutputPaths.keyOf? (paths : OutputPaths) : Action → Option (List Component)
  | .text kind _ => some (Path.components (paths.of kind))
  | _ => none

/-- What a resolver remembers of the file that a deed is to write. -/
def Deed.claim? (x : Deed) : Option (List Component) := x.progress.paths.keyOf? x.action

theorem Deed.claim?_text (haction : x.action = .text kind entry) :
    x.claim? = some (Path.components (x.progress.paths.of kind)) := by
  rw [claim?, haction]
  rfl

theorem map_of_sublist_keys (job : Job) (paths : OutputPaths) :
    (job.kinds.map fun kind => Path.components (paths.of kind)).Sublist paths.keys := by
  rw [Job.kinds, OutputPaths.keys]
  cases job.java <;> cases job.smali <;> simp [OutputPaths.of]

/-- The texts of a class are for files that were handed out for it, each for its own. -/
theorem Piece.claims {behind : Task} {first : Deed} {ending : Option Progress}
    (h : Piece d dir job behind entry first xs ending) :
    ((first :: xs).filterMap Deed.claim?).Sublist
      (((first :: xs).filterMap Deed.handed?).flatMap OutputPaths.keys) := by
  obtain ⟨paths, hpaths⟩ : ∃ paths, first.handed? = some paths := ⟨_, h.handed⟩
  have hfirst : first.claim? = none := by
    rw [Deed.claim?, h.action]
    rfl
  have hnone : xs.filterMap Deed.handed? = [] := by
    refine List.filterMap_eq_nil_iff.mpr fun x hx => ?_
    rcases h.action_mem x hx with ⟨kind, -, haction⟩ | haction <;> rw [Deed.handed?, haction]
  -- The claims of the piece are read off its actions, as the paths do not change.
  have hclaims : xs.filterMap Deed.claim? = (xs.map (·.action)).filterMap paths.keyOf? := by
    rw [List.filterMap_map]
    refine List.filterMap_congr fun x hx => ?_
    have hsame := Option.some.inj (hpaths.symm.trans (h.paths x hx))
    rw [Deed.claim?, Function.comp_apply, hsame]
  have htexts : (job.kinds.map (Action.text · entry) ++ [Action.settle entry]).filterMap
      paths.keyOf? = job.kinds.map fun kind => Path.components (paths.of kind) := by
    rw [List.filterMap_append, List.filterMap_map]
    simp [Function.comp_def, OutputPaths.keyOf?]
  rw [List.filterMap_cons_none hfirst, List.filterMap_cons_some hpaths, hnone,
    List.flatMap_singleton, hclaims]
  exact (h.thread.action_prefix.sublist.filterMap _).trans
    (htexts ▸ map_of_sublist_keys job paths)

theorem Thread.claims {behind : Task} {progress : Progress} {ending : Option Progress}
    {entries : List ClassEntry}
    (h : Thread d dir behind progress (entries.flatMap (classActions job)) xs ending) :
    (xs.filterMap Deed.claim?).Sublist
      ((xs.filterMap Deed.handed?).flatMap OutputPaths.keys) := by
  induction entries generalizing progress xs with
  | nil =>
      cases h
      exact List.Sublist.slnil
  | cons entry entries ih =>
      rw [List.flatMap_cons] at h
      rcases h.split with ⟨kept, ys, zs, rfl, hclass, hrest⟩ | ⟨-, hclass⟩
      · obtain ⟨first, ys, rfl, hpiece⟩ := hclass.piece
        rw [List.filterMap_append, List.filterMap_append, List.flatMap_append]
        exact hpiece.claims.append (ih hrest)
      · obtain ⟨first, ys, rfl, hpiece⟩ := hclass.piece
        exact hpiece.claims

/-! ### Places -/

/-- Deeds by their places. -/
theorem perm_places (n : Nat) (xs : List Deed) (h : ∀ x ∈ xs, x.place < n) :
    xs.Perm ((List.range n).flatMap fun i => xs.filter (·.place = i)) := by
  induction n generalizing xs with
  | zero =>
      cases xs with
      | nil => exact .nil
      | cons x xs => exact absurd (h x List.mem_cons_self) (Nat.not_lt_zero _)
  | succ n ih =>
      have hsplit := List.filter_append_perm (fun x : Deed => !decide (x.place = n)) xs
      have hlow := ih (xs.filter fun x => !decide (x.place = n)) fun x hx => by
        have hlt := h x (List.mem_of_mem_filter hx)
        have hne := List.of_mem_filter hx
        simp only [Bool.not_eq_true', decide_eq_false_iff_not] at hne
        omega
      rw [List.range_succ, List.flatMap_append, List.flatMap_singleton]
      refine hsplit.symm.trans (List.Perm.append (hlow.trans (.of_eq ?_)) (.of_eq ?_))
      · refine List.flatMap_congr fun i hi => ?_
        have hne : i ≠ n := Nat.ne_of_lt (List.mem_range.mp hi)
        rw [List.filter_filter]
        refine List.filter_congr fun x _ => ?_
        by_cases hx : x.place = i <;> simp [hx, hne]
      · simp

/-- No two texts of a pass are for the same path. -/
theorem Trace.nodup_claims (h : Trace d dir (tasksOf job d) w xs w') :
    (xs.filterMap Deed.claim?).Nodup := by
  have hplaces := perm_places _ xs h.place
  have hsub : ∀ i ∈ List.range (tasksOf job d).length,
      ((xs.filter (·.place = i)).filterMap Deed.claim?).Sublist
        (((xs.filter (·.place = i)).filterMap Deed.handed?).flatMap OutputPaths.keys) := by
    intro i hi
    have htask := List.getElem?_eq_getElem (List.mem_range.mp hi)
    obtain ⟨ending, hthread⟩ := h.thread i _ htask
    rcases task_cases htask with ⟨batch, -, hbatch⟩ | ⟨name, -, -, hresource⟩
    · rw [hbatch] at hthread
      exact hthread.claims
    · rw [hresource] at hthread
      obtain ⟨x, hx, haction, -⟩ := hthread.single
      simp [hx, Deed.claim?, haction, OutputPaths.keyOf?]
  -- Sorted by places, what the texts claim is a part of what was handed out.
  have hhanded := (nodup_handed h.linked).1
  rw [((hplaces.filterMap Deed.handed?).flatMap_right _).nodup_iff, List.filterMap_flatMap,
    List.flatMap_assoc] at hhanded
  rw [(hplaces.filterMap Deed.claim?).nodup_iff, List.filterMap_flatMap]
  exact hhanded.sublist (List.Sublist.flatMap_right _ hsub)

/-- Every deed for a class is in the piece of this class. -/
theorem Trace.exists_piece (h : Trace d dir (tasksOf job d) w xs w') (hx : x ∈ xs)
    (haction : x.action = .reserve entry ∨ (∃ kind, x.action = .text kind entry) ∨
      x.action = .settle entry) :
    Selected job d entry ∧ ∃ behind first ys ending,
      Piece d dir job behind entry first ys ending ∧ x ∈ first :: ys ∧ first :: ys ⊆ xs := by
  have htask := List.getElem?_eq_getElem (h.place x hx)
  obtain ⟨ending, hthread⟩ := h.thread x.place _ htask
  have hin : x ∈ xs.filter (·.place = x.place) := by simp [hx]
  rcases task_cases htask with ⟨batch, hbatch, heq⟩ | ⟨name, -, -, heq⟩
  · rw [heq] at hthread
    obtain ⟨c, hc, behind, first, ys, ending', hpiece, hmem, hsub⟩ := hthread.mem_piece x hin
    obtain rfl : c = entry := by
      rcases List.mem_cons.mp hmem with rfl | hmem
      · have hfirst := hpiece.action
        rcases haction with haction | ⟨kind, haction⟩ | haction <;> simp_all
      · rcases hpiece.action_mem x hmem with ⟨kind', -, haction'⟩ | haction' <;>
          rcases haction with haction | ⟨kind, haction⟩ | haction <;> simp_all
    exact ⟨⟨batch, hbatch, hc⟩, behind, first, ys, ending', hpiece, hmem,
      fun y hy => List.mem_of_mem_filter (hsub hy)⟩
  · rw [heq] at hthread
    obtain ⟨y, hy, haction', -⟩ := hthread.single
    obtain rfl : x = y := by simpa [hy] using hin
    rcases haction with haction | ⟨kind, haction⟩ | haction <;> simp_all

/-- The text of a class is written at a path that was handed out for the class before. -/
theorem Trace.handed_before {us vs : List Deed}
    (h : Trace d dir (tasksOf job d) w (us ++ x :: vs) w') (haction : x.action = .text kind entry) :
    Selected job d entry ∧ ∃ first ∈ us,
      first.action = .reserve entry ∧ first.handed? = some x.progress.paths := by
  have htask := List.getElem?_eq_getElem (h.place x (by simp))
  obtain ⟨ending, hthread⟩ := h.thread x.place _ htask
  rw [List.filter_append, List.filter_cons_of_pos (by simp)] at hthread
  rcases task_cases htask with ⟨batch, hbatch, heq⟩ | ⟨name, -, -, heq⟩
  · rw [heq] at hthread
    obtain ⟨first, hfirst, c, hc, hreserve, hhanded, hclass⟩ :=
      hthread.handed_before (by simp [haction])
    obtain rfl : c = entry := by
      rcases hclass with ⟨kind', -, haction'⟩ | haction' <;> simp_all
    exact ⟨⟨batch, hbatch, hc⟩, first, List.mem_of_mem_filter hfirst, hreserve, hhanded⟩
  · rw [heq] at hthread
    have hmem := hthread.action_mem x (by simp)
    rw [haction, List.mem_singleton] at hmem
    exact absurd hmem (by simp)

/-- What is handed out is the first candidate that is free. -/
theorem linked_handed (h : Linked d dir w xs w') (hx : x ∈ xs)
    (haction : x.action = .reserve entry) :
    x.handed? = some (w.resolver.candidate (w.resolver.baseOf entry)
      (x.before.resolver.freeIndex x.before.tree (w.resolver.baseOf entry))) := by
  obtain ⟨hroot, hflatten⟩ := linked_resolver h x hx
  rw [Deed.handed?, haction]
  simp only [PathResolver.resolve]
  rw [PathResolver.candidate_congr hroot hflatten, PathResolver.baseOf_congr hflatten]

/-- The text of a class is written at a candidate for the class. -/
theorem Trace.text_candidate (h : Trace d dir (tasksOf job d) w xs w') (hx : x ∈ xs)
    (haction : x.action = .text kind entry) :
    Selected job d entry ∧ ∃ n, 1 ≤ n ∧
      x.progress.paths = w.resolver.candidate (w.resolver.baseOf entry) n := by
  obtain ⟨us, vs, rfl⟩ := List.append_of_mem hx
  obtain ⟨hselected, first, hfirst, hreserve, hhanded⟩ := h.handed_before haction
  rw [linked_handed h.linked (List.mem_append_left _ hfirst) hreserve] at hhanded
  exact ⟨hselected, _, (freeIndex_spec _ _ _).1, (Option.some.inj hhanded).symm⟩

/-- Where a text is that was written at a candidate. -/
theorem Deed.location?_candidate {source : String → Tree → Outcome (List UInt8)} {loc : Location}
    {base : String} {n : Nat} (hsave : d.SavesFrom source) (hdir : x.before.tree.Stands dir loc)
    (hroot : r.root = dir) (hbelow : StaysBelow base) (haction : x.action = .text kind entry)
    (hpaths : x.progress.paths = r.candidate base n) (houtput : (x.output? d dir).isSome) :
    x.location? d dir = some (loc ++ names r.flatten base n kind) := by
  obtain ⟨path, houtput⟩ := Option.isSome_iff_exists.mp houtput
  have hpath := Deed.output?_text haction houtput
  rw [hpaths] at hpath
  have hleads := hpath ▸ hroot ▸ PathResolver.leads_candidate hbelow.1 r n kind
  exact Deed.location_below hsave hdir houtput hleads (PathResolver.up_notMem_names hbelow _ _ _)
    (PathResolver.names_ne_nil _ _ _ _)

/-- Where the text of a class is whose base name stays below. -/
theorem Trace.text_location {source : String → Tree → Outcome (List UInt8)} {loc l : Location}
    (h : Trace d dir (tasksOf job d) w xs w') (hsave : d.SavesFrom source)
    (hroot : w.resolver.root = dir) (hx : x ∈ xs) (hdir : x.before.tree.Stands dir loc)
    (haction : x.action = .text kind entry) (hbelow : StaysBelow (w.resolver.baseOf entry))
    (hl : x.location? d dir = some l) : ∃ n, 1 ≤ n ∧
      x.progress.paths = w.resolver.candidate (w.resolver.baseOf entry) n ∧
      l = loc ++ names w.resolver.flatten (w.resolver.baseOf entry) n kind := by
  obtain ⟨-, n, hn, hpaths⟩ := h.text_candidate hx haction
  obtain ⟨path, houtput⟩ := Deed.exists_output_of_location hl
  have hlocation := Deed.location?_candidate hsave hdir hroot hbelow haction hpaths
    (by simp [houtput])
  exact ⟨n, hn, hpaths, Option.some.inj (hl.symm.trans hlocation)⟩

/-- Where a resource is that was written by a contained name. -/
theorem Deed.location?_resource {source : String → Tree → Outcome (List UInt8)} {loc : Location}
    {name : String} (hsave : d.SavesFrom source) (hdir : x.before.tree.Stands dir loc)
    (hne : dir ≠ "") (hcontained : isContained name = true) (haction : x.action = .resource name)
    (houtput : (x.output? d dir).isSome) : x.location? d dir = some (loc ++ steps name) := by
  obtain ⟨hrel, hup⟩ := isContained_spec hcontained
  obtain ⟨path, houtput⟩ := Option.isSome_iff_exists.mp houtput
  obtain ⟨rfl, -⟩ := Deed.output?_resource hsave haction houtput
  refine Deed.location_below hsave hdir houtput (Path.leads_join hrel) hup fun hnil => ?_
  -- A name without steps is the output directory itself, where no file can be written.
  cases x.effect d dir with
  | saved name' path t haction' hsaved _ _ houtput' =>
      obtain rfl := Action.resource.inj (haction.symm.trans haction')
      rw [hsave] at hsaved
      obtain ⟨data, -, rfl, hwrite⟩ := saveFound_done hsaved
      exact write_ne_ok (namesDirectory_join hne hrel hnil) hwrite
  | written _ _ _ _ haction' => exact absurd (haction.symm.trans haction') (by simp)
  | _ => simp_all

/-- Only selected resources are saved. -/
theorem Trace.resource_mem (h : Trace d dir (tasksOf job d) w xs w') (hx : x ∈ xs) {name : String}
    (haction : x.action = .resource name) : Requested job d name := by
  have htask := List.getElem?_eq_getElem (h.place x hx)
  obtain ⟨ending, hthread⟩ := h.thread x.place _ htask
  have hin : x ∈ xs.filter (·.place = x.place) := by simp [hx]
  have hmem := hthread.action_mem x hin
  rw [haction] at hmem
  rcases task_cases htask with ⟨batch, -, heq⟩ | ⟨name', hname, haccepts, heq⟩
  · rw [heq] at hmem
    obtain ⟨entry, -, hclass⟩ := List.mem_flatMap.mp hmem
    simp [classActions] at hclass
  · rw [heq, List.mem_singleton] at hmem
    obtain rfl := Action.resource.inj hmem
    exact ⟨hname, haccepts⟩

/-- Where base names stay below and resources have contained names, all deeds aim below the
output directory. -/
theorem Trace.aims_below {source : String → Tree → Outcome (List UInt8)}
    (h : Trace d dir (tasksOf job d) w xs w')
    (hcontained : ∀ name, x.action = .resource name → (x.content? d source).isSome →
      isContained name = true)
    (hne : dir ≠ "") (hroot : w.resolver.root = dir)
    (hbelow : ∀ entry, Selected job d entry → StaysBelow (w.resolver.baseOf entry))
    (hx : x ∈ xs) : x.AimsBelow d dir source := by
  intro path hcontent hpath
  cases haction : x.action with
  | text kind entry =>
      obtain ⟨hselected, n, -, hpaths⟩ := h.text_candidate hx haction
      have hstays := hbelow entry hselected
      obtain rfl : x.progress.paths.of kind = path := by simpa [Deed.path?, haction] using hpath
      rw [hpaths, ← hroot]
      exact ⟨_, PathResolver.leads_candidate hstays.1 _ _ _,
        PathResolver.up_notMem_names hstays _ _ _,
        fun hnil => absurd hnil (PathResolver.names_ne_nil _ _ _ _)⟩
  | resource name =>
      obtain rfl : Path.join dir name = path := by simpa [Deed.path?, haction] using hpath
      obtain ⟨habs, hup⟩ := isContained_spec (hcontained name haction hcontent)
      exact ⟨_, Path.leads_join habs, hup, namesDirectory_join hne habs⟩
  | reserve entry => simp [Deed.path?, haction] at hpath
  | settle entry => simp [Deed.path?, haction] at hpath

end ArchiveScout.Decode
