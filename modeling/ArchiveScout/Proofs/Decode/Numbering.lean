import ArchiveScout.Proofs.Decode.Decoder
import ArchiveScout.Proofs.Decode.Replay
import Mathlib.Data.List.Induction

/-!
# ArchiveScout.Proofs.Decode.Numbering

**Which indices are used up for a base name.** Paths are handed out first come, first served, and
the search also looks at the files that other tasks have written. But where the names of a
class are never on the way of others, it only finds what was there before the pass, and the
candidates that it handed out itself. So the indices for a base name are the first ones that were
free at the start, as many as there are classes, in whatever order these come.
-/

namespace ArchiveScout.Decode

open ArchiveScout.Archive (ClassEntry)
open ArchiveScout.Console (Prompt)
open ArchiveScout.File
open ArchiveScout.File.Tree (Evolves OnWay steps)
open PathResolver (StaysBelow bothFree_iff freeIndex_spec lastName names)

/-! ### First numbers -/

/-- Numbers with a property, such that no smaller one with it is missing. -/
structure FirstOf (P : Nat → Prop) (ns : List Nat) : Prop where
  holds : ∀ n ∈ ns, P n
  nodup : ns.Nodup
  least : ∀ n ∈ ns, ∀ m, P m → m < n → m ∈ ns

namespace FirstOf

variable {P : Nat → Prop} {ns ms : List Nat} {n : Nat}

theorem nil (P : Nat → Prop) : FirstOf P [] := ⟨by simp, List.nodup_nil, by simp⟩

theorem concat (h : FirstOf P ns) (hn : P n) (hnew : n ∉ ns)
    (hleast : ∀ m, P m → m < n → m ∈ ns) : FirstOf P (ns ++ [n]) := by
  refine ⟨?_, ?_, ?_⟩
  · intro m hm
    rcases List.mem_append.mp hm with hm | hm
    · exact h.holds m hm
    · exact List.mem_singleton.mp hm ▸ hn
  · exact h.nodup.append (List.nodup_singleton n) (by simpa using hnew)
  · intro k hk m hm hlt
    rcases List.mem_append.mp hk with hk | hk
    · exact List.mem_append_left _ (h.least k hk m hm hlt)
    · exact List.mem_append_left _ (hleast m hm (List.mem_singleton.mp hk ▸ hlt))

/-- As many first numbers are the same ones. -/
theorem subset (h : FirstOf P ns) (h' : FirstOf P ms) (hlength : ns.length ≤ ms.length) :
    ns ⊆ ms := by
  intro n hn
  by_contra hno
  -- All of the other numbers are smaller, so they are among these, and `n` is one more.
  have hsubset : n :: ms ⊆ ns := by
    refine List.cons_subset.mpr ⟨hn, fun m hm => ?_⟩
    have hlt : m < n := by
      rcases Nat.lt_trichotomy m n with hlt | rfl | hgt
      · exact hlt
      · exact absurd hm hno
      · exact absurd (h'.least m hm n (h.holds n hn) hgt) hno
    exact h.least n hn m (h'.holds m hm) hlt
  have hle := (List.subperm_of_subset (List.nodup_cons.mpr ⟨hno, h'.nodup⟩) hsubset).length_le
  rw [List.length_cons] at hle
  omega

end FirstOf

variable {d : Decompiler} {dir base : String} {job : Job} {w w' v v' : Workspace} {x : Deed}
  {xs ys us vs : List Deed} {loc : Location} {source : String → Tree → Outcome (List UInt8)}
  {content : String → Outcome (List UInt8)} {r : PathResolver} {entry : ClassEntry} {kind : Kind}
  {n : Nat}

/-! ### Indices -/

/-- The index that a deed hands out for a base name. -/
def Deed.index? (r : PathResolver) (base : String) (x : Deed) : Option Nat :=
  match x.action with
  | .reserve entry =>
      if r.baseOf entry = base then some (x.before.resolver.freeIndex x.before.tree base) else none
  | _ => none

/-- The indices that deeds hand out for a base name. -/
def indices (r : PathResolver) (base : String) (xs : List Deed) : List Nat :=
  xs.filterMap (Deed.index? r base)

theorem Deed.index?_eq_some (h : x.index? r base = some n) : ∃ entry, x.action = .reserve entry ∧
    r.baseOf entry = base ∧ n = x.before.resolver.freeIndex x.before.tree base := by
  rw [index?] at h
  split at h
  · rename_i entry haction
    split at h
    · rename_i hbase
      exact ⟨entry, haction, hbase, (Option.some.inj h).symm⟩
    · exact absurd h (by simp)
  · exact absurd h (by simp)

theorem one_le_of_mem_indices (h : n ∈ indices r base xs) : 1 ≤ n := by
  obtain ⟨x, -, hindex⟩ := List.mem_filterMap.mp h
  obtain ⟨_, -, -, rfl⟩ := Deed.index?_eq_some hindex
  exact (freeIndex_spec _ _ _).1

/-- What the resolver remembers is what it handed out. -/
theorem linked_assigned (h : Linked d dir w xs w') (key : List Component) :
    key ∈ w'.resolver.assigned ↔ key ∈ w.resolver.assigned ∨
      ∃ x ∈ xs, ∃ paths, x.handed? = some paths ∧ key ∈ paths.keys := by
  induction h with
  | nil => simp
  | @cons x xs w' _ ih =>
      rw [ih, Deed.resolver_after]
      cases hhanded : x.handed? with
      | none => simp [hhanded]
      | some paths => simp [hhanded, or_comm, or_assoc]

/-- Every index that was handed out has its two files behind it. -/
theorem linked_mem_indices (h : Linked d dir w xs w') (hx : x ∈ xs)
    (haction : x.action = .reserve entry) : ∃ n ∈ indices w.resolver (w.resolver.baseOf entry) xs,
      x.handed? = some (w.resolver.candidate (w.resolver.baseOf entry) n) := by
  refine ⟨_, List.mem_filterMap.mpr ⟨x, hx, ?_⟩, linked_handed h hx haction⟩
  rw [Deed.index?, haction]
  exact if_pos rfl

/-- The text of a class is written at a candidate with an index that was handed out before. -/
theorem Trace.text_index (h : Trace d dir (tasksOf job d) w (us ++ vs) w') (hx : x ∈ us)
    (haction : x.action = .text kind entry) :
    Selected job d entry ∧ ∃ n ∈ indices w.resolver (w.resolver.baseOf entry) us,
      x.progress.paths = w.resolver.candidate (w.resolver.baseOf entry) n := by
  obtain ⟨ss, ts, rfl⟩ := List.append_of_mem hx
  rw [List.append_assoc, List.cons_append] at h
  obtain ⟨hselected, first, hfirst, hreserve, hhanded⟩ := h.handed_before haction
  obtain ⟨hlinked, -⟩ := h.linked.split
  obtain ⟨n, hn, hhanded'⟩ := linked_mem_indices hlinked hfirst hreserve
  refine ⟨hselected, n, ?_, Option.some.inj (hhanded.symm.trans hhanded')⟩
  exact (List.Sublist.filterMap _ (List.sublist_append_left _ _)).subset hn

/-- How many indices are handed out for a base name depends only on what is done. -/
theorem length_indices (r : PathResolver) (base : String) (xs : List Deed) :
    (indices r base xs).length = (xs.map (·.action)).countP fun action =>
      match action with
      | .reserve entry => r.baseOf entry = base
      | _ => false := by
  rw [indices, List.length_filterMap_eq_countP, List.countP_map]
  refine List.countP_congr fun x _ => ?_
  rw [Deed.index?, Function.comp_apply]
  cases x.action with
  | reserve entry => by_cases hbase : r.baseOf entry = base <;> simp [hbase]
  | _ => simp

/-! ### Names that stay apart -/

/-- Classes stay below the output directory, and so do resources that have something in them. -/
structure NamesInside (job : Job) (d : Decompiler) (r : PathResolver)
    (content : String → Outcome (List UInt8)) : Prop where
  below : ∀ c, Selected job d c → StaysBelow (r.baseOf c)
  contained : ∀ name, Requested job d name → (content name).isDone = true →
    isContained name = true

/-- The names of classes and resources are not in the way of each other, whatever is in the
archive besides and whatever comes first. Of a class both candidates count for each index, since
both of them have to be free. -/
structure NamesApart (job : Job) (d : Decompiler) (r : PathResolver)
    (content : String → Outcome (List UInt8)) : Prop extends NamesInside job d r content where
  classes : ∀ c c', Selected job d c → Selected job d c' → r.baseOf c ≠ r.baseOf c' →
    ∀ n n' kind kind', 1 ≤ n → 1 ≤ n' →
      ¬ names r.flatten (r.baseOf c) n kind <+: names r.flatten (r.baseOf c') n' kind'
  resources : ∀ c name, Selected job d c → Requested job d name → (content name).isDone = true →
    ∀ n kind, 1 ≤ n → ¬ names r.flatten (r.baseOf c) n kind <+: steps name

/-- Names that are not on the way to a candidate that deeds handed out, nor to a resource. -/
structure OffWays (job : Job) (d : Decompiler) (r : PathResolver)
    (content : String → Outcome (List UInt8)) (xs : List Deed) (found : List String) : Prop where
  classes : ∀ c, Selected job d c → ∀ n ∈ indices r (r.baseOf c) xs, ∀ kind,
    ¬ found <+: names r.flatten (r.baseOf c) n kind
  resources : ∀ name, Requested job d name → (content name).isDone = true → ¬ found <+: steps name

/-- The names for an index that was not handed out are not on the way to any that was. -/
theorem NamesApart.fresh {c : ClassEntry} {m : Nat} (h : NamesApart job d r content)
    (hentry : Selected job d entry) (hc : Selected job d c) (hn : 1 ≤ n)
    (hnew : n ∉ indices r (r.baseOf entry) xs) (hm : m ∈ indices r (r.baseOf c) xs)
    (kind kind' : Kind) :
    ¬ names r.flatten (r.baseOf entry) n kind <+: names r.flatten (r.baseOf c) m kind' := by
  intro hbegins
  have hone := one_le_of_mem_indices hm
  by_cases hbase : r.baseOf entry = r.baseOf c
  · rw [← hbase] at hm hbegins
    exact hnew (PathResolver.index_eq_of_names hn hone hbegins ▸ hm)
  · exact h.classes entry c hentry hc hbase n m kind kind' hn hone hbegins

theorem NamesApart.offWays (h : NamesApart job d r content) (hentry : Selected job d entry)
    (hn : 1 ≤ n) (hnew : n ∉ indices r (r.baseOf entry) xs) (kind : Kind) :
    OffWays job d r content xs (names r.flatten (r.baseOf entry) n kind) :=
  ⟨fun _ hc _ hm kind' => h.fresh hentry hc hn hnew hm kind kind',
    fun name hrequested hdone => h.resources entry name hentry hrequested hdone n kind hn⟩

/-- A workspace in which a pass starts: the output directory stands, and nothing has been handed
out. -/
structure Workspace.Starts (w : Workspace) (dir : String) (loc : Location) : Prop where
  root : w.resolver.root = dir
  nonempty : dir ≠ ""
  assigned : w.resolver.assigned = []
  stands : w.tree.Stands dir loc
  closed : w.tree.Closed

theorem Decoder.starts {dec : Decoder} {prompt : Prompt} {w : World} {archive : String}
    (hclosed : w.tree.Closed)
    (hstands : (dec.preparedTree prompt w archive).Stands (outputDir dec.job archive) loc) :
    (dec.passStart prompt w archive).Starts (outputDir dec.job archive) loc := by
  refine ⟨rfl, outputDir_ne_empty _ _, rfl, hstands, ?_⟩
  rw [passStart_tree, preparedTree_eq]
  exact closed_prepared hclosed _ _

theorem Piece.steady {behind : Task} {first : Deed} {ending : Option Progress}
    (h : Piece d dir job behind entry first xs ending) : ∀ x ∈ xs, x.Steady source content := by
  intro x hx name haction
  rcases h.action_mem x hx with ⟨kind, -, hother⟩ | hother <;>
    exact absurd (haction.symm.trans hother) (by simp)

/-- The deeds behind the first one of a piece try the texts that come to be written for its class,
and of the others only such as are not there. -/
theorem Piece.mem_writtenKinds {behind : Task} {first : Deed} {ending : Option Progress}
    (h : Piece d dir job behind entry first xs ending) (hsave : d.SavesFrom source) :
    kind ∈ writtenKinds d entry job.kinds ↔
      (d.text kind entry).isDone = true ∧ ∃ x ∈ xs, x.action = .text kind entry := by
  -- A class asks for no resource, so any answer about these will do.
  have hactions : xs.map (·.action) = executed d (fun _ => .failed [])
      (job.kinds.map (.text · entry) ++ [.settle entry]) := h.thread.map_executed hsave h.steady
  rw [Decode.mem_writtenKinds fun _ => .failed [], ← hactions, List.mem_map]

/-- A text that is tried, and is there, is one of those that come to be written for its class. -/
theorem Trace.mem_writtenKinds (h : Trace d dir (tasksOf job d) w xs w')
    (hsave : d.SavesFrom source) (hx : x ∈ xs) (haction : x.action = .text kind entry)
    (hdone : (d.text kind entry).isDone = true) : kind ∈ writtenKinds d entry job.kinds := by
  obtain ⟨-, behind, first, zs, ending, hpiece, hmem, -⟩ :=
    h.exists_piece hx (.inr (.inl ⟨kind, haction⟩))
  have hzs : x ∈ zs := hpiece.mem_tail hmem (by simp [haction])
  exact (hpiece.mem_writtenKinds hsave).mpr ⟨hdone, x, hzs, haction⟩

/-- What a deed aims at: a candidate that was handed out before, or the place of a resource. -/
theorem Trace.aims_cases (h : Trace d dir (tasksOf job d) w (us ++ vs) w')
    (hsave : d.SavesFrom source) (hstart : w.Starts dir loc)
    (hinside : NamesInside job d w.resolver content)
    (hsteady : ∀ x ∈ us, x.Steady source content) (hx : x ∈ us) {path : String}
    {found : List String} (haims : x.Aims d dir source path found) :
    (∃ kind entry, x.action = .text kind entry ∧ Selected job d entry ∧
      kind ∈ writtenKinds d entry job.kinds ∧
      ∃ n ∈ indices w.resolver (w.resolver.baseOf entry) us,
        path = (w.resolver.candidate (w.resolver.baseOf entry) n).of kind ∧
        found = names w.resolver.flatten (w.resolver.baseOf entry) n kind) ∨
    ∃ name, x.action = .resource name ∧ Requested job d name ∧ (content name).isDone = true ∧
      path = Path.join dir name ∧ found = steps name := by
  have hpath := haims.isPath
  have hxs : x ∈ us ++ vs := List.mem_append_left vs hx
  have hdone := haims.hasContent
  cases haction : x.action with
  | text kind entry =>
      obtain ⟨hselected, n, hn, hpaths⟩ := h.text_index hx haction
      simp only [Deed.path?, haction, Option.some.injEq] at hpath
      rw [hpaths] at hpath
      rw [Deed.content?_text haction] at hdone
      have hrel := (hinside.below entry hselected).1
      have hleads := hstart.root ▸ hpath ▸ PathResolver.leads_candidate hrel w.resolver n kind
      exact .inl ⟨kind, entry, rfl, hselected, h.mem_writtenKinds hsave hxs haction hdone, n, hn,
        hpath.symm, haims.leads.unique hleads⟩
  | resource name =>
      simp only [Deed.path?, haction, Option.some.injEq] at hpath
      have hrequested := h.resource_mem hxs haction
      rw [Deed.content?_resource haction, hsteady x hx name haction] at hdone
      have hrel := (isContained_spec (hinside.contained name hrequested hdone)).1
      exact .inr ⟨name, rfl, hrequested, hdone, hpath.symm,
        haims.leads.unique (hpath ▸ Path.leads_join hrel)⟩
  | reserve entry => simp [Deed.path?, haction] at hpath
  | settle entry => simp [Deed.path?, haction] at hpath

/-- All deeds of a pass aim below the output directory. -/
theorem Trace.aimsBelow (h : Trace d dir (tasksOf job d) w xs w') (hstart : w.Starts dir loc)
    (hinside : NamesInside job d w.resolver content) (hx : x ∈ xs)
    (hsteady : x.Steady source content) : x.AimsBelow d dir source := by
  refine h.aims_below (fun name haction hcontent => ?_) hstart.nonempty hstart.root hinside.below hx
  rw [Deed.content?_resource haction, hsteady name haction] at hcontent
  exact hinside.contained name (h.resource_mem hx haction) hcontent

/-- The deeds of a pass make directories on the ways to what they aim at, and write there or to
the log. -/
theorem Trace.evolves_aimed (h : Trace d dir (tasksOf job d) w (us ++ vs) w')
    (hsave : d.SavesFrom source) (hstart : w.Starts dir loc)
    (hinside : NamesInside job d w.resolver content) (hsteady : ∀ x ∈ us, x.Steady source content)
    (hlinked : Linked d dir w us v) :
    Evolves (fun l => ∃ x ∈ us, x.OnAim d dir source loc l)
      (fun l => (∃ x ∈ us, x.AtAim d dir source loc l) ∨ l = logLocation loc) w.tree v.tree := by
  refine (linked_evolves hlinked hstart.stands fun x hx hstands => ?_).2
  have haims := h.aimsBelow hstart hinside (List.mem_append_left vs hx) (hsteady x hx)
  exact (Deed.evolves_aims hsave hstands haims).mono (fun l hway => ⟨x, hx, hway⟩)
    fun l hl => hl.imp (fun hat => ⟨x, hx, hat⟩) And.right

/-- Where names are off the ways, a candidate exists only if it existed before the pass. -/
theorem Trace.exists?_candidate (h : Trace d dir (tasksOf job d) w (us ++ vs) w')
    (hsave : d.SavesFrom source) (hstart : w.Starts dir loc)
    (hinside : NamesInside job d w.resolver content) (hsteady : ∀ x ∈ us, x.Steady source content)
    (hlinked : Linked d dir w us v) (hselected : Selected job d entry)
    (hoff : OffWays job d w.resolver content us
      (names w.resolver.flatten (w.resolver.baseOf entry) n kind)) :
    v.tree.exists? ((w.resolver.candidate (w.resolver.baseOf entry) n).of kind) =
      w.tree.exists? ((w.resolver.candidate (w.resolver.baseOf entry) n).of kind) := by
  have hbelow := hinside.below entry hselected
  have hnone : ∀ x ∈ us, ∀ path found, x.Aims d dir source path found →
      ¬ names w.resolver.flatten (w.resolver.baseOf entry) n kind <+: found := by
    intro x hx path found haims
    rcases h.aims_cases hsave hstart hinside hsteady hx haims with
      ⟨kind', c, -, hc, -, m, hm, -, rfl⟩ | ⟨name, -, hrequested, hdone, -, rfl⟩
    · exact hoff.classes c hc m hm kind'
    · exact hoff.resources name hrequested hdone
  have hleads := hstart.root ▸ PathResolver.leads_candidate hbelow.1 w.resolver n kind
  refine Tree.exists?_of_evolves (h.evolves_aimed hsave hstart hinside hsteady hlinked)
    hstart.closed hstart.stands hleads (PathResolver.up_notMem_names hbelow _ _ _)
    (PathResolver.namesDirectory_candidate hbelow.1 (hstart.root ▸ hstart.nonempty) n kind) ?_ ?_
  · rintro ⟨x, hx, path, found, haims, hway⟩
    exact hnone x hx path found haims ((List.prefix_append_right_inj loc).mp hway.dropLast.2)
  · rintro (⟨x, hx, path, found, haims, -, hsame⟩ | hlog)
    · exact hnone x hx path found haims (List.append_cancel_left hsame ▸ List.prefix_rfl)
    · exact PathResolver.names_ne_log _ _ _ _ (List.append_cancel_left hlog)

/-- The indices that were free for a base name before a pass. -/
def FreeBefore (w : Workspace) (base : String) (n : Nat) : Prop :=
  1 ≤ n ∧ ∀ kind, w.tree.exists? ((w.resolver.candidate base n).of kind) = false

/-- An index that was free before the pass is still so where its names are off the ways. -/
theorem Trace.bothFree_of_offWays (h : Trace d dir (tasksOf job d) w (us ++ x :: vs) w')
    (hsave : d.SavesFrom source) (hstart : w.Starts dir loc)
    (hinside : NamesInside job d w.resolver content) (hsteady : ∀ x ∈ us, x.Steady source content)
    (hselected : Selected job d entry) (hfree : FreeBefore w (w.resolver.baseOf entry) n)
    (hoff : ∀ kind, OffWays job d w.resolver content us
      (names w.resolver.flatten (w.resolver.baseOf entry) n kind)) :
    x.before.resolver.bothFree x.before.tree (w.resolver.baseOf entry) n = true := by
  obtain ⟨hlinked, -⟩ := h.linked.split
  obtain ⟨hsameRoot, hsameFlatten⟩ := linked_resolver h.linked x (by simp)
  have hfolder := PathResolver.folder_ne_empty (r := w.resolver)
    (hstart.root ▸ hstart.nonempty)
  have hbelow := hinside.below entry hselected
  rw [PathResolver.bothFree_iff, PathResolver.candidate_congr hsameRoot hsameFlatten]
  intro kind
  have hexists := h.exists?_candidate hsave hstart hinside hsteady hlinked hselected (hoff kind)
  -- What is remembered was handed out in this pass, and these names are on no way to it.
  refine ⟨fun hmem => ?_, hexists.trans (hfree.2 kind)⟩
  rw [linked_assigned hlinked, hstart.assigned] at hmem
  obtain ⟨y, hy, paths, hhanded, hkey⟩ := hmem.resolve_left List.not_mem_nil
  obtain ⟨kind', hkey⟩ := OutputPaths.mem_keys.mp hkey
  obtain ⟨c, haction⟩ : ∃ c, y.action = .reserve c := by
    rw [Deed.handed?] at hhanded
    split at hhanded
    · exact ⟨_, ‹_›⟩
    · exact absurd hhanded (by simp)
  obtain ⟨m, hm, hhanded'⟩ := linked_mem_indices hlinked hy haction
  obtain rfl := Option.some.inj (hhanded.symm.trans hhanded')
  have hc : Selected job d c := (h.exists_piece (List.mem_append_left _ hy) (.inl haction)).1
  rw [PathResolver.components_candidate hbelow _ _ _ (.inl (hfolder kind)),
    PathResolver.components_candidate (hinside.below c hc) _ _ _ (.inl (hfolder kind'))] at hkey
  have hnames := (List.map_injective_iff.mpr fun _ _ => Component.name.inj)
    (List.append_cancel_left hkey)
  exact (hoff kind).classes c hc m hm kind' (hnames ▸ List.prefix_rfl)

/-- An index is free for a class if it was so before the pass and was not handed out for its base
name. -/
theorem Trace.bothFree_iff (h : Trace d dir (tasksOf job d) w (us ++ x :: vs) w')
    (hsave : d.SavesFrom source) (hstart : w.Starts dir loc)
    (hapart : NamesApart job d w.resolver content)
    (hsteady : ∀ x ∈ us, x.Steady source content) (hselected : Selected job d entry) (hn : 1 ≤ n) :
    x.before.resolver.bothFree x.before.tree (w.resolver.baseOf entry) n = true ↔
      FreeBefore w (w.resolver.baseOf entry) n ∧
        n ∉ indices w.resolver (w.resolver.baseOf entry) us := by
  obtain ⟨hlinked, -⟩ := h.linked.split
  obtain ⟨hsameRoot, hsameFlatten⟩ := linked_resolver h.linked x (by simp)
  constructor
  · intro hfree
    rw [PathResolver.bothFree_iff, PathResolver.candidate_congr hsameRoot hsameFlatten] at hfree
    -- An index that was handed out is remembered, so it is not free any more.
    have hnew : n ∉ indices w.resolver (w.resolver.baseOf entry) us := by
      intro hmem
      obtain ⟨y, hy, hindex⟩ := List.mem_filterMap.mp hmem
      obtain ⟨c, haction, hbase, rfl⟩ := Deed.index?_eq_some hindex
      have hhanded := linked_handed hlinked hy haction
      rw [hbase] at hhanded
      exact (hfree .java).1 ((linked_assigned hlinked _).mpr
        (.inr ⟨y, hy, _, hhanded, OutputPaths.mem_keys.mpr ⟨.java, rfl⟩⟩))
    refine ⟨⟨hn, fun kind => ?_⟩, hnew⟩
    have hexists := h.exists?_candidate hsave hstart hapart.toNamesInside hsteady hlinked hselected
      (hapart.offWays hselected hn hnew kind)
    exact hexists.symm.trans (hfree kind).2
  · rintro ⟨hbefore, hnew⟩
    exact h.bothFree_of_offWays hsave hstart hapart.toNamesInside hsteady hselected hbefore
      (hapart.offWays hselected hn hnew)

/-- The indices for a base name are the first ones that were free before the pass. -/
theorem Trace.firstOf_indices (h : Trace d dir (tasksOf job d) w (us ++ vs) w')
    (hsave : d.SavesFrom source) (hstart : w.Starts dir loc)
    (hapart : NamesApart job d w.resolver content)
    (hsteady : ∀ x ∈ us, x.Steady source content) (base : String) :
    FirstOf (FreeBefore w base) (indices w.resolver base us) := by
  -- Backwards, since what the search finds depends on everything that was done before it.
  induction us using List.reverseRecOn generalizing vs with
  | nil => exact .nil _
  | append_singleton us x ih =>
      rw [List.append_assoc] at h
      have hus : ∀ y ∈ us, y.Steady source content :=
        fun y hy => hsteady y (List.mem_append_left _ hy)
      have hfirst := ih h hus
      rw [indices, List.filterMap_append]
      cases hindex : x.index? w.resolver base with
      | none =>
          simp only [List.filterMap_cons, hindex, List.filterMap_nil, List.append_nil]
          exact hfirst
      | some n =>
          obtain ⟨c, haction, rfl, hleast⟩ := Deed.index?_eq_some hindex
          have hc : Selected job d c := (h.exists_piece (by simp) (.inl haction)).1
          have hiff : ∀ {m}, 1 ≤ m → _ := h.bothFree_iff hsave hstart hapart hus hc
          obtain ⟨hone, hfree, hnone⟩ := freeIndex_spec x.before.resolver x.before.tree
            (w.resolver.baseOf c)
          rw [← hleast] at hone hfree hnone
          obtain ⟨hbefore, hnew⟩ := (hiff hone).mp hfree
          simp only [List.filterMap_cons, hindex, List.filterMap_nil]
          refine hfirst.concat hbefore hnew fun m hm hlt => ?_
          -- A smaller index that is missing would still be free, and the search would stop there.
          by_contra hmem
          have hfree' := (hiff hm.1).mpr ⟨hm, hmem⟩
          rw [hnone m hm.1 hlt] at hfree'
          exact absurd hfree' (by simp)

end ArchiveScout.Decode
