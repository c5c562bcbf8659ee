import ArchiveScout.Proofs.Archive.ClassEntry
import ArchiveScout.Proofs.Decode.Accounting
import ArchiveScout.Proofs.Decode.Numbering
import ArchiveScout.Proofs.Decode.Overwriting

/-!
# ArchiveScout.Proofs.Decode.Hierarchy

**Every class where its name says.** A point only stands in the last name on the way to a file of
a class with a binary name, so these files are never on the way to each other, and different
classes have different ones. In a new directory the first candidate of a class is therefore still
free when its turn comes, whatever was written before: the invariant of a run is that only the
first index was handed out. Then the directory holds exactly the texts that the tools printed, by
the names of their classes, and the log of the classes of which a text is missing.
-/

namespace ArchiveScout.Decode

open ArchiveScout.Archive (Catalog ClassEntry IsBinaryName aliasPath_mem catalog classPath?
  groupClasses isDirectoryName listedName nodup_aliasPath openArchive sorted_eq_self topLevelClass)
open ArchiveScout.Console (Prompt)
open ArchiveScout.File
open PathResolver (StaysBelow lastName names)

variable {d : Decompiler} {dir path path' : String} {job : Job} {w w' : Workspace} {x : Deed}
  {xs us vs : List Deed} {loc l : Location} {source : String → Tree → Outcome (List UInt8)}
  {content : String → Outcome (List UInt8)} {r : PathResolver} {entry : ClassEntry}
  {entries : List ClassEntry} {kind kind' : Kind} {n : Nat} {found : Content}

/-! ### Binary names -/

theorem staysBelow_of_binary (h : IsBinaryName path) : StaysBelow path := by
  constructor
  · rw [← Bool.not_eq_true, Path.isAbsolute_iff]
    rintro ⟨rest, -, hpieces⟩
    exact (h "" (by simp [hpieces])).1 rfl
  · intro hup
    exact (h.step (List.dropLast_subset _ hup)).2 rfl

/-- The names that lead to the first candidate for a binary name. -/
theorem names_first (h : IsBinaryName path) (kind : Kind) : names false path 1 kind =
    kind.folder :: (Path.pieces path).dropLast ++ [lastName path 1 kind] := by
  have hsteps : (Path.pieces path).dropLast.filter Path.isStep = (Path.pieces path).dropLast := by
    refine List.filter_eq_self.mpr fun name hname => ?_
    exact (h.step (List.dropLast_subset _ hname)).1
  rw [names, PathResolver.steps_fileName_eq, hsteps]
  simp

/-- The first candidate is the folder of its kind, the path of the class and the ending. -/
theorem names_first_eq_pieces (h : IsBinaryName path) (kind : Kind) : names false path 1 kind =
    Path.pieces (kind.folder ++ "/" ++ (path ++ kind.ending)) := by
  have hending : '/' ∉ kind.ending.toList := by cases kind <;> decide
  have hfolder : Path.pieces kind.folder = [kind.folder] := by cases kind <;> decide
  rw [names_first h, Path.pieces_append_slash, hfolder,
    Path.pieces_append_of_notMem hending (PathResolver.pieces_eq_dropLast path)]
  simp [lastName, PathResolver.suffix]

/-- First candidates for binary names are only on the way to themselves. -/
theorem names_first_injective (h : IsBinaryName path) (h' : IsBinaryName path')
    (hbegins : names false path 1 kind <+: names false path' 1 kind') :
    path = path' ∧ kind = kind' := by
  rw [names_first h, names_first h', List.prefix_concat_iff] at hbegins
  rcases hbegins with hsame | hshort
  · obtain ⟨hfront, hlast⟩ := List.append_inj' hsame rfl
    obtain ⟨hfolder, hinit⟩ := List.cons.inj hfront
    have hkinds : kind = kind' := by
      cases kind <;> cases kind' <;> first | rfl | exact absurd hfolder (by decide)
    subst hkinds
    have hend := congrArg String.toList (List.cons.inj hlast).1
    simp only [lastName, String.toList_append, List.append_cancel_right_eq] at hend
    have hpieces : Path.pieces path = Path.pieces path' := by
      rw [PathResolver.pieces_eq_dropLast path, PathResolver.pieces_eq_dropLast path', hinit,
        String.toList_injective hend]
    exact ⟨Path.pieces_injective hpieces, rfl⟩
  · -- The ending has a point, which no name has that is not the last one.
    have hmem := hshort.subset (List.mem_append_right _ (List.mem_singleton_self _))
    have hpoint : '.' ∈ (lastName path 1 kind).toList := by
      cases kind <;> simp [lastName, Kind.ending]
    rcases List.mem_cons.mp hmem with hfolder | hinit
    · rw [hfolder] at hpoint
      cases kind' <;> exact absurd hpoint (by decide)
    · exact absurd hpoint (h' _ (List.dropLast_subset _ hinit)).2.1

/-! ### The invariant -/

/-- A pass that writes some classes with different binary names into a directory in which nothing
stands, from texts that do not panic. -/
structure ByName (job : Job) (d : Decompiler) (w : Workspace) (loc : Location)
    (entries : List ClassEntry) : Prop where
  flatten : w.resolver.flatten = false
  tasks : tasksOf job d = entries.map (classActions job)
  selected : ∀ c, Selected job d c → c ∈ entries
  resources : d.resources = []
  binary : ∀ c ∈ entries, IsBinaryName c.aliasPath
  distinct : (entries.map ClassEntry.aliasPath).Nodup
  calm : ∀ kind c, d.text kind c ≠ .panicked
  fresh : ∀ l, loc.Inside l → w.tree.get? l = none

/-- The path of a class for which an action hands out files. -/
def Action.reserved? : Action → Option String
  | .reserve entry => some entry.aliasPath
  | _ => none

theorem mem_actions_text : Action.text kind entry ∈ entries.flatMap (classActions job) ↔
    entry ∈ entries ∧ kind ∈ job.kinds := by
  simp only [List.mem_flatMap, classActions]
  constructor
  · rintro ⟨c, hc, haction⟩
    simp only [List.mem_cons, List.mem_append, List.mem_map] at haction
    obtain haction | ⟨kind', hkind, haction⟩ | haction | haction := haction
    · simp at haction
    · obtain ⟨rfl, rfl⟩ := Action.text.inj haction
      exact ⟨hc, hkind⟩
    · simp at haction
    · simp at haction
  · rintro ⟨hentry, hkind⟩
    exact ⟨entry, hentry, by simp [hkind]⟩

namespace ByName

variable (h : ByName job d w loc entries)
include h

theorem baseOf_eq (c : ClassEntry) : w.resolver.baseOf c = c.aliasPath := by
  rw [PathResolver.baseOf, if_neg (by simp [h.flatten])]

theorem no_resource (name : String) : ¬ Requested job d name := by
  rintro ⟨hmem, -⟩
  rw [h.resources] at hmem
  exact absurd hmem List.not_mem_nil

theorem inside (content : String → Outcome (List UInt8)) :
    NamesInside job d w.resolver content := by
  refine ⟨fun c hc => ?_, fun name hname => absurd hname (h.no_resource name)⟩
  rw [h.baseOf_eq]
  exact staysBelow_of_binary (h.binary c (h.selected c hc))

theorem steady (htrace : Trace d dir (tasksOf job d) w xs w') :
    ∀ x ∈ xs, x.Steady source content := by
  intro x hx name haction
  exact absurd (htrace.resource_mem hx haction) (h.no_resource name)

/-- A run does all actions for all classes. -/
theorem perm_actions (htrace : Trace d dir (tasksOf job d) w xs w') (hsave : d.SavesFrom source) :
    (xs.map (·.action)).Perm (entries.flatMap (classActions job)) := by
  have hsteady : ∀ x ∈ xs, x.Steady source fun _ => .done [] := h.steady htrace
  have hperm := htrace.perm_executed hsave hsteady
  rw [h.tasks, List.flatMap_map] at hperm
  refine hperm.trans (.of_eq (List.flatMap_congr fun c _ => executed_eq_self ?_))
  intro action haction
  have hcalm : ∀ kind, d.text kind c ≠ .panicked := fun kind => h.calm kind c
  simp only [classActions, List.mem_cons, List.mem_append, List.mem_map] at haction
  obtain rfl | ⟨kind, -, rfl⟩ | rfl | haction := haction
  · rfl
  · simp [Action.panics, hcalm]
  · rfl
  · exact absurd haction List.not_mem_nil

/-- Files are handed out for a class once. -/
theorem nodup_reserved (htrace : Trace d dir (tasksOf job d) w xs w')
    (hsave : d.SavesFrom source) : (xs.filterMap fun x => x.action.reserved?).Nodup := by
  have hclass : ∀ c, (classActions job c).filterMap Action.reserved? = [c.aliasPath] := by
    intro c
    have htexts : (job.kinds.map (Action.text · c)).filterMap Action.reserved? = [] := by
      simp [Action.reserved?]
    simp only [classActions, List.filterMap_cons, List.filterMap_append, htexts]
    rfl
  have hperm := (h.perm_actions htrace hsave).filterMap Action.reserved?
  rw [List.filterMap_map, List.filterMap_flatMap] at hperm
  simp only [hclass, ← List.map_eq_flatMap] at hperm
  exact hperm.nodup_iff.mpr h.distinct

/-- In a new directory the first index is free before the pass. -/
theorem freeBefore (hstart : w.Starts dir loc) (hentry : entry ∈ entries) :
    FreeBefore w (w.resolver.baseOf entry) 1 := by
  refine ⟨Nat.le_refl 1, fun kind => ?_⟩
  rw [h.baseOf_eq]
  have hbelow := staysBelow_of_binary (h.binary entry hentry)
  have hleads := hstart.root ▸ PathResolver.leads_candidate hbelow.1 w.resolver 1 kind
  by_contra hexists
  rw [Bool.not_eq_false] at hexists
  obtain ⟨l, node, hlocate⟩ := Tree.exists?_iff.mp hexists
  obtain ⟨rfl, -⟩ := Tree.locate_of_leads hstart.stands hleads
    (PathResolver.up_notMem_names hbelow _ _ _) hlocate
  obtain ⟨-, -, hnode, -⟩ := Tree.locate_eq_ok hlocate
  have hinside := loc.inside_append (PathResolver.names_ne_nil w.resolver.flatten
    entry.aliasPath 1 kind)
  rw [h.fresh _ hinside] at hnode
  exact absurd hnode (by simp)

/-- If only first indices were handed out before, then the first one is free for a class when its
turn comes. -/
theorem freeIndex_eq_one (htrace : Trace d dir (tasksOf job d) w (us ++ x :: vs) w')
    (hsave : d.SavesFrom source) (hstart : w.Starts dir loc)
    (hones : ∀ base, ∀ n ∈ indices w.resolver base us, n = 1)
    (haction : x.action = .reserve entry) :
    x.before.resolver.freeIndex x.before.tree (w.resolver.baseOf entry) = 1 := by
  have hselected : Selected job d entry := (htrace.exists_piece (by simp) (.inl haction)).1
  have hentry := h.selected entry hselected
  have hsteady : ∀ y ∈ us, y.Steady source fun _ => .done [] :=
    fun y hy => h.steady htrace y (List.mem_append_left _ hy)
  -- A candidate that this one is on the way to would be one for the same class.
  have hoff : ∀ kind, OffWays job d w.resolver (fun _ => .done []) us
      (names w.resolver.flatten (w.resolver.baseOf entry) 1 kind) := by
    intro kind
    refine ⟨fun c hc m hm kind' hbegins => ?_, fun name hname => absurd hname (h.no_resource name)⟩
    obtain rfl := hones _ m hm
    rw [h.flatten, h.baseOf_eq, h.baseOf_eq] at hbegins
    obtain ⟨hsame, -⟩ := names_first_injective (h.binary entry hentry)
      (h.binary c (h.selected c hc)) hbegins
    obtain ⟨y, hy, hindex⟩ := List.mem_filterMap.mp hm
    obtain ⟨e, hreserve, hbase, -⟩ := Deed.index?_eq_some hindex
    rw [h.baseOf_eq, h.baseOf_eq, ← hsame] at hbase
    have hnodup := h.nodup_reserved htrace hsave
    rw [List.filterMap_append] at hnodup
    have hearlier : entry.aliasPath ∈ us.filterMap fun x => x.action.reserved? :=
      List.mem_filterMap.mpr ⟨y, hy, by rw [hreserve, ← hbase]; rfl⟩
    have hnow : entry.aliasPath ∈ (x :: vs).filterMap fun x => x.action.reserved? :=
      List.mem_filterMap.mpr ⟨x, List.mem_cons_self, by rw [haction]; rfl⟩
    exact (List.nodup_append.mp hnodup).2.2 _ hearlier _ hnow rfl
  have hfree := htrace.bothFree_of_offWays hsave hstart (h.inside _) hsteady hselected
    (h.freeBefore hstart hentry) hoff
  obtain ⟨hone, -, hleast⟩ := PathResolver.freeIndex_spec x.before.resolver x.before.tree
    (w.resolver.baseOf entry)
  by_contra hne
  have hno := hleast 1 (Nat.le_refl 1) (by omega)
  rw [hfree] at hno
  exact absurd hno (by simp)

/-- Only first indices are handed out in a whole run. -/
theorem indices_eq_one (htrace : Trace d dir (tasksOf job d) w (us ++ vs) w')
    (hsave : d.SavesFrom source) (hstart : w.Starts dir loc) (base : String) :
    ∀ n ∈ indices w.resolver base us, n = 1 := by
  -- Backwards, since what the search finds depends on everything that was done before it.
  induction us using List.reverseRecOn generalizing vs base with
  | nil => simp [indices]
  | append_singleton us x ih =>
      rw [List.append_assoc] at htrace
      intro n hn
      rw [indices, List.filterMap_append, List.mem_append] at hn
      rcases hn with hn | hn
      · exact ih htrace base n hn
      · obtain ⟨y, hy, hindex⟩ := List.mem_filterMap.mp hn
        obtain rfl := List.mem_singleton.mp hy
        obtain ⟨c, haction, rfl, rfl⟩ := Deed.index?_eq_some hindex
        exact h.freeIndex_eq_one htrace hsave hstart (ih htrace) haction

/-- Where a text is. -/
theorem text_location (htrace : Trace d dir (tasksOf job d) w xs w') (hsave : d.SavesFrom source)
    (hstart : w.Starts dir loc) (hx : x ∈ xs) (haction : x.action = .text kind entry)
    (houtput : (x.output? d dir).isSome) : x.location? d dir =
      some (loc ++ Path.pieces (kind.folder ++ "/" ++ (entry.aliasPath ++ kind.ending))) := by
  have hdir := (linked_files htrace.linked hsave hstart.stands).1 x hx
  rw [← List.append_nil xs] at htrace
  obtain ⟨hselected, n, hn, hpaths⟩ := htrace.text_index hx haction
  obtain rfl := h.indices_eq_one htrace hsave hstart _ n hn
  have hbinary := h.binary entry (h.selected entry hselected)
  rw [h.baseOf_eq] at hpaths
  rw [Deed.location?_candidate hsave hdir hstart.root (staysBelow_of_binary hbinary) haction hpaths
    houtput, h.flatten, names_first_eq_pieces hbinary]

/-- No file is written twice. -/
theorem noOverwriting (htrace : Trace d dir (tasksOf job d) w xs w') (hsave : d.SavesFrom source)
    (hstart : w.Starts dir loc) : NoOverwriting d dir loc xs := by
  have hstands := (linked_files htrace.linked hsave hstart.stands).1
  have hno : ∀ x ∈ xs, ¬ x.Strays w.resolver := by
    intro x hx hstray
    rw [Deed.Strays] at hstray
    cases haction : x.action with
    | reserve c => simp [haction] at hstray
    | text kind c =>
        obtain ⟨hselected, -⟩ := htrace.exists_piece hx (.inr (.inl ⟨kind, haction⟩))
        rw [haction] at hstray
        exact hstray ((h.inside fun _ => .done []).below c hselected)
    | settle c => simp [haction] at hstray
    | resource name => exact h.no_resource name (htrace.resource_mem hx haction)
  refine (htrace.noOverwriting_iff hsave hstart.root hstart.nonempty hstands).mpr
    ⟨?_, fun _ x hx hstray => absurd hstray (hno x hx)⟩
  refine List.pairwise_of_forall_mem_list fun x hx y hy hstray => ?_
  exact absurd hstray (not_or.mpr ⟨hno x hx, hno y hy⟩)

/-! ### Files and lines -/

/-- Every file that a run wrote is that of a text. -/
theorem location_cases (htrace : Trace d dir (tasksOf job d) w xs w') (hsave : d.SavesFrom source)
    (hstart : w.Starts dir loc) (hx : x ∈ xs) (hl : x.location? d dir = some l) :
    ∃ c ∈ entries, ∃ kind ∈ job.kinds, x.action = .text kind c ∧
      l = loc ++ Path.pieces (kind.folder ++ "/" ++ (c.aliasPath ++ kind.ending)) := by
  obtain ⟨path, houtput⟩ := Deed.exists_output_of_location hl
  have hmem := (h.perm_actions htrace hsave).mem_iff.mp (List.mem_map_of_mem hx)
  cases haction : x.action with
  | reserve c => simp [Deed.output?, haction] at houtput
  | settle c => simp [Deed.output?, haction] at houtput
  | resource name => exact absurd (htrace.resource_mem hx haction) (h.no_resource name)
  | text kind c =>
      rw [haction, mem_actions_text] at hmem
      have hlocation := h.text_location htrace hsave hstart hx haction (by simp [houtput])
      exact ⟨c, hmem.1, kind, hmem.2, rfl, Option.some.inj (hl.symm.trans hlocation)⟩

/-- What a deed for a text wrote is there at the end. -/
theorem get?_of_text (htrace : Trace d dir (tasksOf job d) w xs w') (hsave : d.SavesFrom source)
    (hstart : w.Starts dir loc) (hx : x ∈ xs) (haction : x.action = .text kind entry)
    (hl : x.location? d dir = some l) :
    ∃ text, d.text kind entry = .done text ∧
      w'.tree.get? l = some (.file (Content.ofText text)) := by
  obtain ⟨path, houtput⟩ := Deed.exists_output_of_location hl
  obtain ⟨l', found, hlocation, hcontent, hlocate⟩ := locate_of_noOverwriting htrace.linked hsave
    hstart.stands (h.noOverwriting htrace hsave hstart) hx houtput
  obtain rfl := Option.some.inj (hl.symm.trans hlocation)
  simp only [Deed.content?, haction] at hcontent
  cases htext : d.text kind entry with
  | done text =>
      rw [htext] at hcontent
      obtain rfl := Option.some.inj hcontent
      exact ⟨text, rfl, (Tree.locate_eq_ok hlocate).2.2.1⟩
  | failed causes => simp [htext] at hcontent
  | panicked => simp [htext] at hcontent

/-- Every text that there is has been written. -/
theorem exists_text (htrace : Trace d dir (tasksOf job d) w xs w') (hsave : d.SavesFrom source)
    (hclear : Undisturbed d dir source content xs) (hentry : entry ∈ entries)
    (hkind : kind ∈ job.kinds) (hdone : (d.text kind entry).isDone = true) :
    ∃ x ∈ xs, x.action = .text kind entry ∧ (x.output? d dir).isSome := by
  have hmem := (h.perm_actions htrace hsave).mem_iff.mpr (mem_actions_text.mpr ⟨hentry, hkind⟩)
  obtain ⟨x, hx, haction⟩ := List.mem_map.mp hmem
  refine ⟨x, hx, haction, ?_⟩
  rw [hclear.decided.text_written hsave hx haction, hdone]
  rfl

/-- At the end of a run the log has the lines of all failures; without any there is no log. -/
theorem file?_log (htrace : Trace d dir (tasksOf job d) w xs w') (hsave : d.SavesFrom source)
    (hstart : w.Starts dir loc) (hclear : Undisturbed d dir source content xs) :
    w'.tree.file? (logLocation loc) =
      if xs.filterMap (Deed.record? d dir) = [] then none
      else some (.bytes (linesBytes (xs.filterMap (Deed.record? d dir)))) := by
  have haccepted : ∀ x ∈ xs, ¬ x.LogRefused d dir :=
    fun x hx hrefused => hclear.smooth x hx (.inr hrefused)
  have hfree : ∀ x ∈ xs, x.location? d dir ≠ some (logLocation loc) := by
    intro x hx hlog
    obtain ⟨c, hc, kind, -, -, heq⟩ := h.location_cases htrace hsave hstart hx hlog
    rw [← names_first_eq_pieces (h.binary c hc)] at heq
    exact PathResolver.names_ne_log _ _ _ _ (List.append_cancel_left heq).symm
  have hnone : w.tree.file? (logLocation loc) = none := by
    have hinside : loc.Inside (logLocation loc) := loc.inside_append (by simp)
    rw [Tree.file?, h.fresh _ hinside]
  rw [linked_log htrace.linked hsave hstart.stands hfree, Deed.filterMap_accepted? haccepted,
    hnone, logged_none]

/-- The files in the directory at the end of a run: all texts by their names, and the log if a
line went to it. -/
theorem get?_file_iff (htrace : Trace d dir (tasksOf job d) w xs w') (hsave : d.SavesFrom source)
    (hstart : w.Starts dir loc) (hclear : Undisturbed d dir source content xs)
    (hl : loc.Inside l) (found : Content) :
    w'.tree.get? l = some (.file found) ↔
      (∃ c ∈ entries, ∃ kind ∈ job.kinds, ∃ text, d.text kind c = .done text ∧
        l = loc ++ Path.pieces (kind.folder ++ "/" ++ (c.aliasPath ++ kind.ending)) ∧
        found = Content.ofText text) ∨
      (xs.filterMap (Deed.record? d dir) ≠ [] ∧ l = logLocation loc ∧
        found = .bytes (linesBytes (xs.filterMap (Deed.record? d dir)))) := by
  have hlog := h.file?_log htrace hsave hstart hclear
  constructor
  · intro hfile
    have hsome := (linked_hasFile htrace.linked hsave hstart.stands l).mp ⟨found, hfile⟩
    obtain ⟨before, hbefore⟩ | ⟨x, hx, hlocation⟩ | ⟨-, rfl⟩ := hsome
    · rw [h.fresh l hl] at hbefore
      exact absurd hbefore (by simp)
    · obtain ⟨c, hc, kind, hkind, haction, heq⟩ :=
        h.location_cases htrace hsave hstart hx hlocation
      obtain ⟨text, htext, hget⟩ := h.get?_of_text htrace hsave hstart hx haction hlocation
      rw [hfile, Option.some.injEq, Node.file.injEq] at hget
      exact .inl ⟨c, hc, kind, hkind, text, htext, heq, hget⟩
    · rw [Tree.file?_eq_some.mpr hfile] at hlog
      split at hlog
      · exact absurd hlog (by simp)
      · rename_i hlines
        exact .inr ⟨hlines, rfl, Option.some.inj hlog⟩
  · rintro (⟨c, hc, kind, hkind, text, htext, rfl, rfl⟩ | ⟨hlines, rfl, rfl⟩)
    · have hdone : (d.text kind c).isDone = true := by rw [htext]; rfl
      obtain ⟨x, hx, haction, houtput⟩ := h.exists_text htrace hsave hclear hc hkind hdone
      have hlocation := h.text_location htrace hsave hstart hx haction houtput
      obtain ⟨text', htext', hget⟩ := h.get?_of_text htrace hsave hstart hx haction hlocation
      rw [htext] at htext'
      obtain rfl := Outcome.done.inj htext'
      exact hget
    · rw [if_neg hlines] at hlog
      exact Tree.file?_eq_some.mp hlog

/-- The lines of a run are those of the classes of which a text is missing. -/
theorem perm_records (htrace : Trace d dir (tasksOf job d) w xs w') (hsave : d.SavesFrom source)
    (hclear : Undisturbed d dir source content xs) :
    (xs.filterMap (Deed.record? d dir)).Perm ((entries.filter fun c =>
      job.kinds.any fun kind => !(d.text kind c).isDone).map classRecord) := by
  have hclass : ∀ c, (classActions job c).filterMap (Action.line? job d content fun _ => true) =
      if job.kinds.any fun kind => !(d.text kind c).isDone then [classRecord c] else [] := by
    intro c
    have htexts : (job.kinds.map (Action.text · c)).filterMap
        (Action.line? job d content fun _ => true) = [] := by
      simp [Action.line?]
    simp only [classActions, List.filterMap_cons, List.filterMap_append, htexts, List.nil_append,
      List.filterMap_nil, Action.line?, Bool.and_true]
    cases hall : job.kinds.all fun kind => (d.text kind c).isDone <;>
      simp [← List.not_all_eq_any_not, hall]
  have hlines : ∀ cs : List ClassEntry,
      (cs.flatMap fun c =>
        if job.kinds.any fun kind => !(d.text kind c).isDone then [classRecord c] else []) =
      (cs.filter fun c => job.kinds.any fun kind => !(d.text kind c).isDone).map classRecord := by
    intro cs
    induction cs with
    | nil => rfl
    | cons c cs ih =>
        rw [List.flatMap_cons, ih, List.filter_cons]
        split <;> rfl
  have hperm := (h.perm_actions htrace hsave).filterMap
    (Action.line? job d content fun _ => true)
  rw [← htrace.records_eq hsave hclear.decided, List.filterMap_flatMap] at hperm
  simp only [hclass, hlines] at hperm
  exact hperm

end ByName

/-! ### Passes -/

/-- What the tools print for a class: source text that is not blank, or a listing. -/
def printed? (tools : Toolbox) (cfr : Cfr) (archive : String) (entry : ClassEntry) :
    Kind → Option String
  | .java => (tools.decompile cfr archive entry.fullName).toOption.filter fun text =>
      !Text.isAllBlank text
  | .smali => (tools.disassemble archive entry.fullName).toOption

theorem toOption_toolText (tools : Toolbox) (cfr : Cfr) (archive : String) (entry : ClassEntry)
    (kind : Kind) :
    (toolText tools cfr archive kind entry).toOption = printed? tools cfr archive entry kind := by
  cases kind with
  | smali => rfl
  | java =>
      rw [toolText, sourceText, printed?]
      cases tools.decompile cfr archive entry.fullName with
      | error e => rfl
      | ok text => cases hblank : Text.isAllBlank text <;>
          simp [bind, Except.bind, hblank, Except.toOption, pure, Except.pure, Option.filter]

theorem ofExcept_eq_done {ε α : Type} {chain : ε → List String} {e : Except ε α} {value : α} :
    Outcome.ofExcept chain e = .done value ↔ e.toOption = some value := by
  cases e <;> simp [Outcome.ofExcept, Except.toOption]

theorem isDone_ofExcept {ε α : Type} (chain : ε → List String) (e : Except ε α) :
    (Outcome.ofExcept chain e).isDone = e.toOption.isSome := by
  cases e <;> rfl

/-- The classes of an archive for which there are actions: without a kind of text nothing is asked
of any class. -/
def askedClasses (job : Job) (paths : List String) : List ClassEntry :=
  if job.kinds = [] then [] else eligible job (groupClasses paths)

theorem askedClasses_subset (job : Job) (paths : List String) :
    askedClasses job paths ⊆ eligible job (groupClasses paths) := by
  rw [askedClasses]
  split
  · exact List.nil_subset _
  · exact List.Subset.refl _

/-- What is said of a class and one of its kinds of text is said of all that are selected. -/
theorem exists_asked_iff {paths : List String} {p : ClassEntry → Kind → Prop} :
    (∃ c ∈ askedClasses job paths, ∃ kind ∈ job.kinds, p c kind) ↔
      ∃ c ∈ eligible job (groupClasses paths), ∃ kind ∈ job.kinds, p c kind := by
  rw [askedClasses]
  split
  · rename_i hkinds
    simp [hkinds]
  · rfl

theorem filter_asked {paths : List String} (p : ClassEntry → Kind → Bool) :
    ((askedClasses job paths).filter fun c => job.kinds.any (p c)) =
      (eligible job (groupClasses paths)).filter fun c => job.kinds.any (p c) := by
  rw [askedClasses]
  split
  · rename_i hkinds
    simp [hkinds]
  · rfl

theorem includeSource_iff (job : Job) : job.openOptions.includeSource = true ↔ job.kinds ≠ [] := by
  cases hjava : job.java <;> cases hsmali : job.smali <;>
    simp [Job.openOptions, Job.kinds, hjava, hsmali]

/-- The batches of an archive give a task for every class that is asked for. -/
theorem batchTasks_openJar {tools : Toolbox} {cfr : Cfr} {archive : String} {t : Tree}
    {listed : Catalog} (hopen : openJar tools cfr archive job.openOptions t = .ok d)
    (hlisted : catalog t archive = .ok listed) :
    d.batches.filterMap (batchTask? job) =
      (askedClasses job listed.classes).map (classActions job) := by
  obtain ⟨listed', hlisted', hbatches, -, -⟩ := openJar_eq_ok hopen
  obtain rfl := Except.ok.inj (hlisted.symm.trans hlisted')
  have hsingle : ∀ c, batchTask? job [c] =
      if isEligible job.sourceFilter c then some (classActions job c) else none := by
    intro c
    cases heligible : isEligible job.sourceFilter c <;> simp [batchTask?, heligible]
  by_cases hkinds : job.kinds = []
  · rw [hbatches, if_neg (mt (includeSource_iff job).mp (not_not.mpr hkinds)), askedClasses,
      if_pos hkinds]
    rfl
  · rw [hbatches, if_pos ((includeSource_iff job).mpr hkinds), askedClasses, if_neg hkinds,
      List.filterMap_map, eligible, ← List.filterMap_eq_map, ← List.filterMap_eq_filter,
      List.filterMap_filterMap]
    refine List.filterMap_congr fun c _ => ?_
    rw [Function.comp_apply, hsingle]
    cases heligible : isEligible job.sourceFilter c <;> simp [Option.guard, heligible]

/-- A pass over an archive has a task for every class that is asked for. -/
theorem tasksOf_openJar {tools : Toolbox} {cfr : Cfr} {archive : String} {t : Tree}
    {listed : Catalog} (hopen : openJar tools cfr archive job.openOptions t = .ok d)
    (hlisted : catalog t archive = .ok listed) (hresources : job.resources = false) :
    tasksOf job d = (askedClasses job listed.classes).map (classActions job) ∧
      (∀ c, Selected job d c → c ∈ askedClasses job listed.classes) ∧ d.resources = [] := by
  obtain ⟨listed', hlisted', hbatches, hnone, -⟩ := openJar_eq_ok hopen
  obtain rfl := Except.ok.inj (hlisted.symm.trans hlisted')
  have hno : d.resources = [] := by simp [hnone, Job.openOptions, hresources]
  refine ⟨?_, ?_, hno⟩
  · rw [tasksOf, batchTasks_openJar hopen hlisted, hno, List.filterMap_nil, List.append_nil]
  · rintro c ⟨batch, hbatch, hc⟩
    rw [hbatches] at hbatch
    split at hbatch
    · rename_i hsource
      obtain ⟨c', hc', rfl⟩ := List.mem_map.mp hbatch
      obtain ⟨hmem, heligible⟩ := List.mem_filter.mp hc
      obtain rfl := List.mem_singleton.mp hmem
      rw [askedClasses, if_neg ((includeSource_iff job).mp hsource)]
      exact List.mem_filter.mpr ⟨hc', heligible⟩
    · exact absurd hbatch List.not_mem_nil

/-- A pass over an archive of classes with binary names, into a directory in which nothing
stands. -/
theorem byName_of_openJar {tools : Toolbox} {cfr : Cfr} {archive : String} {t : Tree}
    {listed : Catalog} (hopen : openJar tools cfr archive job.openOptions t = .ok d)
    (hlisted : catalog t archive = .ok listed) (hresources : job.resources = false)
    (hflatten : w.resolver.flatten = false) (hbinary : ∀ path ∈ listed.classes, IsBinaryName path)
    (hfresh : ∀ l, loc.Inside l → w.tree.get? l = none) :
    ByName job d w loc (askedClasses job listed.classes) := by
  obtain ⟨htasks, hselected, hno⟩ := tasksOf_openJar hopen hlisted hresources
  obtain ⟨-, -, -, -, htext⟩ := openJar_eq_ok hopen
  refine ⟨hflatten, htasks, hselected, hno, fun c hc => ?_, ?_, fun kind c => ?_, hfresh⟩
  · have hmem := List.mem_of_mem_filter (askedClasses_subset job listed.classes hc)
    exact hbinary _ (aliasPath_mem hmem)
  · have hnodup := nodup_aliasPath listed.classes
    rw [askedClasses]
    split
    · exact List.nodup_nil
    · exact hnodup.sublist (List.filter_sublist.map _)
  · rw [htext]
    cases toolText tools _ archive kind c <;> simp [Outcome.ofExcept]

/-- In a pass over an archive of classes with binary names, without flattening and resources and
into a directory in which nothing stands, whatever happens while the tasks are awaited: if the file
system refuses nothing, the directory holds at the end the texts that the tools printed for the
selected classes, each at the path of its class, and one line in the log for every class of which a
text is missing; and it holds no other file. -/
theorem jar_classes_go_by_name {dec : Decoder} (hready : dec.Ready) (tools : Toolbox) (cfr : Cfr)
    (prompt : Prompt) (w : World) (archive : String) (events : List Event) (hclosed : w.tree.Closed)
    (hflatten : dec.job.flatten = false) (hresources : dec.job.resources = false)
    (hdone : (dec.decode (jarProvider tools cfr) prompt w archive events).1.state = .done) :
    ∃ listed opened loc,
      catalog (dec.preparedTree prompt w archive) archive = .ok listed ∧
      jarProvider tools cfr archive dec.job.openOptions (dec.preparedTree prompt w archive) =
        .ok opened ∧
      (dec.preparedTree prompt w archive).Stands (outputDir dec.job archive) loc ∧
      ((∀ path ∈ listed.classes, IsBinaryName path) →
        (∀ l, loc.Inside l → (dec.preparedTree prompt w archive).get? l = none) →
        (∀ x ∈ dec.passDeeds prompt w archive opened events,
          ¬ x.Refused opened (outputDir dec.job archive) (memberBytes archive)) →
        ∃ records : List String,
          records.Perm (((eligible dec.job (groupClasses listed.classes)).filter fun entry =>
            dec.job.kinds.any fun kind => (printed? tools
              { cfr with rename := dec.job.renameClasses } archive entry kind).isNone).map
                classRecord) ∧
          (dec.decode (jarProvider tools cfr) prompt w archive events).1.failed = records.length ∧
          ∀ l found, loc.Inside l →
            ((dec.decode (jarProvider tools cfr) prompt w archive events).2.2.tree.get? l =
                some (.file found) ↔
              (∃ entry ∈ eligible dec.job (groupClasses listed.classes),
                ∃ kind ∈ dec.job.kinds, ∃ text,
                  printed? tools { cfr with rename := dec.job.renameClasses } archive entry kind =
                    some text ∧
                  l = loc ++ Path.pieces (kind.folder ++ "/" ++
                    (entry.aliasPath ++ kind.ending)) ∧
                  found = Content.ofText text) ∨
              (records ≠ [] ∧ l = logLocation loc ∧
                found = .bytes (linesBytes records)))) := by
  obtain ⟨opened, hpassed⟩ := hready.passed hdone
  obtain ⟨loc, hstands⟩ := hpassed.stands
  have hopen := openJar_of_jarProvider hpassed.source
  obtain ⟨listed, hlisted, -, -, htext⟩ := openJar_eq_ok hopen
  refine ⟨listed, opened, loc, hlisted, hpassed.source, hstands, fun hbinary hfresh hsmooth => ?_⟩
  have hsave := savesFrom_openJar hopen
  have htrace := hpassed.trace
  have hby : ByName dec.job opened (dec.passStart prompt w archive) loc
      (askedClasses dec.job listed.classes) :=
    byName_of_openJar hopen hlisted hresources hflatten hbinary hfresh
  have hstart := Decoder.starts hclosed hstands
  have hclear : Undisturbed opened (outputDir dec.job archive) (memberBytes archive)
      (fun _ => .done []) (dec.passDeeds prompt w archive opened events) :=
    ⟨hby.steady htrace, hsmooth⟩
  -- What the opened archive answers is what the tools print.
  have hprinted : ∀ kind entry text, opened.text kind entry = .done text ↔
      printed? tools { cfr with rename := dec.job.renameClasses } archive entry kind =
        some text := by
    intro kind entry text
    rw [htext, ofExcept_eq_done, toOption_toolText]
    rfl
  have hmissing : ∀ kind entry, (!(opened.text kind entry).isDone) =
      (printed? tools { cfr with rename := dec.job.renameClasses } archive entry kind).isNone := by
    intro kind entry
    rw [htext, isDone_ofExcept, toOption_toolText, Option.not_isSome]
    rfl
  refine ⟨dec.passRecords prompt w archive opened events, ?_, ?_, fun l found hl => ?_⟩
  · have hperm := hby.perm_records htrace hsave hclear
    simp only [hmissing] at hperm
    rwa [filter_asked] at hperm
  · rw [hpassed.failed, failed_linked htrace.linked]
    exact Nat.zero_add _
  · have hiff := hby.get?_file_iff htrace hsave hstart hclear hl found
    simp only [hprinted] at hiff
    rw [hpassed.tree, hiff, exists_asked_iff]
    rfl

/-- An archive of a class with a class inside it, a class whose name looks like that of a second
candidate, and a class without source text. -/
def classMembers : List Member :=
  ["a/Main.class", "a/Main$1.class", "a/Main~2.class", "b/Broken.class"].map fun name => ⟨name, []⟩

/-- A tree with this archive. -/
def treeWithClasses : Tree := { nodes := [(["app.jar"], .file (.archive classMembers))] }

theorem closed_treeWithClasses : treeWithClasses.Closed := by
  intro outer inner hinside hsome
  have hinner : inner = ["app.jar"] := by
    by_contra hne
    by_cases hnil : inner = []
    · rw [hnil] at hinside
      exact hinside.2 (List.prefix_nil.mp hinside.1)
    · simp [Tree.get?, treeWithClasses, hnil, hne] at hsome
  subst hinner
  obtain rfl : outer = [] := by
    obtain ⟨hbegins, hne⟩ := hinside
    rcases List.prefix_cons_iff.mp hbegins with rfl | ⟨rest, rfl, hrest⟩
    · rfl
    · exact absurd (by rw [List.prefix_nil.mp hrest]) hne
  exact Tree.get?_nil _

/-- Tools that print a letter for every class, but no source text for one of them. -/
def brokenTools : Toolbox where
  java := "java"
  javap := "javap"
  call := fun tool arguments =>
    some { success := true, stderr := []
           stdout := if tool = "java" ∧ "b.Broken" ∈ arguments then [32] else [65] }

/-- A decoder that writes source texts. -/
def hierarchyDecoder : Decoder := .ofJob { outputRoot := "out" }

/-- Its pass over the archive of these classes, with tasks begun out of order. -/
def hierarchyPass : Report × Decoder × World :=
  hierarchyDecoder.decode (jarProvider brokenTools ⟨"cfr.jar", true⟩) (.fixed .skip)
    { tree := treeWithClasses } "app.jar" [.work 2, .work 2, .work 0]

/-- The files before its first deed. -/
def hierarchyTree : Tree :=
  hierarchyDecoder.preparedTree (.fixed .skip) { tree := treeWithClasses } "app.jar"

theorem catalog_hierarchyTree : catalog hierarchyTree "app.jar" =
    .ok ⟨["a/Main", "a/Main$1", "a/Main~2", "b/Broken"], []⟩ := by
  have hmembers : openArchive hierarchyTree "app.jar" = .ok classMembers := by decide +kernel
  have hnames : ((classMembers.filter fun m => !isDirectoryName m.name).map fun m =>
      listedName m.name) =
        ["a/Main.class", "a/Main$1.class", "a/Main~2.class", "b/Broken.class"] := by
    decide +kernel
  have hclasses : ["a/Main.class", "a/Main$1.class", "a/Main~2.class", "b/Broken.class"].filterMap
      classPath? = ["a/Main", "a/Main$1", "a/Main~2", "b/Broken"] := by
    decide +kernel
  have hresources : ["a/Main.class", "a/Main$1.class", "a/Main~2.class", "b/Broken.class"].filter
      (fun name => (classPath? name).isNone) = [] := by
    decide +kernel
  simp only [catalog, hmembers, bind, Except.bind, Catalog.ofMembers, hnames, hclasses, hresources]
  rw [sorted_eq_self (by decide), sorted_eq_self List.Pairwise.nil]
  rfl

theorem groupClasses_classMembers :
    groupClasses ["a/Main", "a/Main$1", "a/Main~2", "b/Broken"] =
      [.ofPath "a/Main" ["a/Main$1"], .ofPath "a/Main~2", .ofPath "b/Broken"] := by
  have htops : ["a/Main", "a/Main$1", "a/Main~2", "b/Broken"].map (topLevelClass
      (["a/Main", "a/Main$1", "a/Main~2", "b/Broken"] : List String).contains) =
        ["a/Main", "a/Main", "a/Main~2", "b/Broken"] := by
    decide +kernel
  rw [groupClasses, htops, sorted_eq_self (by decide)]
  decide +kernel

/-- The archive, opened. -/
def hierarchyJar : Decompiler where
  batches := [[.ofPath "a/Main" ["a/Main$1"]], [.ofPath "a/Main~2"], [.ofPath "b/Broken"]]
  resources := []
  java := fun entry => .ofExcept ToolError.chain
    (sourceText brokenTools ⟨"cfr.jar", true⟩ "app.jar" entry)
  smali := fun entry => .ofExcept ToolError.chain
    (brokenTools.disassemble "app.jar" entry.fullName)
  save := saveMember "app.jar"

theorem openJar_hierarchyTree : jarProvider brokenTools ⟨"cfr.jar", true⟩ "app.jar"
    hierarchyDecoder.job.openOptions hierarchyTree = .ok hierarchyJar := by
  simp only [jarProvider, openJar, catalog_hierarchyTree, bind, Except.bind,
    groupClasses_classMembers]
  rfl

/-- The classes go by name, and the one without source text is logged. -/
theorem classes_and_log_go_by_name :
    hierarchyPass.1.state = .done ∧ hierarchyPass.1.failed = 1 ∧
      hierarchyPass.2.2.tree.get? ["out", "app.jar_sources", "java", "a", "Main~2.java"] =
        some (.file (Content.ofText "A")) ∧
      (∀ found, hierarchyPass.2.2.tree.get?
        ["out", "app.jar_sources", "java", "b", "Broken.java"] ≠ some (.file found)) := by
  have hsame : hierarchyPass = hierarchyDecoder.decode (fun _ _ _ => .ok hierarchyJar)
      (.fixed .skip) { tree := treeWithClasses } "app.jar" [.work 2, .work 2, .work 0] :=
    Decoder.decode_congr _ openJar_hierarchyTree
  have hdone : hierarchyPass.1.state = .done := by
    rw [hsame]
    decide +kernel
  have hloc : hierarchyTree.descend (hierarchyTree.start "out/app.jar_sources")
      (Tree.steps "out/app.jar_sources") = .ok ["out", "app.jar_sources"] := by decide +kernel
  have hkeys : ∀ node ∈ hierarchyTree.nodes,
      ¬ (["out", "app.jar_sources"] <+: node.1 ∧ ["out", "app.jar_sources"] ≠ node.1) := by
    decide +kernel
  have hfresh : ∀ l, Location.Inside ["out", "app.jar_sources"] l →
      hierarchyTree.get? l = none := fun _ => Tree.get?_of_inside hkeys
  obtain ⟨listed, opened, loc, hlisted, hopened, hstands, hbyName⟩ :=
    jar_classes_go_by_name (.ofJob { outputRoot := "out" }) brokenTools
      ⟨"cfr.jar", true⟩ (.fixed .skip) { tree := treeWithClasses } "app.jar" [.work 2, .work 2, .work 0]
      closed_treeWithClasses rfl rfl hdone
  obtain rfl := Except.ok.inj (hlisted.symm.trans catalog_hierarchyTree)
  obtain rfl := Except.ok.inj (hopened.symm.trans openJar_hierarchyTree)
  obtain rfl := Except.ok.inj (hstands.1.symm.trans hloc)
  have hbinary : ∀ path ∈ ["a/Main", "a/Main$1", "a/Main~2", "b/Broken"], IsBinaryName path := by
    decide +kernel
  have hsmooth : ∀ x ∈ hierarchyDecoder.passDeeds (.fixed .skip) { tree := treeWithClasses }
      "app.jar" hierarchyJar [.work 2, .work 2, .work 0],
      ¬ x.Refused hierarchyJar "out/app.jar_sources" (memberBytes "app.jar") := by
    decide +kernel
  obtain ⟨records, hrecords, hfailed, hfiles⟩ := hbyName hbinary hfresh hsmooth
  have hinside : ∀ names, names ≠ [] →
      Location.Inside ["out", "app.jar_sources"] (["out", "app.jar_sources"] ++ names) :=
    fun _ => Location.inside_append _
  rw [groupClasses_classMembers] at hrecords hfiles
  have hone : records.length = 1 := by
    rw [hrecords.length_eq]
    decide +kernel
  refine ⟨hdone, hfailed.trans hone, ?_, fun found hfound => ?_⟩
  · refine (hfiles _ _ (hinside ["java", "a", "Main~2.java"] (by simp))).mpr (.inl ?_)
    refine ⟨.ofPath "a/Main~2", by decide +kernel, .java, by decide +kernel, "A", ?_, ?_, rfl⟩
    · decide +kernel
    · decide +kernel
  · rcases (hfiles _ _ (hinside ["java", "b", "Broken.java"] (by simp))).mp hfound with
      ⟨entry, hentry, kind, -, text, htext, hl, -⟩ | ⟨-, hl, -⟩
    · have heligible : eligible hierarchyDecoder.job
          [.ofPath "a/Main" ["a/Main$1"], .ofPath "a/Main~2", .ofPath "b/Broken"] =
            [.ofPath "a/Main" ["a/Main$1"], .ofPath "a/Main~2", .ofPath "b/Broken"] := by
        decide +kernel
      have hbroken : printed? brokenTools ⟨"cfr.jar", true⟩ "app.jar" (.ofPath "b/Broken") .java =
          none := by
        decide +kernel
      rw [show (Decoder.ofJob { outputRoot := "out" }).job = hierarchyDecoder.job from rfl,
        heligible] at hentry
      simp only [List.mem_cons, List.not_mem_nil, or_false] at hentry
      rcases hentry with rfl | rfl | rfl
      · cases kind <;> exact absurd hl (by decide +kernel)
      · cases kind <;> exact absurd hl (by decide +kernel)
      · cases kind with
        | java => exact absurd (htext.symm.trans hbroken) (by simp)
        | smali => exact absurd hl (by decide +kernel)
    · exact absurd hl (by decide)

end ArchiveScout.Decode
