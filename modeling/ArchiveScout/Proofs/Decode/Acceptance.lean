import ArchiveScout.Proofs.Decode.Numbering

/-!
# ArchiveScout.Proofs.Decode.Acceptance

**Which files of a pass are taken.** A file is refused where its path is none, where a file stands
on the way to it or where a directory stands in its place. As long as ways are clear, no deed of a
pass puts a file on the way of another one, or a directory in its place, so the tree from which the
pass starts decides what is taken, in whatever order it comes. The same holds of the log.
-/

namespace ArchiveScout.Decode

open ArchiveScout.Archive (ClassEntry)
open ArchiveScout.File
open ArchiveScout.File.Tree (Evolves OnWay steps)
open PathResolver (names)

variable {d : Decompiler} {dir path path' : String} {job : Job} {w w' v' : Workspace} {x y : Deed}
  {xs ys us vs : List Deed} {loc : Location} {source : String → Tree → Outcome (List UInt8)}
  {content : String → Outcome (List UInt8)} {found more : List String}

/-! ### One deed -/

/-- A deed that has something to write does so if the tree takes it. -/
theorem Deed.output?_eq_takes (hsave : d.SavesFrom source)
    (hcontent : (x.content? d source).isSome) (hpath : x.path? dir = some path) :
    (x.output? d dir).isSome = takes x.before.tree path := by
  cases haction : x.action with
  | text kind entry =>
      simp only [path?, haction, Option.some.injEq] at hpath
      rw [content?_text haction] at hcontent
      cases htext : d.text kind entry with
      | done text =>
          simp only [output?, haction, htext, hpath]
          rw [← isDone_writeBelow _ _ (Content.ofText text) "Failed to write"]
          rcases writeBelow x.before.tree path (Content.ofText text) "Failed to write" with
            ⟨t, found | causes | _⟩ <;> rfl
      | failed causes => simp [htext, Outcome.isDone] at hcontent
      | panicked => simp [htext, Outcome.isDone] at hcontent
  | resource name =>
      simp only [path?, haction, Option.some.injEq] at hpath
      rw [content?_resource haction] at hcontent
      cases hdata : source name x.before.tree with
      | done data =>
          simp only [output?, haction, hsave name dir x.before.tree, hdata, saveFound, hpath]
          rw [← isDone_writeBelow _ _ (.bytes data) "Failed to write resource"]
          rcases writeBelow x.before.tree path (.bytes data) "Failed to write resource" with
            ⟨t, found | causes | _⟩ <;> rfl
      | failed causes => simp [hdata, Outcome.isDone] at hcontent
      | panicked => simp [hdata, Outcome.isDone] at hcontent
  | reserve entry => simp [path?, haction] at hpath
  | settle entry => simp [path?, haction] at hpath

/-- Before its line comes to the log, a deed has at most made directories on the way to what it
aims at. -/
theorem Deed.evolves_logTree (hsave : d.SavesFrom source) (hdir : x.before.tree.Stands dir loc)
    (haims : x.AimsBelow d dir source) (hrecord : (x.record? d dir).isSome) :
    Evolves (x.OnAim d dir source loc) (fun _ => False) x.before.tree (x.logTree d dir) := by
  cases x.effect d dir with
  | logged entry haction =>
      rw [logTree, haction]
      exact .refl _ _ _
  | unsaved name causes t haction hsaved =>
      simp only [logTree, haction, hsaved]
      rw [hsave] at hsaved
      exact haims.evolves_unsaved hdir haction (saveFound_not_done hsaved (by simp))
  | _ => simp_all

/-- A line is refused where the tree takes no log. -/
theorem Deed.logRefused_iff_takes (hdir : (x.logTree d dir).Stands dir loc)
    (hrecord : (x.record? d dir).isSome) :
    x.LogRefused d dir ↔ takes (x.logTree d dir) (failureLogPath dir) = false := by
  obtain ⟨line, hline⟩ := Option.isSome_iff_exists.mp hrecord
  have happend := exists_append_iff hdir (Text.encode (line ++ "\n"))
  rw [← Bool.not_eq_true, ← happend]
  constructor
  · rintro ⟨line', fault, hline', hfault⟩ ⟨t, ht⟩
    obtain rfl := Option.some.inj (hline.symm.trans hline')
    rw [hfault] at ht
    exact absurd ht (by simp)
  · intro hno
    cases hresult : (x.logTree d dir).append (failureLogPath dir) (Text.encode (line ++ "\n")) with
    | ok t => exact absurd ⟨t, hresult⟩ hno
    | error fault => exact ⟨line, fault, hline, hresult⟩

/-! ### Clear ways -/

/-- The names of a file that a pass may have to write: a text of a class at any index, or a
resource. -/
inductive Wanted (job : Job) (d : Decompiler) (r : PathResolver)
    (content : String → Outcome (List UInt8)) : List String → Prop
  | text {c : ClassEntry} {kind : Kind} {n : Nat} (hc : Selected job d c)
      (hkind : kind ∈ writtenKinds d c job.kinds) (hn : 1 ≤ n) :
      Wanted job d r content (names r.flatten (r.baseOf c) n kind)
  | resource {name : String} (hname : Requested job d name)
      (hdone : (content name).isDone = true) (hsteps : steps name ≠ []) :
      Wanted job d r content (steps name)

/-- No file that a pass may have to write, and not the log either, is where another one needs a
directory. Two of them may well be in the same place. -/
structure ClearWays (job : Job) (d : Decompiler) (r : PathResolver)
    (content : String → Outcome (List UInt8)) : Prop extends NamesInside job d r content where
  files : ∀ found more, Wanted job d r content found → Wanted job d r content more →
    ¬ Location.Inside found more
  log : ∀ found, Wanted job d r content found → ¬ Location.Inside [failureLogName] found

theorem inside_of_dropLast {front names : Location} (hne : names ≠ [])
    (h : front <+: names.dropLast) : front.Inside names := by
  refine ⟨h.trans (List.dropLast_prefix names), ?_⟩
  rintro rfl
  have hlength := h.length_le
  have hpos := List.length_pos_iff.mpr hne
  rw [List.length_dropLast] at hlength
  omega

section Clear

variable (h : Trace d dir (tasksOf job d) w xs w') (hsave : d.SavesFrom source)
  (hstart : w.Starts dir loc) (hways : ClearWays job d w.resolver content)
  (hsteady : ∀ x ∈ xs, x.Steady source content)

include h hsave hstart hways hsteady

/-- What a deed aims at is wanted. -/
theorem Trace.wanted (hx : x ∈ xs) (haims : x.Aims d dir source path found) (hne : found ≠ []) :
    Wanted job d w.resolver content found := by
  rw [← List.append_nil xs] at h
  rcases h.aims_cases hsave hstart hways.toNamesInside hsteady hx haims with
    ⟨kind, c, -, hc, hkind, n, hn, -, rfl⟩ | ⟨name, -, hrequested, hdone, -, rfl⟩
  · exact .text hc hkind (one_le_of_mem_indices hn)
  · exact .resource hrequested hdone hne

/-- The tree from which a pass starts decides what is taken. -/
theorem Trace.output?_isSome (hx : x ∈ xs) (hcontent : (x.content? d source).isSome)
    (hpath : x.path? dir = some path) : (x.output? d dir).isSome = takes w.tree path := by
  rw [Deed.output?_eq_takes hsave hcontent hpath]
  obtain ⟨found, hleads, hup, hend⟩ :=
    h.aimsBelow hstart hways.toNamesInside hx (hsteady x hx) path hcontent hpath
  by_cases hne : found = []
  · rw [takes_eq_false (hend hne), takes_eq_false (hend hne)]
  have haims : x.Aims d dir source path found := ⟨hcontent, hpath, hleads⟩
  obtain ⟨us, vs, rfl⟩ := List.append_of_mem hx
  have hev := h.evolves_aimed hsave hstart hways.toNamesInside
    (fun y hy => hsteady y (List.mem_append_left _ hy)) h.linked.split.1
  have hmem : ∀ y ∈ us, y ∈ us ++ x :: vs := fun y hy => List.mem_append_left _ hy
  have hwanted : ∀ {y path found}, y ∈ us ++ x :: vs → y.Aims d dir source path found →
      found ≠ [] → Wanted job d w.resolver content found :=
    fun hy => h.wanted hsave hstart hways hsteady hy
  rw [Bool.eq_iff_iff, takes_iff (hev.stands hstart.stands) hleads hup hne,
    takes_iff hstart.stands hleads hup hne]
  refine hev.admits_iff (fun front hfront => ?_) ?_
  · have hinside := inside_of_dropLast hne hfront
    rintro (⟨y, hy, path', more, haims', hmore, heq⟩ | hlog)
    · obtain rfl := List.append_cancel_left heq
      exact hways.files _ _ (hwanted (hmem y hy) haims' hmore) (hwanted hx haims hne) hinside
    · obtain rfl := List.append_cancel_left hlog
      exact hways.log _ (hwanted hx haims hne) hinside
  · rintro ⟨y, hy, path', more, haims', hway⟩
    have hbegins := (List.prefix_append_right_inj loc).mp hway.2
    have hmore : more ≠ [] := by
      rintro rfl
      exact hne (List.prefix_nil.mp hbegins)
    exact hways.files _ _ (hwanted hx haims hne) (hwanted (hmem y hy) haims' hmore)
      (inside_of_dropLast hmore hbegins)

/-- The tree from which a pass starts decides whether lines are taken. -/
theorem Trace.logRefused_iff (hx : x ∈ xs) (hrecord : (x.record? d dir).isSome) :
    x.LogRefused d dir ↔ takes w.tree (failureLogPath dir) = false := by
  have haims := h.aimsBelow hstart hways.toNamesInside hx (hsteady x hx)
  obtain ⟨us, vs, rfl⟩ := List.append_of_mem hx
  have hbefore := h.evolves_aimed hsave hstart hways.toNamesInside
    (fun y hy => hsteady y (List.mem_append_left _ hy)) h.linked.split.1
  have hstands := hbefore.stands hstart.stands
  have hlog := Deed.evolves_logTree hsave hstands haims hrecord
  have hev : Evolves (fun l => ∃ y ∈ us ++ x :: vs, y.OnAim d dir source loc l)
      (fun l => (∃ y ∈ us, y.AtAim d dir source loc l) ∨ l = logLocation loc) w.tree
      (x.logTree d dir) :=
    (hbefore.mono (fun l ⟨y, hy, hway⟩ => ⟨y, List.mem_append_left _ hy, hway⟩) fun _ h => h).trans
      (hlog.mono (fun l hway => ⟨x, by simp, hway⟩) fun _ h => absurd h id)
  rw [Deed.logRefused_iff_takes (hlog.stands hstands) hrecord, ← Bool.not_eq_true,
    ← Bool.not_eq_true]
  have hleads := leads_failureLogPath dir
  rw [takes_iff (hlog.stands hstands) hleads (by decide) (by simp),
    takes_iff hstart.stands hleads (by decide) (by simp)]
  refine not_congr (hev.admits_iff (fun front hfront => ?_) ?_)
  · obtain rfl := List.prefix_nil.mp hfront
    rintro (⟨y, -, path, more, -, hmore, heq⟩ | heq)
    · exact hmore (List.append_cancel_left heq).symm
    · exact absurd (List.append_cancel_left heq) (by simp)
  · rintro ⟨y, hy, path, more, haims', hway⟩
    have hbegins := (List.prefix_append_right_inj loc).mp hway.2
    have hmore : more ≠ [] := by
      rintro rfl
      exact absurd (List.prefix_nil.mp hbegins) (by simp)
    exact hways.log more (h.wanted hsave hstart hways hsteady hy haims' hmore)
      (inside_of_dropLast hmore hbegins)

/-- Either the log gets all lines of a pass, or it gets none. -/
theorem Trace.filterMap_accepted? : xs.filterMap (Deed.accepted? d dir) =
    if takes w.tree (failureLogPath dir) then xs.filterMap (Deed.record? d dir) else [] := by
  have hrefused := fun x hx => h.logRefused_iff hsave hstart hways hsteady (x := x) hx
  split
  · rename_i htakes
    refine List.filterMap_congr fun x hx => ?_
    cases hrecord : x.record? d dir with
    | none => simp [Deed.accepted?, hrecord]
    | some line =>
        have hno : ¬ x.LogRefused d dir := by
          rw [hrefused x hx (by simp [hrecord]), htakes]
          simp
        rw [Deed.accepted?, if_neg hno, hrecord]
  · rename_i htakes
    refine List.filterMap_eq_nil_iff.mpr fun x hx => ?_
    cases hrecord : x.record? d dir with
    | none => simp [Deed.accepted?, hrecord]
    | some line =>
        exact if_pos ((hrefused x hx (by simp [hrecord])).mpr (by simpa using htakes))

end Clear

/-! ### What is taken by action -/

/-- Whether the tree at the start of a pass takes what an action writes; of a class, at each of the
indices that are handed out for its base name. -/
def takenAt (w : Workspace) (dir : String) (xs : List Deed) : Action → Bool
  | .text kind c => (indices w.resolver (w.resolver.baseOf c) xs).all fun n =>
      takes w.tree ((w.resolver.candidate (w.resolver.baseOf c) n).of kind)
  | .resource name => takes w.tree (Path.join dir name)
  | _ => true

/-- The tree at the start of a pass takes the texts of a class alike at all indices that are handed
out for its base name, so it does not matter to which of them the class comes. -/
def TakenAlike (job : Job) (d : Decompiler) (w : Workspace) (xs : List Deed) : Prop :=
  ∀ c, Selected job d c → ∀ kind ∈ writtenKinds d c job.kinds,
    ∀ n ∈ indices w.resolver (w.resolver.baseOf c) xs,
      ∀ m ∈ indices w.resolver (w.resolver.baseOf c) xs,
        takes w.tree ((w.resolver.candidate (w.resolver.baseOf c) n).of kind) =
          takes w.tree ((w.resolver.candidate (w.resolver.baseOf c) m).of kind)

/-- Where ways are clear and the texts of a class are taken alike at all indices, an action decides
whether what it writes is taken. -/
theorem Trace.decided (h : Trace d dir (tasksOf job d) w xs w') (hsave : d.SavesFrom source)
    (hstart : w.Starts dir loc) (hways : ClearWays job d w.resolver content)
    (hsteady : ∀ x ∈ xs, x.Steady source content) (halike : TakenAlike job d w ys)
    (hsub : xs ⊆ ys) : Decided d dir source content (takenAt w dir ys) xs := by
  refine ⟨hsteady, fun x hx hcontent => ?_⟩
  have htaken : ∀ {path}, x.path? dir = some path → (x.output? d dir).isSome = takes w.tree path :=
    fun hpath => h.output?_isSome hsave hstart hways hsteady hx hcontent hpath
  cases haction : x.action with
  | text kind c =>
      rw [Deed.content?_text haction] at hcontent
      have hkind := h.mem_writtenKinds hsave hx haction hcontent
      rw [← List.append_nil xs] at h
      obtain ⟨hselected, n, hn, hpaths⟩ := h.text_index hx haction
      replace hn := List.filterMap_subset _ hsub hn
      rw [htaken (Deed.path?_text dir haction), hpaths, takenAt, Bool.eq_iff_iff, List.all_eq_true]
      exact ⟨fun htakes m hm => halike c hselected kind hkind n hn m hm ▸ htakes,
        fun hall => hall n hn⟩
  | resource name => exact htaken (Deed.path?_resource dir haction)
  | reserve c => simp [Deed.content?, haction] at hcontent
  | settle c => simp [Deed.content?, haction] at hcontent

end ArchiveScout.Decode
