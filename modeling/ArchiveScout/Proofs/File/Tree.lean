import ArchiveScout.Proofs.File.Path

/-!
# ArchiveScout.Proofs.File.Tree

What operations do to a tree. A tree `Evolves` into another one when directories were made
where nothing stood and files were written where no directory stood, all of them at known
locations, and nothing else happened; nothing ever goes away. Below a directory, a path
without two points leads straight to one location, so what is made and written on the way
stays inside the directory.
-/

namespace ArchiveScout.File

open ArchiveScout.File.Path (Leads isStep steps_eq)

/-- A location inside of another one. -/
def Location.Inside (outer inner : Location) : Prop := outer <+: inner ∧ outer ≠ inner

theorem Location.inside_append (loc : Location) {names : List String} (h : names ≠ []) :
    loc.Inside (loc ++ names) :=
  ⟨List.prefix_append loc names, by simpa using h⟩

/-! ### Contents -/

theorem Content.append_append (content : Content) (data more : List UInt8) :
    (content.append data).append more = content.append (data ++ more) := by
  cases content <;> simp [append]

namespace Tree

variable {t t' t₁ t₂ : Tree} {loc outer : Location} {path dir name : String}
  {names : List String} {node : Node} {content : Content}

/-! ### Nodes -/

@[simp] theorem get?_nil (t : Tree) : t.get? [] = some .directory := rfl

@[simp] theorem cwd_put (t : Tree) (loc : Location) (node : Node) : (t.put loc node).cwd = t.cwd :=
  rfl

theorem get?_put_self (t : Tree) (node : Node) (h : loc ≠ []) :
    (t.put loc node).get? loc = some node := by
  simp [get?, put, h]

theorem lookup_filter (p : Location → Bool) (loc : Location) (nodes : List (Location × Node)) :
    (nodes.filter fun entry => p entry.1).lookup loc =
      if p loc then nodes.lookup loc else none := by
  induction nodes with
  | nil => simp
  | cons entry nodes ih =>
      obtain ⟨key, node⟩ := entry
      rw [List.filter_cons]
      by_cases hkey : loc = key
      · subst hkey
        cases hkeep : p loc <;> simp [hkeep, ih]
      · have hne : (loc == key) = false := by simpa using hkey
        split
        · rw [List.lookup_cons, List.lookup_cons, hne, ih]
        · rw [List.lookup_cons, hne, ih]

theorem get?_put_of_ne (t : Tree) (node : Node) {other : Location} (h : other ≠ loc) :
    (t.put loc node).get? other = t.get? other := by
  have hne : (other == loc) = false := by simpa using h
  simp [get?, put, List.lookup_cons, lookup_filter (· != loc), hne, h]

theorem get?_removeBelow (t : Tree) {other : Location} (h : ¬ loc <+: other) :
    (t.removeBelow loc).get? other = t.get? other := by
  have hoff : loc.isPrefixOf other = false := by simpa [← List.isPrefixOf_iff_prefix] using h
  simp [get?, removeBelow, lookup_filter fun l => !loc.isPrefixOf l, hoff]

/-- What stands after a removal stood before, and not inside what was removed. -/
theorem isSome_get?_removeBelow {other : Location}
    (h : ((t.removeBelow loc).get? other).isSome) (hne : other ≠ []) :
    ¬ loc <+: other ∧ (t.get? other).isSome := by
  rw [get?, if_neg hne, removeBelow, lookup_filter fun l => !loc.isPrefixOf l] at h
  split at h
  · rename_i hoff
    refine ⟨fun hbegins => ?_, by rwa [get?, if_neg hne]⟩
    have hinside := List.isPrefixOf_iff_prefix.mpr hbegins
    simp [hinside] at hoff
  · exact absurd h (by simp)

theorem mem_nodes_of_get? (h : t.get? loc = some node) (hne : loc ≠ []) :
    ∃ entry ∈ t.nodes, entry.1 = loc := by
  rw [get?, if_neg hne] at h
  obtain ⟨front, back, hnodes, -⟩ := List.lookup_eq_some_iff.mp h
  exact ⟨(loc, node), by simp [hnodes], rfl⟩

/-- Where no node is kept inside of a location, nothing stands inside of it. -/
theorem get?_of_inside {l : Location} (h : ∀ entry ∈ t.nodes, ¬ loc.Inside entry.1)
    (hl : loc.Inside l) : t.get? l = none := by
  by_contra hsome
  obtain ⟨node, hnode⟩ := Option.ne_none_iff_exists'.mp hsome
  have hne : l ≠ [] := by
    rintro rfl
    exact hl.2 (List.prefix_nil.mp hl.1)
  obtain ⟨entry, hentry, rfl⟩ := mem_nodes_of_get? hnode hne
  exact h entry hentry hl

/-- A file stands at a location. -/
def HasFile (t : Tree) (loc : Location) : Prop := ∃ content, t.get? loc = some (.file content)

/-- The content of the file at a location, if one stands there. -/
def file? (t : Tree) (loc : Location) : Option Content :=
  match t.get? loc with
  | some (.file content) => some content
  | _ => none

theorem file?_eq_some : t.file? loc = some content ↔ t.get? loc = some (.file content) := by
  rw [file?]
  cases hnode : t.get? loc with
  | none => simp
  | some node => cases node <;> simp

/-! ### Evolution -/

/-- Directories were made at some locations where nothing stood, files were written at some
locations where no directory stood, and that is all. -/
structure Evolves (dirs files : Location → Prop) (t t' : Tree) : Prop where
  cwd : t'.cwd = t.cwd
  node : ∀ loc, t'.get? loc = t.get? loc ∨
    (dirs loc ∧ t.get? loc = none ∧ t'.get? loc = some .directory) ∨
    (files loc ∧ t.get? loc ≠ some .directory ∧ ∃ content, t'.get? loc = some (.file content))

namespace Evolves

variable {dirs files dirs' files' : Location → Prop}

theorem refl (dirs files : Location → Prop) (t : Tree) : Evolves dirs files t t :=
  ⟨rfl, fun _ => .inl rfl⟩

theorem mono (h : Evolves dirs files t t') (hdirs : ∀ loc, dirs loc → dirs' loc)
    (hfiles : ∀ loc, files loc → files' loc) : Evolves dirs' files' t t' := by
  refine ⟨h.cwd, fun loc => ?_⟩
  rcases h.node loc with hsame | ⟨hd, hnone, hmade⟩ | ⟨hf, hno, hwritten⟩
  · exact .inl hsame
  · exact .inr (.inl ⟨hdirs loc hd, hnone, hmade⟩)
  · exact .inr (.inr ⟨hfiles loc hf, hno, hwritten⟩)

theorem trans (h : Evolves dirs files t t₁) (h' : Evolves dirs files t₁ t₂) :
    Evolves dirs files t t₂ := by
  refine ⟨h'.cwd.trans h.cwd, fun loc => ?_⟩
  rcases h'.node loc with hsame | ⟨hd, hnone, hmade⟩ | ⟨hf, hno, hwritten⟩
  · rw [hsame]
    exact h.node loc
  · rcases h.node loc with hsame | ⟨-, -, hmade'⟩ | ⟨-, -, content, hwritten'⟩
    · exact .inr (.inl ⟨hd, hsame ▸ hnone, hmade⟩)
    · rw [hmade'] at hnone
      exact absurd hnone (by simp)
    · rw [hwritten'] at hnone
      exact absurd hnone (by simp)
  · rcases h.node loc with hsame | ⟨-, -, hmade'⟩ | ⟨-, hno', -⟩
    · exact .inr (.inr ⟨hf, hsame ▸ hno, hwritten⟩)
    · exact absurd hmade' hno
    · exact .inr (.inr ⟨hf, hno', hwritten⟩)

/-- Directories stay. -/
theorem directory (h : Evolves dirs files t t') (hloc : t.get? loc = some .directory) :
    t'.get? loc = some .directory := by
  rcases h.node loc with hsame | ⟨-, -, hmade⟩ | ⟨-, hno, -⟩
  · exact hsame.trans hloc
  · exact hmade
  · exact absurd hloc hno

/-- A directory where something stood before was there before. -/
theorem was_directory (h : Evolves dirs files t t') (hloc : t'.get? loc = some .directory)
    (hsome : (t.get? loc).isSome) : t.get? loc = some .directory := by
  rcases h.node loc with hsame | ⟨-, hnone, -⟩ | ⟨-, -, content, hwritten⟩
  · exact hsame ▸ hloc
  · rw [hnone] at hsome
    exact absurd hsome (by simp)
  · rw [hwritten] at hloc
    exact absurd hloc (by simp)

/-- What stands somewhere stays there. -/
theorem isSome (h : Evolves dirs files t t') (hloc : (t.get? loc).isSome) :
    (t'.get? loc).isSome := by
  rcases h.node loc with hsame | ⟨-, -, hmade⟩ | ⟨-, -, content, hwritten⟩
  · exact hsame ▸ hloc
  · simp [hmade]
  · simp [hwritten]

/-- A file stays as it is where no file is written. -/
theorem file (h : Evolves dirs files t t') (hloc : t.get? loc = some (.file content))
    (hno : ¬ files loc) : t'.get? loc = some (.file content) := by
  rcases h.node loc with hsame | ⟨-, hnone, -⟩ | ⟨hf, -, -⟩
  · exact hsame.trans hloc
  · rw [hloc] at hnone
    exact absurd hnone (by simp)
  · exact absurd hf hno

/-- Files that are there were there, or were written. -/
theorem was_file (h : Evolves dirs files t t') (hloc : t'.get? loc = some (.file content)) :
    t.get? loc = some (.file content) ∨ files loc := by
  rcases h.node loc with hsame | ⟨-, -, hmade⟩ | ⟨hf, -, -⟩
  · exact .inl (hsame ▸ hloc)
  · rw [hmade] at hloc
    exact absurd hloc (by simp)
  · exact .inr hf

/-- Files stay files. -/
theorem hasFile (h : Evolves dirs files t t') (hloc : t.HasFile loc) : t'.HasFile loc := by
  obtain ⟨content, hcontent⟩ := hloc
  rcases h.node loc with hsame | ⟨-, hnone, -⟩ | ⟨-, -, hwritten⟩
  · exact ⟨content, hsame.trans hcontent⟩
  · rw [hcontent] at hnone
    exact absurd hnone (by simp)
  · exact hwritten

/-- Where no file is written, a file stays as it is, and none comes. -/
theorem file?_eq (h : Evolves dirs files t t') (hno : ¬ files loc) :
    t'.file? loc = t.file? loc := by
  rcases h.node loc with hsame | ⟨-, hnone, hmade⟩ | ⟨hf, -, -⟩
  · rw [Tree.file?, Tree.file?, hsame]
  · rw [Tree.file?, Tree.file?, hnone, hmade]
  · exact absurd hf hno

/-- Nothing changes where nothing is made or written. -/
theorem same (h : Evolves dirs files t t') (hd : ¬ dirs loc) (hf : ¬ files loc) :
    t'.get? loc = t.get? loc := by
  rcases h.node loc with hsame | ⟨hd', -, -⟩ | ⟨hf', -, -⟩
  · exact hsame
  · exact absurd hd' hd
  · exact absurd hf' hf

end Evolves

theorem evolves_put_directory (hne : loc ≠ []) (h : t.get? loc = none) (files : Location → Prop) :
    Evolves (· = loc) files t (t.put loc .directory) := by
  refine ⟨rfl, fun other => ?_⟩
  by_cases hother : other = loc
  · subst hother
    exact .inr (.inl ⟨rfl, h, get?_put_self t _ hne⟩)
  · exact .inl (get?_put_of_ne t _ hother)

theorem evolves_put_file (hne : loc ≠ []) (h : t.get? loc ≠ some .directory)
    (dirs : Location → Prop) (content : Content) :
    Evolves dirs (· = loc) t (t.put loc (.file content)) := by
  refine ⟨rfl, fun other => ?_⟩
  by_cases hother : other = loc
  · subst hother
    exact .inr (.inr ⟨rfl, h, content, get?_put_self t _ hne⟩)
  · exact .inl (get?_put_of_ne t _ hother)

/-! ### Going down -/

theorem descend_cons_ok {l : Location} : t.descend loc (name :: names) = .ok l ↔
    t.get? loc = some .directory ∧
      ((name = ".." ∧ t.descend loc.dropLast names = .ok l) ∨
        (name ≠ ".." ∧ name.utf8ByteSize ≤ nameLimit ∧ (t.get? (loc ++ [name])).isSome ∧
          t.descend (loc ++ [name]) names = .ok l)) := by
  by_cases hdir : t.get? loc = some .directory
  · by_cases hup : name = ".."
    · simp [descend, hdir, hup]
    · by_cases hlong : nameLimit < name.utf8ByteSize
      · simp [descend, hdir, hup, hlong, Nat.not_le.mpr hlong]
      · by_cases hnone : t.get? (loc ++ [name]) = none
        · simp [descend, hdir, hup, hlong, hnone]
        · have hsome := Option.isSome_iff_ne_none.mpr hnone
          simp [descend, hdir, hup, hlong, hnone, hsome, Nat.not_lt.mp hlong]
  · simp [descend, hdir]

theorem descend_append (names more : List String) : t.descend loc (names ++ more) =
    (t.descend loc names).bind fun l => t.descend l more := by
  induction names generalizing loc with
  | nil => rfl
  | cons name names ih =>
      simp only [List.cons_append, descend]
      split
      · rfl
      · split
        · exact ih
        · split
          · rfl
          · split
            · rfl
            · exact ih

theorem descend_concat_ok {l : Location} : t.descend loc (names ++ [name]) = .ok l ↔
    ∃ outer, t.descend loc names = .ok outer ∧ t.descend outer [name] = .ok l := by
  rw [descend_append]
  cases t.descend loc names <;> simp [Except.bind]

/-- A way that was open stays open. -/
theorem Evolves.descend {dirs files : Location → Prop} {l : Location} (h : Evolves dirs files t t')
    (hl : t.descend loc names = .ok l) : t'.descend loc names = .ok l := by
  induction names generalizing loc with
  | nil => exact hl
  | cons name names ih =>
      rw [descend_cons_ok] at hl ⊢
      obtain ⟨hdir, ⟨hup, hrest⟩ | ⟨hup, hshort, hsome, hrest⟩⟩ := hl
      · exact ⟨h.directory hdir, .inl ⟨hup, ih hrest⟩⟩
      · exact ⟨h.directory hdir, .inr ⟨hup, hshort, h.isSome hsome, ih hrest⟩⟩

/-- Where a way leads does not depend on what stands there, as long as it is open. -/
theorem descend_unique {l l' : Location} (h : t.descend loc names = .ok l)
    (h' : t'.descend loc names = .ok l') : l = l' := by
  induction names generalizing loc with
  | nil => exact (Except.ok.inj h).symm.trans (Except.ok.inj h')
  | cons name names ih =>
      rw [descend_cons_ok] at h h'
      obtain ⟨-, ⟨hup, hrest⟩ | ⟨hup, -, -, hrest⟩⟩ := h <;>
        obtain ⟨-, ⟨hup', hrest'⟩ | ⟨hup', -, -, hrest'⟩⟩ := h'
      · exact ih hrest hrest'
      · exact absurd hup hup'
      · exact absurd hup' hup
      · exact ih hrest hrest'

/-- Names lead straight on. -/
theorem descend_eq_append {l : Location} (hup : ".." ∉ names) (h : t.descend loc names = .ok l) :
    l = loc ++ names := by
  induction names generalizing loc with
  | nil => simpa [Tree.descend, eq_comm] using h
  | cons name names ih =>
      rw [List.mem_cons, not_or] at hup
      rw [descend_cons_ok] at h
      obtain ⟨-, ⟨hname, -⟩ | ⟨-, -, -, hrest⟩⟩ := h
      · exact absurd hname.symm hup.1
      · simpa using ih hup.2 hrest

/-! ### Targets -/

theorem steps_eq_filter (path : String) :
    steps path = ((Path.pieces path).filter (· ≠ "")).filter (· ≠ ".") := by
  rw [List.filter_filter, steps_eq]
  congr 1
  funext piece
  simp [isStep, bne, Bool.and_comm, beq_eq_decide]

/-- The last step of a path that does not end in points is a name. -/
theorem last_step_ne_up (hname : (steps path).getLast? = some name)
    (hpoints : ¬ (((Path.pieces path).filter (· ≠ "")).getLast? = some "." ∨
      ((Path.pieces path).filter (· ≠ "")).getLast? = some "..")) : name ≠ ".." := by
  rintro rfl
  rw [steps_eq_filter] at hname
  rcases List.eq_nil_or_concat ((Path.pieces path).filter (· ≠ "")) with hnil | ⟨front, last, h⟩
  · rw [hnil] at hname
    exact absurd hname (by simp)
  · rw [h, List.concat_eq_append] at hname hpoints
    simp only [List.getLast?_concat, Option.some.injEq, not_or] at hpoints
    rw [List.filter_append, List.filter_cons_of_pos (by simpa using hpoints.1)] at hname
    simp only [List.filter_nil, List.getLast?_concat, Option.some.injEq] at hname
    exact hpoints.2 hname

/-- The target of a path: the location behind its last step, in a directory that the other
steps lead to. -/
theorem target_eq_some (h : t.target path = .ok (some loc)) :
    ∃ init name outer, steps path = init ++ [name] ∧ name ≠ ".." ∧
      t.descend (t.start path) init = .ok outer ∧ t.get? outer = some .directory ∧
      name.utf8ByteSize ≤ nameLimit ∧ loc = outer ++ [name] := by
  simp only [target, bind, Except.bind] at h
  split at h
  · exact absurd h (by simp)
  · split at h
    · exact absurd h (by simp [pure, Except.pure])
    · rename_i name hname
      obtain ⟨init, hinit⟩ := List.getLast?_eq_some_iff.mp hname
      split at h
      · split at h
        · exact absurd h (by simp)
        · split at h <;> exact absurd h (by simp [pure, Except.pure])
      · rename_i hpoints
        rw [hinit, List.dropLast_concat] at h
        split at h
        · exact absurd h (by simp)
        · rename_i outer houter
          split at h
          · exact absurd h (by simp)
          · split at h
            · exact absurd h (by simp)
            · rename_i hdir hshort
              simp only [pure, Except.pure, Except.ok.injEq, Option.some.injEq] at h
              exact ⟨init, name, outer, hinit, last_step_ne_up hname hpoints, houter,
                not_not.mp hdir, Nat.not_lt.mp hshort, h.symm⟩

theorem checkPath_ne_notFound {fault : Fault} (hne : path ≠ "")
    (h : checkPath path = .error fault) : fault ≠ .notFound := by
  have hempty : path.isEmpty = false := by simpa using hne
  rintro rfl
  rw [checkPath, hempty] at h
  split at h
  · exact absurd h (by simp)
  · rw [if_neg (by simp)] at h
    split at h <;> exact absurd h (by simp)

/-- A path to a location where something stands has this location as its target, if any. -/
theorem target_of_located (h : t.descend (t.start path) (steps path) = .ok loc)
    (hcheck : checkPath path = .ok ()) :
    t.target path = .ok none ∨ t.target path = .ok (some loc) ∨
      t.target path = .error .notDirectory := by
  simp only [target, hcheck, bind, Except.bind]
  cases hlast : (steps path).getLast? with
  | none => exact .inl rfl
  | some name =>
      obtain ⟨init, hinit⟩ := List.getLast?_eq_some_iff.mp hlast
      dsimp only
      by_cases hpoints : ((Path.pieces path).filter (· ≠ "")).getLast? = some "." ∨
          ((Path.pieces path).filter (· ≠ "")).getLast? = some ".."
      · rw [if_pos hpoints, h]
        by_cases hdir : t.get? loc = some .directory
        · exact .inl (if_pos hdir)
        · exact .inr (.inr (if_neg hdir))
      · have hname := last_step_ne_up hlast hpoints
        rw [hinit, descend_concat_ok] at h
        obtain ⟨outer, houter, hstep⟩ := h
        obtain ⟨hdir, ⟨hup, -⟩ | ⟨-, hshort, -, hend⟩⟩ := descend_cons_ok.mp hstep
        · exact absurd hup hname
        · obtain rfl : outer ++ [name] = loc := by simpa [descend] using hend
          rw [if_neg hpoints, hinit, List.dropLast_concat, houter]
          simp [hdir, Nat.not_lt.mpr hshort, pure, Except.pure]

/-- A path to a location where something stands names nothing new. -/
theorem makeDirectory_of_located (h : t.descend (t.start path) (steps path) = .ok loc)
    (hsome : (t.get? loc).isSome) (hne : path ≠ "") :
    ∃ fault, fault ≠ .notFound ∧ t.makeDirectory path = .error fault := by
  cases hcheck : checkPath path with
  | error fault =>
      refine ⟨fault, checkPath_ne_notFound hne hcheck, ?_⟩
      simp [makeDirectory, target, hcheck, bind, Except.bind]
  | ok _ =>
      rcases target_of_located h hcheck with htarget | htarget | htarget
      · exact ⟨.exists, by simp, by simp [makeDirectory, htarget, bind, Except.bind]⟩
      · exact ⟨.exists, by simp, by simp [makeDirectory, htarget, hsome, bind, Except.bind]⟩
      · exact ⟨.notDirectory, by simp, by simp [makeDirectory, htarget, bind, Except.bind]⟩

theorem makeDirectory_eq_ok (h : t.makeDirectory path = .ok t') :
    ∃ loc, t.target path = .ok (some loc) ∧ t.get? loc = none ∧ t' = t.put loc .directory := by
  simp only [makeDirectory, bind, Except.bind] at h
  split at h
  · exact absurd h (by simp)
  · rename_i target htarget
    split at h
    · exact absurd h (by simp)
    · rename_i loc
      split at h
      · exact absurd h (by simp)
      · rename_i hnone
        simp only [pure, Except.pure, Except.ok.injEq] at h
        exact ⟨loc, htarget, by simpa using hnone, h.symm⟩

/-- A directory that was made is there, and can be reached by its path. -/
theorem located_of_makeDirectory (h : t.makeDirectory path = .ok t') :
    ∃ loc, t'.descend (t'.start path) (steps path) = .ok loc ∧ t'.get? loc = some .directory := by
  obtain ⟨loc, htarget, hnone, rfl⟩ := makeDirectory_eq_ok h
  obtain ⟨init, name, outer, hinit, hname, houter, hdir, hshort, rfl⟩ := target_eq_some htarget
  have hne : outer ++ [name] ≠ [] := by simp
  have hev := evolves_put_directory hne hnone fun _ => False
  have hself := get?_put_self t .directory hne
  refine ⟨outer ++ [name], ?_, hself⟩
  rw [hinit, descend_concat_ok]
  refine ⟨outer, hev.descend houter, descend_cons_ok.mpr ⟨hev.directory hdir, .inr ?_⟩⟩
  exact ⟨hname, hshort, by simp [hself], rfl⟩

/-! ### Inside a location -/

/-- A path stands for a location where something stands. -/
def Stands (t : Tree) (path : String) (loc : Location) : Prop :=
  t.descend (t.start path) (steps path) = .ok loc ∧ (t.get? loc).isSome

/-- The locations on the way from a location through names, the last one included. -/
def OnWay (loc : Location) (names : List String) (l : Location) : Prop :=
  loc.Inside l ∧ l <+: loc ++ names

theorem OnWay.dropLast {l : Location} (h : OnWay loc names.dropLast l) : OnWay loc names l :=
  ⟨h.1, h.2.trans ((List.prefix_append_right_inj loc).mpr (List.dropLast_prefix names))⟩

theorem Evolves.stands {dirs files : Location → Prop} (h : Evolves dirs files t t')
    (hloc : t.Stands path loc) : t'.Stands path loc := by
  have hstart : t'.start path = t.start path := by simp [start, h.cwd]
  exact ⟨hstart ▸ h.descend hloc.1, h.isSome hloc.2⟩

theorem locate_eq_ok (h : t.locate path = .ok (loc, node)) :
    checkPath path = .ok () ∧ t.descend (t.start path) (steps path) = .ok loc ∧
      t.get? loc = some node ∧ (namesDirectory path && node != .directory) = false := by
  simp only [locate, bind, Except.bind] at h
  cases hcheck : checkPath path with
  | error fault => simp [hcheck] at h
  | ok _ =>
      cases hdown : t.descend (t.start path) (steps path) with
      | error fault => simp [hcheck, hdown] at h
      | ok l =>
          cases hnode : t.get? l with
          | none => simp [hcheck, hdown, hnode] at h
          | some found =>
              simp only [hcheck, hdown, hnode] at h
              split at h
              · exact absurd h (by simp)
              · rename_i hkind
                simp only [pure, Except.pure, Except.ok.injEq, Prod.mk.injEq] at h
                obtain ⟨rfl, rfl⟩ := h
                exact ⟨rfl, rfl, hnode, by simpa using hkind⟩

theorem locate_of (hcheck : checkPath path = .ok ())
    (hdown : t.descend (t.start path) (steps path) = .ok loc) (hnode : t.get? loc = some node)
    (hkind : (namesDirectory path && node != .directory) = false) :
    t.locate path = .ok (loc, node) := by
  simp [locate, bind, Except.bind, hcheck, hdown, hnode, hkind, pure, Except.pure]

/-- A file that is found stays where it is and as it is, if nothing is written there. -/
theorem Evolves.locate_file {dirs files : Location → Prop} (h : Evolves dirs files t t')
    (hlocate : t.locate path = .ok (loc, .file content)) (hno : ¬ files loc) :
    t'.locate path = .ok (loc, .file content) := by
  obtain ⟨hcheck, hdown, hnode, hkind⟩ := locate_eq_ok hlocate
  have hstart : t'.start path = t.start path := by simp [start, h.cwd]
  exact locate_of hcheck (hstart ▸ h.descend hdown) (h.file hnode hno) hkind

theorem read_of_locate (h : t.locate path = .ok (loc, .file content)) :
    t.read path = .ok content := by
  simp [read, h, bind, Except.bind, pure, Except.pure]

theorem exists?_iff : t.exists? path = true ↔ ∃ loc node, t.locate path = .ok (loc, node) := by
  rw [exists?]
  cases t.locate path with
  | error fault => simp [Except.isOk, Except.toBool]
  | ok found => simp [Except.isOk, Except.toBool, Prod.ext_iff]

theorem isDirectory_iff :
    t.isDirectory path = true ↔ ∃ loc, t.locate path = .ok (loc, .directory) := by
  rw [isDirectory]
  split
  · rename_i loc h
    simp [h]
  · rename_i h
    simp only [Bool.false_eq_true, false_iff, not_exists]
    exact h

theorem stands_of_locate (h : t.locate path = .ok (loc, node)) : t.Stands path loc := by
  obtain ⟨-, hdown, hnode, -⟩ := locate_eq_ok h
  exact ⟨hdown, by simp [hnode]⟩

theorem start_of_leads (h : Leads dir path names) (t : Tree) : t.start path = t.start dir := by
  simp [start, h.start]

/-- Where a path leads that goes on from a location through names: straight on. -/
theorem target_of_leads {l : Location} (hdir : t.Stands dir loc) (h : Leads dir path names)
    (hne : names ≠ []) (hup : ".." ∉ names) (htarget : t.target path = .ok (some l)) :
    l = loc ++ names ∧ t.get? (loc ++ names.dropLast) = some .directory := by
  obtain ⟨init, name, outer, hinit, -, houter, hd, -, rfl⟩ := target_eq_some htarget
  obtain ⟨front, last, rfl⟩ : ∃ front last, names = front ++ [last] := by
    rcases List.eq_nil_or_concat names with hnil | ⟨front, last, hfront⟩
    · exact absurd hnil hne
    · exact ⟨front, last, by rw [hfront, List.concat_eq_append]⟩
  rw [h.steps, ← List.append_assoc] at hinit
  obtain ⟨rfl, hlast⟩ := List.append_inj' hinit rfl
  obtain rfl := (List.cons.inj hlast).1
  rw [start_of_leads h, descend_append, hdir.1] at houter
  have hstraight := descend_eq_append (fun hmem => hup (List.mem_append_left _ hmem)) houter
  rw [List.dropLast_concat, ← hstraight]
  exact ⟨by rw [hstraight, List.append_assoc], hd⟩

theorem Stands.located (hdir : t.Stands dir loc) (h : Leads dir path []) :
    t.descend (t.start path) (steps path) = .ok loc := by
  rw [start_of_leads h, h.steps, List.append_nil]
  exact hdir.1

theorem evolves_makeDirectory (hdir : t.Stands dir loc) (h : Leads dir path names)
    (hup : ".." ∉ names) (hne : path ≠ "") (hok : t.makeDirectory path = .ok t') :
    Evolves (OnWay loc names) (fun _ => False) t t' := by
  by_cases hnil : names = []
  · subst hnil
    obtain ⟨fault, -, hfault⟩ := makeDirectory_of_located (hdir.located h) hdir.2 hne
    rw [hfault] at hok
    exact absurd hok (by simp)
  · obtain ⟨l, htarget, hnone, rfl⟩ := makeDirectory_eq_ok hok
    obtain ⟨rfl, -⟩ := target_of_leads hdir h hnil hup htarget
    refine (evolves_put_directory (by simp [hnil]) hnone _).mono ?_ fun _ h => h
    rintro l rfl
    exact ⟨loc.inside_append hnil, List.prefix_rfl⟩

/-! ### Making directories -/

/-- What making directories comes to: the longest path is made at once, or is refused, or is
made or refused after those that it is inside of. -/
inductive Making (t : Tree) (path : String) (outer : List String) : Tree × Option Fault → Prop
  | made {t' : Tree} (h : t.makeDirectory path = .ok t') : Making t path outer (t', none)
  | refused {fault : Fault} (h : t.makeDirectory path = .error fault) (hfault : fault ≠ .notFound) :
      Making t path outer (t, if t.isDirectory path then none else some fault)
  | outerRefused {t₁ : Tree} {fault : Fault} (h : t.makeDirectory path = .error .notFound)
      (houter : t.makeDirectoriesOf outer = (t₁, some fault)) :
      Making t path outer (t₁, some fault)
  | madeInside {t₁ t' : Tree} (h : t.makeDirectory path = .error .notFound)
      (houter : t.makeDirectoriesOf outer = (t₁, none)) (h' : t₁.makeDirectory path = .ok t') :
      Making t path outer (t', none)
  | refusedInside {t₁ : Tree} {fault : Fault} (h : t.makeDirectory path = .error .notFound)
      (houter : t.makeDirectoriesOf outer = (t₁, none))
      (h' : t₁.makeDirectory path = .error fault) :
      Making t path outer (t₁, if t₁.isDirectory path then none else some fault)

theorem makeDirectoriesOf_cons (hne : path ≠ "") (outer : List String) :
    Making t path outer (t.makeDirectoriesOf (path :: outer)) := by
  rw [makeDirectoriesOf, if_neg (by simpa using hne)]
  split
  · rename_i h
    exact .made h
  · rename_i h
    split
    · rename_i houter
      exact .outerRefused h houter
    · rename_i houter
      split
      · rename_i h'
        exact .madeInside h houter h'
      · rename_i h'
        exact .refusedInside h houter h'
  · rename_i hfault h
    exact .refused h hfault

theorem ne_nil_of_target (h : t.target path = .ok (some loc)) : loc ≠ [] := by
  obtain ⟨_, name, outer, -, -, -, -, -, rfl⟩ := target_eq_some h
  simp

/-- Making directories makes them where nothing stood, and that is all. -/
theorem evolves_makeDirectoriesOf_any (t : Tree) (paths : List String) :
    Evolves (fun _ => True) (fun _ => False) t (t.makeDirectoriesOf paths).1 := by
  have hone : ∀ {t t' : Tree} {path : String}, t.makeDirectory path = .ok t' →
      Evolves (fun _ => True) (fun _ => False) t t' := by
    intro t t' path hok
    obtain ⟨loc, htarget, hnone, rfl⟩ := makeDirectory_eq_ok hok
    exact (evolves_put_directory (ne_nil_of_target htarget) hnone _).mono (fun _ _ => trivial)
      fun _ h => h
  induction paths generalizing t with
  | nil => exact .refl _ _ t
  | cons path outer ih =>
      by_cases hempty : path = ""
      · rw [makeDirectoriesOf, if_pos (by simp [hempty])]
        exact .refl _ _ t
      have hmaking : Making t path outer (t.makeDirectoriesOf (path :: outer)) :=
        makeDirectoriesOf_cons hempty outer
      have houter := ih t
      generalize t.makeDirectoriesOf (path :: outer) = result at hmaking ⊢
      cases hmaking with
      | made hok => exact hone hok
      | refused => exact .refl _ _ t
      | outerRefused _ hrest => exact hrest ▸ houter
      | madeInside _ hrest hok => exact (hrest ▸ houter).trans (hone hok)
      | refusedInside _ hrest =>
          have hev := hrest ▸ houter
          exact hev

/-- Making directories that lead on from a location makes them on the way only. -/
theorem evolves_makeDirectoriesOf (fuel : Nat) (hdir : t.Stands dir loc) (h : Leads dir path names)
    (hup : ".." ∉ names) :
    Evolves (OnWay loc names) (fun _ => False) t
      (t.makeDirectoriesOf (Path.ancestorsWithin fuel path)).1 := by
  induction fuel generalizing path names t with
  | zero => exact .refl _ _ t
  | succ fuel ih =>
      by_cases hempty : path = ""
      · rw [Path.ancestorsWithin_succ, makeDirectoriesOf, if_pos (by simp [hempty])]
        exact .refl _ _ t
      -- The directories further out, which are wanted only where this one has no place.
      have houter : t.makeDirectory path = .error .notFound →
          Evolves (OnWay loc names) (fun _ => False) t
            (t.makeDirectoriesOf
              (((Path.parent? path).map (Path.ancestorsWithin fuel)).getD [])).1 := by
        intro hmissing
        have hnil : names ≠ [] := by
          rintro rfl
          obtain ⟨fault, hfault, herror⟩ := makeDirectory_of_located (hdir.located h) hdir.2 hempty
          rw [herror] at hmissing
          exact hfault (Except.error.inj hmissing)
        cases hparent : Path.parent? path with
        | none => exact .refl _ _ t
        | some shorter =>
            have hup' : ".." ∉ names.dropLast := fun hmem => hup (List.dropLast_subset names hmem)
            exact (ih hdir (h.parent hnil hparent) hup').mono (fun _ => OnWay.dropLast) fun _ h => h
      rw [Path.ancestorsWithin_succ]
      have hmaking : Making t path _ (t.makeDirectoriesOf (path ::
        ((Path.parent? path).map (Path.ancestorsWithin fuel)).getD [])) :=
          makeDirectoriesOf_cons hempty _
      generalize t.makeDirectoriesOf (path :: _) = result at hmaking ⊢
      cases hmaking with
      | made hok => exact evolves_makeDirectory hdir h hup hempty hok
      | refused => exact .refl _ _ t
      | outerRefused hmissing hrest => exact hrest ▸ houter hmissing
      | madeInside hmissing hrest hok =>
          have hev := hrest ▸ houter hmissing
          exact hev.trans (evolves_makeDirectory (hev.stands hdir) h hup hempty hok)
      | refusedInside hmissing hrest =>
          have hev := hrest ▸ houter hmissing
          exact hev

/-- Directories that were made without a fault are there. -/
theorem stands_of_makeDirectoriesOf {further : List String} (hne : path ≠ "")
    (h : t.makeDirectoriesOf (path :: further) = (t', none)) : ∃ loc, t'.Stands path loc := by
  have hmade : ∀ {t t' : Tree}, t.makeDirectory path = .ok t' → ∃ loc, t'.Stands path loc := by
    intro t t' hok
    obtain ⟨loc, hdown, hnode⟩ := located_of_makeDirectory hok
    exact ⟨loc, hdown, by simp [hnode]⟩
  have hthere : ∀ {t : Tree} {fault : Fault},
      (if t.isDirectory path then none else some fault) = none → ∃ loc, t.Stands path loc := by
    intro t fault hnone
    have hdir : t.isDirectory path = true := by
      by_contra hno
      simp [hno] at hnone
    obtain ⟨loc, hloc⟩ := isDirectory_iff.mp hdir
    exact ⟨loc, stands_of_locate hloc⟩
  have hmaking := h ▸ makeDirectoriesOf_cons (t := t) hne further
  generalize hresult : (t', (none : Option Fault)) = result at hmaking
  cases hmaking with
  | made hok =>
      obtain ⟨rfl, -⟩ := Prod.mk.inj hresult
      exact hmade hok
  | refused =>
      obtain ⟨rfl, hnone⟩ := Prod.mk.inj hresult
      exact hthere hnone.symm
  | outerRefused => exact absurd (Prod.mk.inj hresult).2 (by simp)
  | madeInside _ _ hok =>
      obtain ⟨rfl, -⟩ := Prod.mk.inj hresult
      exact hmade hok
  | refusedInside =>
      obtain ⟨rfl, hnone⟩ := Prod.mk.inj hresult
      exact hthere hnone.symm

theorem stands_of_makeDirectories (hne : path ≠ "") (h : t.makeDirectories path = (t', none)) :
    ∃ loc, t'.Stands path loc := by
  rw [makeDirectories, Path.ancestors, Path.ancestorsWithin_succ] at h
  exact stands_of_makeDirectoriesOf hne h

/-- Making directories where one stands already changes nothing. -/
theorem makeDirectories_of_located (h : t.descend (t.start path) (steps path) = .ok loc)
    (hsome : (t.get? loc).isSome) : (t.makeDirectories path).1 = t := by
  rw [makeDirectories, Path.ancestors, Path.ancestorsWithin_succ]
  by_cases hempty : path = ""
  · rw [makeDirectoriesOf, if_pos (by simp [hempty])]
  · obtain ⟨fault, hfault, herror⟩ := makeDirectory_of_located h hsome hempty
    rw [makeDirectoriesOf, if_neg (by simpa using hempty), herror]
    cases fault with
    | notFound => exact absurd rfl hfault
    | _ => rfl

/-! ### Writing -/

theorem fileTarget_eq_ok (h : t.fileTarget path = .ok loc) :
    t.target path = .ok (some loc) ∧ namesDirectory path = false ∧
      t.get? loc ≠ some .directory := by
  simp only [fileTarget, bind, Except.bind] at h
  cases htarget : t.target path with
  | error fault => simp [htarget] at h
  | ok target =>
      cases target with
      | none => simp [htarget] at h
      | some l =>
          simp only [htarget] at h
          split at h
          · exact absurd h (by simp)
          · rename_i hfile
            simp only [pure, Except.pure, Except.ok.injEq] at h
            subst h
            rw [not_or] at hfile
            exact ⟨rfl, by simpa using hfile.1, hfile.2⟩

theorem write_eq_ok (h : t.write path content = .ok t') :
    ∃ loc, t.fileTarget path = .ok loc ∧ t' = t.put loc (.file content) := by
  simp only [write, bind, Except.bind] at h
  cases htarget : t.fileTarget path with
  | error fault => simp [htarget] at h
  | ok loc =>
      simp only [htarget, pure, Except.pure, Except.ok.injEq] at h
      exact ⟨loc, rfl, h.symm⟩

/-- The content of a file with data at its end, where a file may stand already. -/
def appended (data : List UInt8) : Option Content → Content
  | some content => content.append data
  | none => .bytes data

theorem append_eq_ok {data : List UInt8} (h : t.append path data = .ok t') :
    ∃ loc, t.fileTarget path = .ok loc ∧ t' = t.put loc (.file (appended data (t.file? loc))) := by
  simp only [append, bind, Except.bind] at h
  cases htarget : t.fileTarget path with
  | error fault => simp [htarget] at h
  | ok loc =>
      simp only [htarget, pure, Except.pure] at h
      refine ⟨loc, rfl, ?_⟩
      rw [file?]
      cases hnode : t.get? loc with
      | none =>
          simp only [hnode] at h
          exact (Except.ok.inj h).symm
      | some node =>
          simp only [hnode] at h
          cases node <;> exact (Except.ok.inj h).symm

theorem checkPath_of_target {target : Option Location} (h : t.target path = .ok target) :
    checkPath path = .ok () := by
  cases hcheck : checkPath path with
  | error fault => simp [Tree.target, hcheck, bind, Except.bind] at h
  | ok _ => rfl

/-- A file put at the target of a path is found by this path. -/
theorem locate_put (h : t.fileTarget path = .ok loc) (content : Content) :
    (t.put loc (.file content)).locate path = .ok (loc, .file content) := by
  obtain ⟨htarget, hkind, hfile⟩ := fileTarget_eq_ok h
  obtain ⟨init, name, outer, hinit, hname, houter, hdir, hshort, rfl⟩ := target_eq_some htarget
  have hne : outer ++ [name] ≠ [] := by simp
  have hev := evolves_put_file hne hfile (fun _ => False) content
  have hself := get?_put_self t (.file content) hne
  have hdown : (t.put (outer ++ [name]) (.file content)).descend (t.start path) (steps path) =
      .ok (outer ++ [name]) := by
    rw [hinit, descend_concat_ok]
    refine ⟨outer, hev.descend houter, descend_cons_ok.mpr ⟨hev.directory hdir, .inr ?_⟩⟩
    exact ⟨hname, hshort, by simp [hself], rfl⟩
  have hstart : (t.put (outer ++ [name]) (.file content)).start path = t.start path := rfl
  simp [locate, bind, Except.bind, checkPath_of_target htarget, hstart, hdown, hself, hkind,
    pure, Except.pure]

/-- What was written can be read. -/
theorem read_write (h : t.write path content = .ok t') : t'.read path = .ok content := by
  obtain ⟨loc, htarget, rfl⟩ := write_eq_ok h
  simp [read, locate_put htarget, bind, Except.bind, pure, Except.pure]

/-- Writing below a location writes at one location. -/
theorem fileTarget_of_leads {l : Location} (hdir : t.Stands dir loc) (h : Leads dir path names)
    (hne : names ≠ []) (hup : ".." ∉ names) (htarget : t.fileTarget path = .ok l) :
    l = loc ++ names :=
  (target_of_leads hdir h hne hup (fileTarget_eq_ok htarget).1).1

/-! ### Existence -/

/-- Whatever stands somewhere is in directories all the way. -/
def Closed (t : Tree) : Prop :=
  ∀ outer inner, outer.Inside inner → (t.get? inner).isSome → t.get? outer = some .directory

theorem Closed.put_directory (hclosed : t.Closed) (houter : t.get? outer = some .directory) :
    (t.put (outer ++ [name]) .directory).Closed := by
  have hself := get?_put_self t .directory (show outer ++ [name] ≠ [] by simp)
  intro l inner hinside hsome
  by_cases hl : l = outer ++ [name]
  · rw [hl, hself]
  rw [get?_put_of_ne t _ hl]
  by_cases hinner : inner = outer ++ [name]
  · rw [hinner] at hinside
    rcases List.prefix_concat_iff.mp hinside.1 with heq | hbegins
    · exact absurd heq hl
    · by_cases heq : l = outer
      · rw [heq, houter]
      · exact hclosed l outer ⟨hbegins, heq⟩ (by simp [houter])
  · rw [get?_put_of_ne t _ hinner] at hsome
    exact hclosed l inner hinside hsome

theorem Closed.makeDirectory (hclosed : t.Closed) (h : t.makeDirectory path = .ok t') :
    t'.Closed := by
  obtain ⟨loc, htarget, -, rfl⟩ := makeDirectory_eq_ok h
  obtain ⟨init, name, outer, -, -, -, houter, -, rfl⟩ := target_eq_some htarget
  exact hclosed.put_directory houter

theorem Closed.makeDirectoriesOf (hclosed : t.Closed) (paths : List String) :
    (t.makeDirectoriesOf paths).1.Closed := by
  induction paths generalizing t with
  | nil => exact hclosed
  | cons path outer ih =>
      by_cases hempty : path = ""
      · rw [Tree.makeDirectoriesOf, if_pos (by simp [hempty])]
        exact hclosed
      have hmaking : Making t path outer (t.makeDirectoriesOf (path :: outer)) :=
        makeDirectoriesOf_cons hempty outer
      have houter := ih hclosed
      generalize t.makeDirectoriesOf (path :: outer) = result at hmaking ⊢
      cases hmaking with
      | made hok => exact hclosed.makeDirectory hok
      | refused => exact hclosed
      | outerRefused _ hrest => exact hrest ▸ houter
      | madeInside _ hrest hok =>
          rw [hrest] at houter
          exact houter.makeDirectory hok
      | refusedInside _ hrest =>
          rw [hrest] at houter
          exact houter

theorem Closed.removeDirectory (hclosed : t.Closed) (h : t.removeDirectory path = .ok t') :
    t'.Closed := by
  simp only [Tree.removeDirectory, bind, Except.bind] at h
  split at h
  · exact absurd h (by simp)
  split at h
  · exact absurd h (by simp)
  rename_i loc _
  obtain rfl := Except.ok.inj h
  intro outer inner hinside hsome
  have hinner : inner ≠ [] := by
    rintro rfl
    exact hinside.2 (List.prefix_nil.mp hinside.1)
  obtain ⟨hoff, hsome⟩ := isSome_get?_removeBelow hsome hinner
  rw [get?_removeBelow t fun hbegins => hoff (hbegins.trans hinside.1)]
  exact hclosed outer inner hinside hsome

theorem short_of_descend {l : Location} (hup : ".." ∉ names) (h : t.descend loc names = .ok l) :
    ∀ name ∈ names, name.utf8ByteSize ≤ nameLimit := by
  induction names generalizing loc with
  | nil => simp
  | cons name names ih =>
      rw [List.mem_cons, not_or] at hup
      obtain ⟨-, ⟨heq, -⟩ | ⟨-, hshort, -, hrest⟩⟩ := descend_cons_ok.mp h
      · exact absurd heq.symm hup.1
      · intro other hother
        rcases List.mem_cons.mp hother with rfl | hother
        · exact hshort
        · exact ih hup.2 hrest other hother

/-- In a closed tree names lead to wherever something stands. -/
theorem descend_of_closed (hclosed : t.Closed) (hup : ".." ∉ names)
    (hshort : ∀ name ∈ names, name.utf8ByteSize ≤ nameLimit)
    (hsome : (t.get? (loc ++ names)).isSome) : t.descend loc names = .ok (loc ++ names) := by
  induction names generalizing loc with
  | nil => simp [descend]
  | cons name names ih =>
      rw [List.mem_cons, not_or] at hup
      have hdir := hclosed loc (loc ++ name :: names) (loc.inside_append (by simp)) hsome
      rw [List.append_cons] at hsome
      have hnext : (t.get? (loc ++ [name])).isSome := by
        by_cases hnil : names = []
        · simpa [hnil] using hsome
        · have hinside := (loc ++ [name]).inside_append hnil
          simp [hclosed _ _ hinside hsome]
      rw [descend_cons_ok, List.append_cons loc name names]
      refine ⟨hdir, .inr ⟨Ne.symm hup.1, hshort name List.mem_cons_self, hnext, ?_⟩⟩
      exact ih hup.2 (fun other hother => hshort other (List.mem_cons_of_mem _ hother)) hsome

/-- What is found at a path that goes on from a location through names is straight on. -/
theorem locate_of_leads {l : Location} (hdir : t.Stands dir loc) (h : Leads dir path names)
    (hup : ".." ∉ names) (hlocate : t.locate path = .ok (l, node)) :
    l = loc ++ names ∧ t.descend loc names = .ok (loc ++ names) := by
  obtain ⟨-, hdown, -, -⟩ := locate_eq_ok hlocate
  rw [start_of_leads h, h.steps, descend_append, hdir.1] at hdown
  obtain rfl := descend_eq_append hup hdown
  exact ⟨rfl, hdown⟩

/-- Whether something stands at a path below a location does not change where nothing is made
or written at the end of the path. -/
theorem exists?_of_evolves {dirs files : Location → Prop} (h : Evolves dirs files t t')
    (hclosed : t.Closed) (hdir : t.Stands dir loc) (hleads : Leads dir path names)
    (hup : ".." ∉ names) (hkind : namesDirectory path = false) (hd : ¬ dirs (loc ++ names))
    (hf : ¬ files (loc ++ names)) : t'.exists? path = t.exists? path := by
  have hsame := h.same hd hf
  rw [Bool.eq_iff_iff, exists?_iff, exists?_iff]
  constructor
  · rintro ⟨l, node, hlocate⟩
    obtain ⟨hcheck, -, hnode, -⟩ := locate_eq_ok hlocate
    obtain ⟨rfl, hdown⟩ := locate_of_leads (h.stands hdir) hleads hup hlocate
    rw [hsame] at hnode
    have hsome : (t.get? (loc ++ names)).isSome := by simp [hnode]
    have hstraight := descend_of_closed hclosed hup (short_of_descend hup hdown) hsome
    refine ⟨loc ++ names, node, locate_of hcheck ?_ hnode (by simp [hkind])⟩
    rw [start_of_leads hleads, hleads.steps, descend_append, hdir.1]
    exact hstraight
  · rintro ⟨l, node, hlocate⟩
    obtain ⟨hcheck, hdown, hnode, -⟩ := locate_eq_ok hlocate
    have hstart : t'.start path = t.start path := by simp [start, h.cwd]
    have hsome : (t'.get? l).isSome := h.isSome (by simp [hnode])
    obtain ⟨node', hnode'⟩ := Option.isSome_iff_exists.mp hsome
    exact ⟨l, node', locate_of hcheck (hstart ▸ h.descend hdown) hnode' (by simp [hkind])⟩

/-- What is found right below a directory at last was found there from the moment when something
stood at its location. -/
theorem exists?_of_located {dirs files : Location → Prop} (h : Evolves dirs files t t')
    (hdir : t.Stands dir loc) (hleads : Leads dir path [name]) (hup : name ≠ "..")
    (hkind : namesDirectory path = false) {l : Location} (hlocate : t'.locate path = .ok (l, node))
    (hsome : (t.get? l).isSome) : t.exists? path = true := by
  obtain ⟨hcheck, -, -, -⟩ := locate_eq_ok hlocate
  obtain ⟨rfl, hdown⟩ :=
    locate_of_leads (h.stands hdir) hleads (by simpa [eq_comm] using hup) hlocate
  obtain ⟨houter, ⟨heq, -⟩ | ⟨-, hshort, -, -⟩⟩ := descend_cons_ok.mp hdown
  · exact absurd heq hup
  · obtain ⟨found, hfound⟩ := Option.isSome_iff_exists.mp hsome
    refine exists?_iff.mpr ⟨_, found, locate_of hcheck ?_ hfound (by simp [hkind])⟩
    rw [start_of_leads hleads, hleads.steps, descend_append, hdir.1]
    exact descend_cons_ok.mpr
      ⟨h.was_directory houter hdir.2, .inr ⟨hup, hshort, hsome, rfl⟩⟩

end Tree

end ArchiveScout.File
