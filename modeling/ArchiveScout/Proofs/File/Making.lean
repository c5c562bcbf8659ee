import ArchiveScout.Proofs.File.Tree

/-!
# ArchiveScout.Proofs.File.Making

**When a file can be written.** Below a directory that stands, a path takes a file exactly if it
is a path of a file, its names are short enough, no file stands on the way and no directory at the
end. Directories that are missing on the way do not matter, since they can be made.
-/

namespace ArchiveScout.File

open ArchiveScout.File.Path (EndsIn Leads isStep)

namespace Tree

variable {t t' : Tree} {loc : Location} {path outer dir last : String}
  {names front : List String} {fault : Fault} {content : Content}

/-! ### The way -/

/-- No file stands at a location, or on the way from there through names. -/
def NoFiles (t : Tree) (loc : Location) (names : List String) : Prop :=
  ∀ front, front <+: names → ¬ t.HasFile (loc ++ front)

theorem NoFiles.dropLast (h : t.NoFiles loc names) : t.NoFiles loc names.dropLast :=
  fun front hfront => h front (hfront.trans (List.dropLast_prefix names))

theorem NoFiles.directory (h : t.NoFiles loc names) (hfront : front <+: names)
    (hsome : (t.get? (loc ++ front)).isSome) : t.get? (loc ++ front) = some .directory := by
  obtain ⟨node, hnode⟩ := Option.isSome_iff_exists.mp hsome
  cases node with
  | directory => exact hnode
  | file content => exact absurd ⟨content, hnode⟩ (h front hfront)

theorem NoFiles.tail {name : String} (h : t.NoFiles loc (name :: names)) :
    t.NoFiles (loc ++ [name]) names := by
  intro front hfront
  rw [List.append_assoc]
  exact h (name :: front) ((List.prefix_cons_inj name).mpr hfront)

/-- Where no file is written on a way, there are none exactly if there were none. -/
theorem Evolves.noFiles_iff {dirs files : Location → Prop} (h : Evolves dirs files t t')
    (hno : ∀ front, front <+: names → ¬ files (loc ++ front)) :
    t'.NoFiles loc names ↔ t.NoFiles loc names := by
  refine forall₂_congr fun front hfront => not_congr ⟨?_, h.hasFile⟩
  rintro ⟨content, hcontent⟩
  exact (h.was_file hcontent).elim (fun hwas => ⟨content, hwas⟩)
    fun hwritten => absurd hwritten (hno front hfront)

/-- Without files on the way, it is open to the end, or something on it is missing. -/
theorem NoFiles.descend (h : t.NoFiles loc names) (hsome : (t.get? loc).isSome)
    (hup : ".." ∉ names) (hshort : ∀ name ∈ names, name.utf8ByteSize ≤ nameLimit) :
    (t.descend loc names = .ok (loc ++ names) ∧ (t.get? (loc ++ names)).isSome) ∨
      t.descend loc names = .error .notFound := by
  induction names generalizing loc with
  | nil => exact .inl ⟨by simp [Tree.descend], by simpa using hsome⟩
  | cons name names ih =>
      rw [List.mem_cons, not_or] at hup
      have hdir : t.get? loc = some .directory := by
        have hopen := h.directory List.nil_prefix (by rwa [List.append_nil])
        rwa [List.append_nil] at hopen
      have hlong : ¬ nameLimit < name.utf8ByteSize :=
        Nat.not_lt.mpr (hshort name List.mem_cons_self)
      rw [Tree.descend, if_neg (by simp [hdir]), if_neg (Ne.symm hup.1), if_neg hlong]
      by_cases hnext : (t.get? (loc ++ [name])).isNone
      · rw [if_pos hnext]
        exact .inr rfl
      · rw [if_neg hnext, List.append_cons loc name names]
        exact ih h.tail (by simpa [Option.isSome_iff_ne_none] using hnext) hup.2
          fun other hother => hshort other (List.mem_cons_of_mem name hother)

/-! ### Targets -/

/-- A path that does not name a directory ends in a name. -/
theorem endsIn_of_file (h : namesDirectory path = false) :
    ∃ last, EndsIn path last ∧ last ≠ ".." := by
  obtain ⟨front, last, hpieces⟩ := Path.exists_last_piece path
  rw [namesDirectory, hpieces, List.getLast?_concat] at h
  simp only [Bool.or_eq_false_iff, decide_eq_false_iff_not] at h
  exact ⟨last, ⟨⟨front, hpieces⟩, by simp [isStep, h]⟩, h.2⟩

/-- The target of a path that ends in a name is inside of where the other steps lead. -/
theorem target_of_endsIn (h : EndsIn path last) (hname : last ≠ "..")
    (hcheck : checkPath path = .ok ()) :
    t.target path = (t.descend (t.start path) (steps path).dropLast).bind fun outer =>
      if t.get? outer ≠ some .directory then .error .notDirectory
      else if nameLimit < last.utf8ByteSize then .error .nameTooLong
      else .ok (some (outer ++ [last])) := by
  obtain ⟨front, hpieces⟩ := h.pieces
  have hstep : last ≠ "" ∧ last ≠ "." := by simpa [isStep] using h.step
  have hlast : (steps path).getLast? = some last := by
    rw [h.steps, List.getLast?_concat]
  have hpoints : ((Path.pieces path).filter (· ≠ "")).getLast? = some last := by
    rw [hpieces, List.filter_append, List.filter_cons_of_pos (by simpa using hstep.1),
      List.filter_nil, List.getLast?_concat]
  simp only [Tree.target, hcheck, hlast, hpoints, bind, Except.bind]
  rw [if_neg (by simp [hstep.2, hname])]
  rfl

/-! ### Directories -/

/-- Directories can be made on a way: its names are short enough, and no file stands there. -/
structure Passable (t : Tree) (loc : Location) (names : List String) : Prop where
  up : ".." ∉ names
  short : ∀ name ∈ names, name.utf8ByteSize ≤ nameLimit
  free : t.NoFiles loc names

theorem Passable.dropLast (h : t.Passable loc names) : t.Passable loc names.dropLast :=
  ⟨fun hmem => h.up (List.dropLast_subset names hmem),
    fun name hname => h.short name (List.dropLast_subset names hname), h.free.dropLast⟩

theorem Passable.evolves {dirs : Location → Prop} (h : t.Passable loc names)
    (hev : Evolves dirs (fun _ => False) t t') : t'.Passable loc names :=
  ⟨h.up, h.short, (hev.noFiles_iff fun _ _ => id).mpr h.free⟩

/-- Where something stands at the end of a way without files, it is a directory. -/
theorem Passable.isDirectory (h : t.Passable loc names) (hcheck : checkPath path = .ok ())
    (hdown : t.descend (t.start path) (steps path) = .ok (loc ++ names))
    (hsome : (t.get? (loc ++ names)).isSome) : t.isDirectory path = true :=
  isDirectory_iff.mpr
    ⟨_, locate_of hcheck hdown (h.free.directory List.prefix_rfl hsome) (by simp)⟩

/-- The last step of a path that names lead to is the last one of the names. -/
theorem names_of_endsIn (h : EndsIn path last) (hleads : Leads dir path names) (hne : names ≠ []) :
    names = names.dropLast ++ [last] ∧ (steps path).dropLast = steps dir ++ names.dropLast := by
  have hsteps := h.steps
  rw [hleads.steps, List.dropLast_append_of_ne_nil hne] at hsteps
  have hnames : names = names.dropLast ++ [last] := by
    rw [List.append_assoc] at hsteps
    exact List.append_cancel_left hsteps
  rw [hleads.steps, List.dropLast_append_of_ne_nil hne]
  exact ⟨hnames, rfl⟩

theorem checkPath_of_append {more : String} (h : checkPath (path ++ more) = .ok ())
    (hne : path ≠ "") : checkPath path = .ok () := by
  have hempty : path.isEmpty = false := by simpa using hne
  simp only [checkPath] at h ⊢
  split at h
  · exact absurd h (by simp)
  rename_i hnul
  split at h
  · exact absurd h (by simp)
  split at h
  · exact absurd h (by simp)
  rename_i hsize
  rw [String.utf8ByteSize_append] at hsize
  rw [if_neg (by simp_all), hempty, if_neg (by simp), if_neg (by omega)]

/-- A path that leads to directories which could be made, if nothing is in the way. -/
structure Makeable (dir path : String) (names : List String) : Prop where
  leads : Leads dir path names
  check : path ≠ "" → checkPath path = .ok ()
  ends : names ≠ [] → ∃ last, EndsIn path last

theorem makeable_parent (hleads : Leads dir path names) (hcheck : checkPath path = .ok ())
    (hne : names ≠ []) (hparent : Path.parent? path = some outer) :
    Makeable dir outer names.dropLast := by
  obtain ⟨more, -, rfl⟩ := Path.parent?_append hparent
  have houter := hleads.parent hne hparent
  refine ⟨houter, checkPath_of_append hcheck, fun hnames => Path.parent?_endsIn hparent ?_⟩
  rw [houter.steps]
  exact List.append_ne_nil_of_right_ne_nil _ hnames

/-- Directories are only missing in front of a path that leads further. -/
theorem ne_nil_of_missing (hdir : t.Stands dir loc) (hleads : Leads dir path names)
    (hempty : path ≠ "") (herror : t.makeDirectory path = .error .notFound) : names ≠ [] := by
  rintro rfl
  obtain ⟨fault, hfault, herror'⟩ := makeDirectory_of_located (hdir.located hleads) hdir.2 hempty
  exact hfault (Except.error.inj (herror'.symm.trans herror))

/-- A directory on a way without files is only refused where it stands already, or where one
further out is missing. -/
theorem Passable.makeDirectory_error (h : t.Passable loc names) (hdir : t.Stands dir loc)
    (hpath : Makeable dir path names) (hempty : path ≠ "")
    (herror : t.makeDirectory path = .error fault) :
    t.isDirectory path = true ∨
      fault = .notFound ∧ t.descend loc names.dropLast = .error .notFound := by
  have hleads := hpath.leads
  have hcheck := hpath.check hempty
  by_cases hne : names = []
  · subst hne
    have hdown := hdir.located hleads
    exact .inl (h.isDirectory hcheck (by simpa using hdown) (by simpa using hdir.2))
  obtain ⟨last, hlast⟩ := hpath.ends hne
  obtain ⟨hnames, hinit⟩ := names_of_endsIn hlast hleads hne
  have hin : last ∈ names := by
    rw [hnames]
    simp
  have hname : last ≠ ".." := fun heq => h.up (heq ▸ hin)
  have hshort := h.short last hin
  have htarget : t.target path = (t.descend loc names.dropLast).bind fun outer =>
      if t.get? outer ≠ some .directory then .error .notDirectory
      else if nameLimit < last.utf8ByteSize then .error .nameTooLong
      else .ok (some (outer ++ [last])) := by
    rw [target_of_endsIn hlast hname hcheck, hinit, start_of_leads hleads, descend_append, hdir.1]
    rfl
  rcases h.dropLast.free.descend hdir.2 h.dropLast.up h.dropLast.short with
    ⟨hopen, hsome⟩ | hmissing
  swap
  · rw [hmissing] at htarget
    refine .inr ⟨?_, hmissing⟩
    simpa [makeDirectory, htarget, bind, Except.bind, eq_comm] using herror
  have houter := h.dropLast.free.directory List.prefix_rfl hsome
  rw [hopen, Except.bind, if_neg (by simpa using houter), if_neg (Nat.not_lt.mpr hshort),
    List.append_assoc, ← hnames] at htarget
  -- The directories outside are there, so it can only be refused because it is there as well.
  have hthere : (t.get? (loc ++ names)).isSome := by
    by_contra hnone
    simp [makeDirectory, htarget, hnone, bind, Except.bind, pure, Except.pure] at herror
  refine .inl (h.isDirectory hcheck ?_ hthere)
  rw [hlast.steps, hinit, descend_concat_ok, start_of_leads hleads, descend_append, hdir.1]
  refine ⟨_, hopen, descend_cons_ok.mpr ⟨houter, .inr ⟨hname, hshort, ?_, ?_⟩⟩⟩
  · rwa [List.append_assoc, ← hnames]
  · rw [Tree.descend, List.append_assoc, ← hnames]

/-- Behind directories that were made, the way through them is open. -/
theorem descend_of_made {fuel : Nat} (hleads : Leads dir path names) (hup : ".." ∉ names)
    (hdir : t'.Stands dir loc)
    (hmade : t.makeDirectoriesOf (Path.ancestorsWithin (fuel + 1) path) = (t', none)) :
    t'.descend loc names = .ok (loc ++ names) ∧ (t'.get? (loc ++ names)).isSome := by
  by_cases hempty : path = ""
  · subst hempty
    obtain ⟨-, rfl⟩ : steps dir = [] ∧ names = [] := List.append_eq_nil_iff.mp hleads.steps.symm
    exact ⟨by simp [Tree.descend], by simpa using hdir.2⟩
  · rw [Path.ancestorsWithin_succ] at hmade
    obtain ⟨l, hdown, hsome⟩ := stands_of_makeDirectoriesOf hempty hmade
    rw [start_of_leads hleads, hleads.steps, descend_append, hdir.1] at hdown
    obtain rfl := descend_eq_append hup hdown
    exact ⟨hdown, hsome⟩

/-- Directories can be made on a way without files, with names that are short enough. -/
theorem Passable.makeDirectoriesOf (fuel : Nat) (h : t.Passable loc names)
    (hdir : t.Stands dir loc) (hpath : Makeable dir path names) (hfuel : path.length < fuel) :
    (t.makeDirectoriesOf (Path.ancestorsWithin fuel path)).2 = none := by
  induction fuel generalizing path names with
  | zero => exact absurd hfuel (Nat.not_lt_zero _)
  | succ fuel ih =>
      rw [Path.ancestorsWithin_succ]
      by_cases hempty : path = ""
      · rw [Tree.makeDirectoriesOf, if_pos (by simp [hempty])]
      -- Further out there are no files either, and fewer directories.
      have houter : ∀ {outer}, names ≠ [] → Path.parent? path = some outer →
          (t.makeDirectoriesOf (Path.ancestorsWithin fuel outer)).2 = none := by
        intro outer hne hparent
        have hlength := Path.length_lt_of_parent? hparent
        exact ih h.dropLast (makeable_parent hpath.leads (hpath.check hempty) hne hparent)
          (by omega)
      have hmaking : Making t path _ (t.makeDirectoriesOf (path ::
        ((Path.parent? path).map (Path.ancestorsWithin fuel)).getD [])) :=
          makeDirectoriesOf_cons hempty _
      generalize t.makeDirectoriesOf (path :: _) = result at hmaking ⊢
      cases hmaking with
      | made => rfl
      | refused herror hfault =>
          refine if_pos ?_
          exact (h.makeDirectory_error hdir hpath hempty herror).resolve_right
            fun hno => hfault hno.1
      | outerRefused herror hrest =>
          cases hparent : Path.parent? path with
          | none =>
              rw [hparent] at hrest
              exact absurd (Prod.mk.inj hrest).2 (by simp)
          | some outer =>
              have hmade := houter (ne_nil_of_missing hdir hpath.leads hempty herror) hparent
              rw [hparent, Option.map_some, Option.getD_some] at hrest
              exact absurd (hrest ▸ hmade) (by simp)
      | madeInside => rfl
      | refusedInside herror hrest herror' =>
          have hne := ne_nil_of_missing hdir hpath.leads hempty herror
          obtain ⟨outer, hparent⟩ := hpath.leads.exists_parent hne
          have hleads := hpath.leads.parent hne hparent
          rw [hparent, Option.map_some, Option.getD_some] at hrest
          have hev := evolves_makeDirectoriesOf fuel hdir hleads h.dropLast.up
          rw [hrest] at hev
          obtain ⟨fuel, rfl⟩ : ∃ smaller, fuel = smaller + 1 := by
            have hlength := Path.length_lt_of_parent? hparent
            exact Nat.exists_eq_succ_of_ne_zero (by omega)
          -- Nothing is missing any more, so the directory is there.
          have hopen := (descend_of_made hleads h.dropLast.up (hev.stands hdir) hrest).1
          refine if_pos ?_
          refine ((h.evolves hev).makeDirectory_error (hev.stands hdir) hpath hempty
            herror').resolve_right fun hno => ?_
          exact absurd (hopen.symm.trans hno.2) (by simp)

/-! ### Files -/

/-- A path leads through names to a place where a file can be written. -/
structure Admits (t : Tree) (loc : Location) (path : String) (names : List String) : Prop where
  check : checkPath path = .ok ()
  file : namesDirectory path = false
  short : ∀ name ∈ names, name.utf8ByteSize ≤ nameLimit
  way : t.NoFiles loc names.dropLast
  free : t.get? (loc ++ names) ≠ some .directory

/-- Whether a file can be written stays as it is, where no file is written on the way and no
directory is made at the end. -/
theorem Evolves.admits_iff {dirs files : Location → Prop} (h : Evolves dirs files t t')
    (hfiles : ∀ front, front <+: names.dropLast → ¬ files (loc ++ front))
    (hdirs : ¬ dirs (loc ++ names)) : t'.Admits loc path names ↔ t.Admits loc path names := by
  have hway : t'.NoFiles loc names.dropLast ↔ t.NoFiles loc names.dropLast :=
    h.noFiles_iff hfiles
  have hfree : t'.get? (loc ++ names) = some .directory ↔
      t.get? (loc ++ names) = some .directory := by
    refine ⟨fun hnode => ?_, h.directory⟩
    rcases h.node (loc ++ names) with hsame | ⟨hmade, -, -⟩ | ⟨-, -, content, hwritten⟩
    · exact hsame ▸ hnode
    · exact absurd hmade hdirs
    · rw [hwritten] at hnode
      exact absurd hnode (by simp)
  constructor
  · rintro ⟨hcheck, hfile, hshort, hno, hend⟩
    exact ⟨hcheck, hfile, hshort, hway.mp hno, fun hnode => hend (hfree.mpr hnode)⟩
  · rintro ⟨hcheck, hfile, hshort, hno, hend⟩
    exact ⟨hcheck, hfile, hshort, hway.mpr hno, fun hnode => hend (hfree.mp hnode)⟩

theorem noFiles_of_descend {l : Location} (hup : ".." ∉ names) (h : t.descend loc names = .ok l)
    (hl : t.get? l = some .directory) : t.NoFiles loc names := by
  induction names generalizing loc with
  | nil =>
      obtain rfl : loc = l := Except.ok.inj h
      rintro front hfront ⟨content, hcontent⟩
      rw [List.prefix_nil.mp hfront, List.append_nil, hl] at hcontent
      exact absurd hcontent (by simp)
  | cons name names ih =>
      rw [List.mem_cons, not_or] at hup
      obtain ⟨hdir, ⟨heq, -⟩ | ⟨-, -, -, hrest⟩⟩ := descend_cons_ok.mp h
      · exact absurd heq.symm hup.1
      rintro (_ | ⟨first, front⟩) hfront ⟨content, hcontent⟩
      · rw [List.append_nil, hdir] at hcontent
        exact absurd hcontent (by simp)
      · obtain ⟨rfl, hbegins⟩ := List.cons_prefix_cons.mp hfront
        refine ih hup.2 hrest front hbegins ⟨content, ?_⟩
        rwa [List.append_assoc]

theorem admits_of_fileTarget {l : Location} (hdir : t.Stands dir loc)
    (hleads : Leads dir path names) (hup : ".." ∉ names) (hne : names ≠ [])
    (h : t.fileTarget path = .ok l) : t.Admits loc path names := by
  obtain rfl := fileTarget_of_leads hdir hleads hne hup h
  obtain ⟨htarget, hfile, hfree⟩ := fileTarget_eq_ok h
  obtain ⟨init, name, outer, hinit, -, hdown, hnode, hshort, -⟩ := target_eq_some htarget
  have hup' : ".." ∉ names.dropLast := fun hmem => hup (List.dropLast_subset names hmem)
  obtain ⟨last, hlast, -⟩ := endsIn_of_file hfile
  obtain ⟨hnames, hdrop⟩ := names_of_endsIn hlast hleads hne
  rw [hlast.steps] at hinit
  obtain ⟨rfl, hname⟩ := List.append_inj' hinit rfl
  obtain rfl := (List.cons.inj hname).1
  rw [hdrop, start_of_leads hleads, descend_append, hdir.1] at hdown
  refine ⟨checkPath_of_target htarget, hfile, fun name hname => ?_,
    noFiles_of_descend hup' hdown hnode, hfree⟩
  rw [hnames, List.mem_append, List.mem_singleton] at hname
  rcases hname with hname | rfl
  · exact short_of_descend hup' hdown name hname
  · exact hshort

/-- Where the directories on the way are there, what admits a file has a place for it. -/
theorem Admits.fileTarget (h : t.Admits loc path names) (hdir : t.Stands dir loc)
    (hleads : Leads dir path names) (hne : names ≠ [])
    (hopen : t.descend loc names.dropLast = .ok (loc ++ names.dropLast))
    (hsome : (t.get? (loc ++ names.dropLast)).isSome) :
    t.fileTarget path = .ok (loc ++ names) := by
  obtain ⟨last, hlast, hname⟩ := endsIn_of_file h.file
  obtain ⟨hnames, hdrop⟩ := names_of_endsIn hlast hleads hne
  have hshort : last.utf8ByteSize ≤ nameLimit := h.short last (by rw [hnames]; simp)
  have htarget : t.target path = .ok (some (loc ++ names)) := by
    rw [target_of_endsIn hlast hname h.check, hdrop, start_of_leads hleads, descend_append, hdir.1,
      Except.bind, hopen, Except.bind, if_neg (by simpa using h.way.directory List.prefix_rfl hsome),
      if_neg (Nat.not_lt.mpr hshort), List.append_assoc, ← hnames]
  simp [Tree.fileTarget, htarget, h.file, h.free, bind, Except.bind, pure, Except.pure]

end Tree

end ArchiveScout.File
