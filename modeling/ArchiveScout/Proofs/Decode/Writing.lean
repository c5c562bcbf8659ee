import ArchiveScout.Decode.Decompiler
import ArchiveScout.Decode.FailureLog
import ArchiveScout.Proofs.File.Making

/-!
# ArchiveScout.Proofs.Decode.Writing

**Writing files, saving resources and appending to the log.** Each of these makes
directories where nothing stood and then writes one file, or is refused. Below the output
directory, where no name leads back, the file is the one that the names stand for and nothing
outside of the directory is touched.
-/

namespace ArchiveScout.Decode

open ArchiveScout.Archive (ReadError catalog readMember)
open ArchiveScout.File
open ArchiveScout.File.Path (Leads isStep leads_join)
open ArchiveScout.File.Tree (Evolves OnWay Stands namesDirectory steps)

variable {dir path failure line : String} {t t' : Tree} {loc : Location} {names : List String}
  {content : Content}

/-! ### Writing -/

/-- The tree in which a file is written: with the directories that the file is in. -/
def room (t : Tree) (path : String) : Tree :=
  match Path.parent? path with
  | some outer => (t.makeDirectories outer).1
  | none => t

/-- What writing comes to: the directories are made, and then the file is written or refused. -/
inductive Writing (t : Tree) (path : String) (content : Content) : Tree × Outcome String → Prop
  | written {t' : Tree} (h : (room t path).write path content = .ok t') :
      Writing t path content (t', .done path)
  | refused (causes : List String) : Writing t path content (room t path, .failed causes)

theorem writeBelow_cases (t : Tree) (path : String) (content : Content) (failure : String) :
    Writing t path content (writeBelow t path content failure) := by
  rw [writeBelow]
  cases hparent : Path.parent? path with
  | none =>
      have hroom : room t path = t := by simp only [room, hparent]
      simp only
      cases hwrite : t.write path content with
      | ok t' => exact .written (hroom.symm ▸ hwrite)
      | error fault =>
          simp only
          generalize [s!"{failure}: {path}", fault.message] = causes
          have hrefused : Writing t path content (room t path, .failed causes) := .refused causes
          rwa [hroom] at hrefused
  | some outer =>
      cases hmade : t.makeDirectories outer with
      | mk t₁ fault =>
          have hroom : room t path = t₁ := by simp only [room, hparent, hmade]
          subst hroom
          simp only [hmade]
          cases fault with
          | some fault => exact .refused _
          | none =>
              simp only
              cases hwrite : (room t path).write path content with
              | ok t' => exact .written hwrite
              | error fault => exact .refused _

/-- The directories that a file is in are made where nothing stood. -/
theorem evolves_room (t : Tree) (path : String) :
    Evolves (fun _ => True) (fun _ => False) t (room t path) := by
  rw [room]
  split
  · exact Tree.evolves_makeDirectoriesOf_any t _
  · exact .refl _ _ t

/-- What is written is there, and nothing else than its directories is new. -/
theorem evolves_write (h : (room t path).write path content = .ok t') :
    ∃ loc, t'.locate path = .ok (loc, .file content) ∧
      Evolves (fun _ => True) (· = loc) t t' := by
  obtain ⟨loc, htarget, rfl⟩ := Tree.write_eq_ok h
  obtain ⟨htarget', -, hfile⟩ := Tree.fileTarget_eq_ok htarget
  refine ⟨loc, Tree.locate_put htarget content, ?_⟩
  exact ((evolves_room t path).mono (fun _ h => h) fun _ h => absurd h id).trans
    (Tree.evolves_put_file (Tree.ne_nil_of_target htarget') hfile _ content)

/-! ### Below a directory -/

/-- A path that takes the steps of a directory and then stops has its parent's directories in
place already. -/
theorem room_of_leads_nil (hdir : t.Stands dir loc) (h : Leads dir path []) : room t path = t := by
  rw [room]
  split
  · rename_i outer houter
    obtain ⟨hstart, hsteps⟩ := Path.parent?_spec houter
    have hdown := hdir.located h
    have hstart' : t.start outer = t.start path := by simp [Tree.start, hstart]
    rcases List.eq_nil_or_concat (steps path) with hnil | ⟨init, last, hlast⟩
    · -- No step: the parent is the place where the path starts.
      rw [hnil] at hdown hsteps
      exact Tree.makeDirectories_of_located (by rw [hstart', hsteps]; exact hdown) hdir.2
    · rw [hlast, List.concat_eq_append] at hdown hsteps
      rw [List.dropLast_concat] at hsteps
      obtain ⟨outerLoc, houterLoc, hstep⟩ := Tree.descend_concat_ok.mp hdown
      have hsome : (t.get? outerLoc).isSome := by simp [(Tree.descend_cons_ok.mp hstep).1]
      exact Tree.makeDirectories_of_located (by rw [hstart', hsteps]; exact houterLoc) hsome
  · rfl

/-- A file right in a directory needs no directories. -/
theorem room_of_leads_single {name : String} (hdir : t.Stands dir loc)
    (h : Leads dir path [name]) : room t path = t := by
  rw [room]
  split
  · rename_i outer houter
    have hshorter : Leads dir outer [] := h.parent (by simp) houter
    exact Tree.makeDirectories_of_located (hdir.located hshorter) hdir.2
  · rfl

/-- The directories of a file below a directory are made on the way to it. -/
theorem evolves_room_below (hdir : t.Stands dir loc) (h : Leads dir path names)
    (hup : ".." ∉ names) :
    Evolves (OnWay loc names.dropLast) (fun _ => False) t (room t path) := by
  by_cases hnil : names = []
  · subst hnil
    rw [room_of_leads_nil hdir h]
    exact .refl _ _ t
  · rw [room]
    split
    · rename_i outer houter
      have hup' : ".." ∉ names.dropLast := fun hmem => hup (List.dropLast_subset names hmem)
      exact Tree.evolves_makeDirectoriesOf _ hdir (h.parent hnil houter) hup'
    · exact .refl _ _ t

/-- A file below a directory is written at the names that lead to it. -/
theorem write_below (hdir : t.Stands dir loc) (h : Leads dir path names) (hup : ".." ∉ names)
    (hnames : names ≠ []) (hwrite : (room t path).write path content = .ok t') :
    t'.locate path = .ok (loc ++ names, .file content) ∧
      Evolves (OnWay loc names.dropLast) (· = loc ++ names) t t' := by
  have hroom := evolves_room_below hdir h hup
  obtain ⟨l, htarget, rfl⟩ := Tree.write_eq_ok hwrite
  obtain rfl := Tree.fileTarget_of_leads (hroom.stands hdir) h hnames hup htarget
  obtain ⟨htarget', -, hfile⟩ := Tree.fileTarget_eq_ok htarget
  refine ⟨Tree.locate_put htarget content, ?_⟩
  exact (hroom.mono (fun _ h => h) fun _ h => absurd h id).trans
    (Tree.evolves_put_file (Tree.ne_nil_of_target htarget') hfile _ content)

/-! ### What is taken -/

/-- Whether a request was answered. -/
def Outcome.isDone {α : Type} : Outcome α → Bool
  | .done _ => true
  | _ => false

/-- Whether a tree takes a file at a path, whatever is in it. -/
def takes (t : Tree) (path : String) : Bool := (writeBelow t path (.bytes []) "").2.isDone

theorem isDone_writeBelow (t : Tree) (path : String) (content : Content) (failure : String) :
    (writeBelow t path content failure).2.isDone = takes t path := by
  have hwrite : ∀ (t : Tree) (content : Content), t.write path content =
      (t.fileTarget path).map fun loc => t.put loc (.file content) := fun t content => by
    cases htarget : t.fileTarget path <;>
      simp [Tree.write, htarget, bind, Except.bind, pure, Except.pure, Except.map]
  rw [takes, writeBelow, writeBelow]
  cases Path.parent? path with
  | none =>
      simp only [hwrite]
      cases t.fileTarget path <;> rfl
  | some outer =>
      simp only
      cases t.makeDirectories outer with
      | mk t₁ fault =>
          cases fault with
          | some fault => rfl
          | none =>
              simp only [hwrite]
              cases t₁.fileTarget path <;> rfl

/-- Below a directory, a path takes a file exactly if it is admitted at its names. -/
theorem takes_iff (hdir : t.Stands dir loc) (h : Leads dir path names) (hup : ".." ∉ names)
    (hne : names ≠ []) : takes t path = true ↔ t.Admits loc path names := by
  have hroom := evolves_room_below hdir h hup
  have hadmits : (room t path).Admits loc path names ↔ t.Admits loc path names := by
    refine hroom.admits_iff (fun _ _ => id) fun hway => ?_
    have hlength := ((List.prefix_append_right_inj loc).mp hway.2).length_le
    rw [List.length_dropLast] at hlength
    exact absurd (List.length_pos_iff.mpr hne) (by omega)
  rw [← hadmits]
  constructor
  · intro htakes
    rw [takes] at htakes
    have hcases := writeBelow_cases t path (.bytes []) ""
    generalize writeBelow t path (.bytes []) "" = result at htakes hcases
    cases hcases with
    | refused => exact absurd htakes (by simp [Outcome.isDone])
    | written hwrite =>
        obtain ⟨l, htarget, -⟩ := Tree.write_eq_ok hwrite
        exact Tree.admits_of_fileTarget (hroom.stands hdir) h hup hne htarget
  · intro hplace
    obtain ⟨outer, houter⟩ := h.exists_parent hne
    have hinside := h.parent hne houter
    have hstart := hadmits.mp hplace
    have hway : t.Passable loc names.dropLast :=
      ⟨fun hmem => hup (List.dropLast_subset names hmem),
        fun name hname => hstart.short name (List.dropLast_subset names hname), hstart.way⟩
    have hmade : (t.makeDirectories outer).2 = none :=
      hway.makeDirectoriesOf _ hdir (Tree.makeable_parent h hstart.check hne houter)
        (Nat.lt_succ_self _)
    -- The directories are there, so the file has its place.
    generalize hresult : t.makeDirectories outer = result at hmade
    obtain ⟨t₁, fault⟩ := result
    obtain rfl : fault = none := hmade
    obtain rfl : room t path = t₁ := by simp only [room, houter, hresult]
    obtain ⟨hopen, hsome⟩ := Tree.descend_of_made hinside hway.up (hroom.stands hdir) hresult
    have htarget := hplace.fileTarget (hroom.stands hdir) h hne hopen hsome
    rw [takes, writeBelow, houter]
    simp [hresult, Tree.write, htarget, bind, Except.bind, pure, Except.pure, Outcome.isDone]

/-! ### The log -/

/-- A line was put behind what the log held, or the log was refused. -/
def Logs (dir line : String) (t t' : Tree) : Prop :=
  (∃ loc, t'.locate (failureLogPath dir) =
    .ok (loc, .file (Tree.appended (Text.encode (line ++ "\n")) (t.file? loc)))) ∨
    t' = t ∧ ∃ fault, t.append (failureLogPath dir) (Text.encode (line ++ "\n")) = .error fault

theorem logs_appendRecord (dir : String) (t : Tree) (line : String) :
    Logs dir line t (appendRecord dir t line) := by
  rw [appendRecord]
  split
  · rename_i t' h
    obtain ⟨loc, htarget, rfl⟩ := Tree.append_eq_ok h
    exact .inl ⟨loc, Tree.locate_put htarget _⟩
  · rename_i fault h
    exact .inr ⟨rfl, fault, h⟩

/-- Where the log is, in an output directory at a location. -/
def logLocation (loc : Location) : Location := loc ++ [failureLogName]

theorem leads_failureLogPath (dir : String) : Leads dir (failureLogPath dir) [failureLogName] :=
  leads_join (by decide)

/-- Appending to the log changes the log, and that is all. -/
theorem appendRecord_below (hdir : t.Stands dir loc) (line : String) :
    appendRecord dir t line = t ∨
      (t.get? (logLocation loc) ≠ some .directory ∧
        appendRecord dir t line = t.put (logLocation loc)
          (.file (Tree.appended (Text.encode (line ++ "\n")) (t.file? (logLocation loc))))) := by
  rw [appendRecord]
  split
  · rename_i t' h
    obtain ⟨l, htarget, rfl⟩ := Tree.append_eq_ok h
    obtain rfl := Tree.fileTarget_of_leads hdir (leads_failureLogPath dir) (by simp) (by decide)
      htarget
    exact .inr ⟨(Tree.fileTarget_eq_ok htarget).2.2, rfl⟩
  · exact .inl rfl

/-- The log gets a line exactly if the tree takes a file there. -/
theorem exists_append_iff (hdir : t.Stands dir loc) (data : List UInt8) :
    (∃ t', t.append (failureLogPath dir) data = .ok t') ↔ takes t (failureLogPath dir) = true := by
  rw [takes_iff hdir (leads_failureLogPath dir) (by decide) (by simp)]
  constructor
  · rintro ⟨t', happend⟩
    obtain ⟨l, htarget, -⟩ := Tree.append_eq_ok happend
    exact Tree.admits_of_fileTarget hdir (leads_failureLogPath dir) (by decide) (by simp) htarget
  · intro hplace
    have htarget := hplace.fileTarget hdir (leads_failureLogPath dir) (by simp)
      (by simp [Tree.descend]) (by simpa using hdir.2)
    simp only [Tree.append, htarget, bind, Except.bind, pure, Except.pure]
    split <;> exact ⟨_, rfl⟩

theorem evolves_appendRecord (hdir : t.Stands dir loc) (line : String) :
    Evolves (fun _ => False) (· = logLocation loc) t (appendRecord dir t line) := by
  rcases appendRecord_below hdir line with hsame | ⟨hfile, hput⟩
  · rw [hsame]
    exact .refl _ _ t
  · rw [hput]
    exact Tree.evolves_put_file (by simp [logLocation]) hfile _ _

/-! ### Saving resources -/

/-- The bytes that a resource was found to have, written below a directory by its name. -/
def saveFound (name dir : String) (t : Tree) : Outcome (List UInt8) → Tree × Outcome String
  | .done data => writeBelow t (Path.join dir name) (.bytes data) "Failed to write resource"
  | .failed causes => (t, .failed causes)
  | .panicked => (t, .panicked)

theorem saveFound_done {name : String} {found : Outcome (List UInt8)}
    (h : saveFound name dir t found = (t', .done path)) : ∃ data, found = .done data ∧
      path = Path.join dir name ∧ (room t path).write path (.bytes data) = .ok t' := by
  cases found with
  | done data =>
      have hcases : Writing t (Path.join dir name) (.bytes data) (t', .done path) :=
        h ▸ writeBelow_cases t (Path.join dir name) (.bytes data) "Failed to write resource"
      cases hcases with
      | written hwrite => exact ⟨data, rfl, rfl, hwrite⟩
  | failed causes => exact absurd (Prod.mk.inj h).2 (by simp)
  | panicked => exact absurd (Prod.mk.inj h).2 (by simp)

/-- Where nothing is saved, at most directories are made. -/
theorem saveFound_not_done {name : String} {found : Outcome (List UInt8)}
    {outcome : Outcome String} (h : saveFound name dir t found = (t', outcome))
    (hno : ∀ path, outcome ≠ .done path) :
    t' = t ∨ (∃ data, found = .done data) ∧ t' = room t (Path.join dir name) := by
  cases found with
  | done data =>
      have hcases : Writing t (Path.join dir name) (.bytes data) (t', outcome) :=
        h ▸ writeBelow_cases t (Path.join dir name) (.bytes data) "Failed to write resource"
      cases hcases with
      | written => exact absurd rfl (hno _)
      | refused => exact .inr ⟨⟨data, rfl⟩, rfl⟩
  | failed causes => exact .inl (Prod.mk.inj h).1.symm
  | panicked => exact .inl (Prod.mk.inj h).1.symm

theorem saveFound_panicked {name : String} {found : Outcome (List UInt8)}
    (h : saveFound name dir t found = (t', .panicked)) : found = .panicked := by
  cases found with
  | done data =>
      have hcases : Writing t (Path.join dir name) (.bytes data) (t', .panicked) :=
        h ▸ writeBelow_cases t (Path.join dir name) (.bytes data) "Failed to write resource"
      cases hcases
  | failed causes => exact absurd (Prod.mk.inj h).2 (by simp)
  | panicked => rfl

/-- A decompiler that saves a resource by looking for its bytes and writing them. -/
def Decompiler.SavesFrom (d : Decompiler) (source : String → Tree → Outcome (List UInt8)) :
    Prop :=
  ∀ name dir t, d.save name dir t = saveFound name dir t (source name t)

/-- The bytes of a member of an archive; names that lead outside are refused. -/
def memberBytes (archive name : String) (t : Tree) : Outcome (List UInt8) :=
  if isContained name then .ofExcept ReadError.chain (readMember t archive name)
  else .failed [s!"Refusing to write resource outside output: {name}"]

theorem saveMember_eq (archive name dir : String) (t : Tree) :
    saveMember archive name dir t = saveFound name dir t (memberBytes archive name t) := by
  simp only [saveMember, memberBytes]
  by_cases hname : isContained name = true
  · rw [if_neg (by simp [hname]), if_pos hname]
    cases readMember t archive name <;> rfl
  · rw [if_pos (by simpa using hname), if_neg hname]
    rfl

theorem savesFrom_openJar {tools : Toolbox} {cfr : Cfr} {archive : String} {options : OpenOptions}
    {opened : Decompiler} (h : openJar tools cfr archive options t = .ok opened) :
    opened.SavesFrom (memberBytes archive) := by
  simp only [openJar, bind, Except.bind] at h
  split at h
  · exact absurd h (by simp)
  · obtain rfl := Except.ok.inj h
    exact saveMember_eq archive

/-- A contained name is relative and never leads back. -/
theorem isContained_spec {name : String} (h : isContained name = true) :
    Path.isAbsolute name = false ∧ ".." ∉ steps name := by
  rw [isContained, List.all_eq_true, Path.components_eq] at h
  constructor
  · by_contra habs
    have hroot := h .root (List.mem_append_left _ (by simp [Path.lead, habs]))
    exact absurd hroot (by simp)
  · intro hup
    have hparent := h .parent (List.mem_append_right _ (List.mem_map.mpr ⟨"..", hup, rfl⟩))
    exact absurd hparent (by simp)

/-- A path without steps can only stand for a directory. -/
theorem namesDirectory_join {name : String} (hdir : dir ≠ "") (h : Path.isAbsolute name = false)
    (hsteps : steps name = []) : namesDirectory (Path.join dir name) = true := by
  obtain ⟨front, hpieces, -, -⟩ := Path.pieces_join h hdir
  obtain ⟨init, last, hlast⟩ := Path.exists_last_piece name
  have hnull : isStep last = false := by
    by_contra hstep
    have hmem : last ∈ (Path.pieces name).filter isStep :=
      List.mem_filter.mpr ⟨by simp [hlast], by simpa using hstep⟩
    rw [← Path.steps_eq, hsteps] at hmem
    exact absurd hmem List.not_mem_nil
  rw [namesDirectory, hpieces, hlast, ← List.append_assoc, List.getLast?_concat]
  have hcases : last = "" ∨ last = "." := by
    by_contra hno
    rw [not_or] at hno
    simp [isStep, hno] at hnull
  rcases hcases with rfl | rfl <;> rfl

/-- Nothing is written at a path that can only stand for a directory. -/
theorem write_ne_ok (h : namesDirectory path = true) : t.write path content ≠ .ok t' := by
  intro hwrite
  obtain ⟨loc, htarget, -⟩ := Tree.write_eq_ok hwrite
  exact absurd (Tree.fileTarget_eq_ok htarget).2.1 (by simp [h])

theorem takes_eq_false (h : namesDirectory path = true) (t : Tree) : takes t path = false := by
  rw [takes]
  have hcases := writeBelow_cases t path (.bytes []) ""
  generalize writeBelow t path (.bytes []) "" = result at hcases
  cases hcases with
  | written hwrite => exact absurd hwrite (write_ne_ok h)
  | refused => rfl

end ArchiveScout.Decode
