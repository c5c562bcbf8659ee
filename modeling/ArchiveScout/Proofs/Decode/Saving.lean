import ArchiveScout.Proofs.Decode.Writing

/-!
# ArchiveScout.Proofs.Decode.Saving

**A saved resource stays below the output directory, and a refused one leaves no trace.** What is
refused is refused before anything is made: a name with more than ordinary components, and a member
that cannot be read. The names of the others lead straight on from the directory, so a file is
written where they end and directories are made on the way to it.
-/

namespace ArchiveScout.Decode

open ArchiveScout.Archive (readMember)
open ArchiveScout.File
open ArchiveScout.File.Path (components components_join isOrdinary leads_join stepComponent)
open ArchiveScout.File.Tree (Evolves OnWay Stands namesDirectory steps)

variable {archive name dir path : String} {t t' : Tree} {loc : Location} {names : List String}
  {data : List UInt8}

/-! ### Names -/

theorem isContained_iff : isContained name = true ↔ ∀ c ∈ components name, isOrdinary c = true := by
  rw [isContained, List.all_eq_true]
  refine forall₂_congr fun c _ => ?_
  cases c <;> rfl

/-- The steps of a contained name are its components. -/
theorem map_stepComponent_steps (h : isContained name = true) :
    (steps name).map stepComponent = (steps name).map Component.name := by
  refine List.map_congr_left fun step hstep => if_neg ?_
  rintro rfl
  exact (isContained_spec h).2 hstep

theorem memberBytes_eq_done {found : List UInt8} (h : memberBytes archive name t = .done found) :
    isContained name = true ∧ readMember t archive name = .ok found := by
  rw [memberBytes] at h
  split at h
  · rename_i hcontained
    refine ⟨hcontained, ?_⟩
    cases hread : readMember t archive name with
    | error e => simp [hread, Outcome.ofExcept] at h
    | ok data => simpa [hread, Outcome.ofExcept] using h
  · exact absurd h (by simp)

/-! ### Refusals -/

/-- What is refused or cannot be read does nothing. -/
theorem saveMember_refused
    (h : (∃ c ∈ components name, isOrdinary c = false) ∨
      ∃ fault, readMember t archive name = .error fault) :
    ∃ causes, saveMember archive name dir t = (t, .failed causes) := by
  rw [saveMember_eq, memberBytes]
  by_cases hcontained : isContained name = true
  · rw [if_pos hcontained]
    obtain ⟨c, hc, hother⟩ | ⟨fault, hfault⟩ := h
    · rw [isContained_iff.mp hcontained c hc] at hother
      exact absurd hother (by simp)
    · rw [hfault]
      exact ⟨_, rfl⟩
  · rw [if_neg hcontained]
    exact ⟨_, rfl⟩

/-! ### Saved resources -/

/-- A file was put at names below a location, and directories where nothing stood on the way to it;
nothing else changed. -/
structure PutBelow (loc : Location) (names : List String) (content : Content) (t t' : Tree) :
    Prop where
  cwd : t'.cwd = t.cwd
  file : t'.get? (loc ++ names) = some (.file content)
  others : ∀ l, l ≠ loc ++ names → t'.get? l = t.get? l ∨
    (loc.Inside l ∧ l.Inside (loc ++ names) ∧ t.get? l = none ∧ t'.get? l = some .directory)

theorem putBelow_of_evolves {content : Content}
    (h : Evolves (OnWay loc names.dropLast) (· = loc ++ names) t t')
    (hfile : t'.get? (loc ++ names) = some (.file content)) : PutBelow loc names content t t' := by
  refine ⟨h.cwd, hfile, fun l hl => ?_⟩
  rcases h.node l with hsame | ⟨hway, hnone, hmade⟩ | ⟨hwritten, -, -⟩
  · exact .inl hsame
  · exact .inr ⟨hway.1, ⟨hway.dropLast.2, hl⟩, hnone, hmade⟩
  · exact absurd hwritten hl

/-- A saved resource has a name with at least one step, as nothing is written over a directory. -/
theorem steps_ne_nil_of_write (hne : dir ≠ "") (hcontained : isContained name = true)
    (h : (room t (Path.join dir name)).write (Path.join dir name) (.bytes data) = .ok t') :
    steps name ≠ [] := by
  intro hnil
  exact write_ne_ok (namesDirectory_join hne (isContained_spec hcontained).1 hnil) h

/-- A name with more than ordinary components, or of a member that cannot be read, changes nothing.
A saved resource is at its names below the directory, under the path that is given back, with the
bytes of the member; on the way to it there may be new directories, and that is all. -/
theorem saving_is_contained (hdir : t.isDirectory dir = true) :
    ((∃ c ∈ components name, isOrdinary c = false) ∨
        (∃ fault, readMember t archive name = .error fault) →
      ∃ causes, saveMember archive name dir t = (t, .failed causes)) ∧
    ∀ t' path, saveMember archive name dir t = (t', .done path) →
      ∃ loc names data, t.locate dir = .ok (loc, .directory) ∧ names ≠ [] ∧
        components path = components dir ++ names.map .name ∧
        readMember t archive name = .ok data ∧
        t'.locate path = .ok (loc ++ names, .file (.bytes data)) ∧
        PutBelow loc names (.bytes data) t t' := by
  refine ⟨saveMember_refused, fun t' path hsaved => ?_⟩
  obtain ⟨loc, hloc⟩ := Tree.isDirectory_iff.mp hdir
  have hne : dir ≠ "" := by
    rintro rfl
    have hcheck := (Tree.locate_eq_ok hloc).1
    exact absurd hcheck (by decide)
  rw [saveMember_eq] at hsaved
  obtain ⟨data, hbytes, rfl, hwrite⟩ := saveFound_done hsaved
  obtain ⟨hcontained, hread⟩ := memberBytes_eq_done hbytes
  obtain ⟨habs, hup⟩ := isContained_spec hcontained
  have hnames := steps_ne_nil_of_write hne hcontained hwrite
  obtain ⟨hfile, hevolves⟩ :=
    write_below (Tree.stands_of_locate hloc) (leads_join habs) hup hnames hwrite
  refine ⟨loc, steps name, data, hloc, hnames, ?_, hread, hfile, ?_⟩
  · rw [components_join habs (.inl hne), map_stepComponent_steps hcontained]
  · exact putBelow_of_evolves hevolves (Tree.locate_eq_ok hfile).2.2.1

/-- A tree with an output directory beside an archive. -/
def treeBesideArchive (resource : String) : Tree :=
  { nodes := [(["out"], .directory),
    (["app.jar"], .file (.archive { members := [⟨resource, [82]⟩] }))] }

/-- A name with repeated slashes and points is saved below the directory, and one that leads back
in the middle does nothing. -/
theorem mixed_name_is_contained :
    (∃ t' path, saveMember "app.jar" "res//./a.txt" "out" (treeBesideArchive "res//./a.txt") =
        (t', .done path) ∧
      PutBelow ["out"] ["res", "a.txt"] (.bytes [82]) (treeBesideArchive "res//./a.txt") t') ∧
    ∃ causes, saveMember "app.jar" "res/../../a.txt" "out" (treeBesideArchive "res/../../a.txt") =
      (treeBesideArchive "res/../../a.txt", .failed causes) := by
  constructor
  · have hdir : (treeBesideArchive "res//./a.txt").isDirectory "out" = true := by decide +kernel
    have hlocate : (treeBesideArchive "res//./a.txt").locate "out" = .ok (["out"], .directory) := by
      decide +kernel
    have hmember : readMember (treeBesideArchive "res//./a.txt") "app.jar" "res//./a.txt" =
        .ok [82] := by
      decide +kernel
    have hdone : (saveMember "app.jar" "res//./a.txt" "out" (treeBesideArchive "res//./a.txt")).2 =
        .done "out/res//./a.txt" := by
      decide +kernel
    have hparts : components "out/res//./a.txt" =
        components "out" ++ ["res", "a.txt"].map Component.name := by
      decide +kernel
    generalize hsaved : saveMember "app.jar" "res//./a.txt" "out"
      (treeBesideArchive "res//./a.txt") = saved at hdone
    obtain ⟨t', outcome⟩ := saved
    obtain rfl : outcome = .done "out/res//./a.txt" := hdone
    obtain ⟨loc, names, data, hloc, -, hpath, hread, -, hput⟩ :=
      (saving_is_contained hdir).2 t' _ hsaved
    obtain ⟨rfl, -⟩ := Prod.mk.inj (Except.ok.inj (hloc.symm.trans hlocate))
    obtain rfl := Except.ok.inj (hread.symm.trans hmember)
    have hnames : names = ["res", "a.txt"] :=
      List.map_injective_iff.mpr (fun a b h => Component.name.inj h)
        (List.append_cancel_left (hpath.symm.trans hparts))
    exact ⟨t', _, rfl, hnames ▸ hput⟩
  · have hdir : (treeBesideArchive "res/../../a.txt").isDirectory "out" = true := by decide +kernel
    have hparent : Component.parent ∈ components "res/../../a.txt" := by decide +kernel
    exact (saving_is_contained hdir).1 (.inl ⟨.parent, hparent, rfl⟩)

end ArchiveScout.Decode
