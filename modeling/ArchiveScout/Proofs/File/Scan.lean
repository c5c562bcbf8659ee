import ArchiveScout.Proofs.File.Order
import ArchiveScout.Proofs.File.Walk
import ArchiveScout.Proofs.Query.Traversal

/-!
# ArchiveScout.Proofs.File.Scan

**Archives are found in one order.** The workers of a walk deliver the files that they visit in any
order, but each of them once; sorting the archives among them leaves nothing of the order in which
they came. So inputs stand for archives that are told by the tree alone, one input after another,
unless an input is missing, and then the first such input is the error.
-/

namespace ArchiveScout.File

open ArchiveScout.Query (exists_of_forall₂ map_eq_ok map_eq_error mapM_eq_ok mapM_eq_error)
open ArchiveScout.Text (cutLast_append eq_of_cutLast notMem_of_cutLast)
open List (Forall₂)

variable {t : Tree} {dir input path name ext : String} {found delivered archives : List String}
  {w : Walked} {walks walks' : List Walked}

/-! ### Extensions -/

theorem Path.extension?_eq_some : Path.extension? path = some ext ↔
    ∃ stem, Path.fileName? path = some (stem ++ "." ++ ext) ∧ stem ≠ "" ∧ '.' ∉ ext.toList := by
  rw [Path.extension?, Option.bind_eq_some_iff]
  constructor
  · intro h
    obtain ⟨name, hname, h⟩ := h
    split at h
    · rename_i stem cs hcut
      split at h
      · exact absurd h (by simp)
      · rename_i hstem
        obtain rfl := Option.some.inj h
        have hsplit : name = String.ofList stem ++ "." ++ String.ofList cs := by
          apply String.toList_injective
          simp [eq_of_cutLast hcut]
        refine ⟨String.ofList stem, hsplit ▸ hname, by simpa using hstem, ?_⟩
        simpa using notMem_of_cutLast hcut
    · exact absurd h (by simp)
  · intro h
    obtain ⟨stem, hname, hstem, hplain⟩ := h
    refine ⟨_, hname, ?_⟩
    have hlist : (stem ++ "." ++ ext).toList = stem.toList ++ '.' :: ext.toList := by simp
    rw [hlist, cutLast_append _ hplain]
    simp [hstem]

/-- The name of an archive: it ends in a point and the extension of one, up to the case of ASCII
letters, and something stands in front of the point. -/
def HasArchiveExtension (path : String) : Prop :=
  ∃ stem ext, Path.fileName? path = some (stem ++ "." ++ ext) ∧ stem ≠ "" ∧
    ∃ known ∈ archiveExtensions, ext.toList.map Char.toLower = known.toList.map Char.toLower

theorem isArchive_iff : isArchive path = true ↔ HasArchiveExtension path := by
  have hsmall : ∀ known ∈ archiveExtensions, known.toList.map Char.toLower = known.toList := by
    decide
  rw [isArchive]
  constructor
  · intro h
    split at h
    · rename_i ext hext
      obtain ⟨stem, hname, hstem, -⟩ := Path.extension?_eq_some.mp hext
      have hknown := List.contains_iff_mem.mp h
      refine ⟨stem, ext, hname, hstem, _, hknown, ?_⟩
      rw [hsmall _ hknown, String.toList_ofList]
    · exact absurd h (by simp)
  · intro h
    obtain ⟨stem, ext, hname, hstem, known, hknown, hsame⟩ := h
    rw [hsmall known hknown] at hsame
    have hplain : '.' ∉ ext.toList := by
      have hpoints : ∀ known ∈ archiveExtensions, '.' ∉ known.toList := by decide
      intro hmem
      refine hpoints known hknown ?_
      rw [← hsame]
      exact List.mem_map_of_mem hmem
    rw [Path.extension?_eq_some.mpr ⟨stem, hname, hstem, hplain⟩]
    dsimp only
    rw [hsame, String.ofList_toList]
    exact List.contains_iff_mem.mpr hknown

/-! ### Walks -/

/-- What a walk from a directory delivers: each file that it visits, in any order and only once, that
is, no two files with the same components. What is no file may come in between. -/
structure Delivers (t : Tree) (dir : String) (delivered : List String) : Prop where
  files : (delivered.filter t.isFile).Perm ((visited t dir).filter t.isFile)
  once : ((delivered.filter t.isFile).map Path.components).Nodup

/-- The order in which files are visited is one of those in which they can be delivered. -/
theorem Delivers.visited (h : Delivers t dir delivered) : Delivers t dir (visited t dir) :=
  ⟨.refl _, (h.files.map Path.components).nodup_iff.mp h.once⟩

/-- In a tree as a disk has it, the files come once if they come as often as they are visited. -/
theorem Tree.Proper.delivers (h : t.Proper)
    (hfiles : (delivered.filter t.isFile).Perm ((File.visited t dir).filter t.isFile)) :
    Delivers t dir delivered := by
  refine ⟨hfiles, (hfiles.map Path.components).nodup_iff.mpr ?_⟩
  exact (h.nodup_visited dir).sublist (List.filter_sublist.map Path.components)

/-- Walks from directories deliver what they visit. -/
def Delivered (t : Tree) (walks : List Walked) : Prop :=
  ∀ w ∈ walks, t.isDirectory w.input = true → Delivers t w.input w.delivered

theorem archivesOf_eq (t : Tree) (delivered : List String) :
    archivesOf t delivered = (delivered.filter t.isFile).filter isArchive := by
  rw [archivesOf, List.filter_filter]
  exact List.filter_congr fun path _ => Bool.and_comm _ _

/-! ### One input -/

/-- There is neither a file nor a directory. -/
def IsMissing (t : Tree) (input : String) : Prop :=
  t.isFile input = false ∧ t.isDirectory input = false

/-- The archives that an input stands for: a file is taken as it is given, and for a directory these
are the visited files with the extension of an archive, each of them once, in the order of paths. -/
inductive StandsFor (t : Tree) (input : String) : List String → Prop
  | file (hfile : t.isFile input = true) : StandsFor t input [input]
  | directory {found : List String} (hdir : t.isDirectory input = true)
      (hmem : ∀ path, path ∈ found ↔
        path ∈ visited t input ∧ t.isFile path = true ∧ HasArchiveExtension path)
      (hascending : found.Pairwise Path.Before) : StandsFor t input found

theorem isFile_of_isDirectory (h : t.isDirectory path = true) : t.isFile path = false := by
  obtain ⟨loc, hloc⟩ := Tree.isDirectory_iff.mp h
  rw [Tree.isFile, hloc]

theorem StandsFor.unique {found' : List String} (h : StandsFor t input found)
    (h' : StandsFor t input found') : found = found' := by
  cases h with
  | file hfile =>
      cases h' with
      | file => rfl
      | directory hdir => exact absurd (isFile_of_isDirectory hdir) (by simp [hfile])
  | directory hdir hmem hascending =>
      cases h' with
      | file hfile => exact absurd (isFile_of_isDirectory hdir) (by simp [hfile])
      | directory _ hmem' hascending' =>
          refine hascending.eq_of_mem_iff hascending' fun path => ?_
          rw [hmem, hmem']

/-- However the files of a directory were delivered, sorting finds what it stands for. -/
theorem standsFor_sorted (hdir : t.isDirectory input = true) (h : Delivers t input delivered) :
    StandsFor t input (Path.sorted (archivesOf t delivered)) := by
  refine .directory hdir (fun path => ?_) (Path.pairwise_before_sorted ?_)
  · have hvisited : path ∈ delivered.filter t.isFile ↔ path ∈ (visited t input).filter t.isFile :=
      h.files.mem_iff
    rw [Path.mem_sorted, archivesOf_eq, List.mem_filter, hvisited, List.mem_filter, isArchive_iff,
      and_assoc]
  · rw [archivesOf_eq]
    exact h.once.sublist (List.filter_sublist.map Path.components)

theorem expandInput_eq_ok (h : t.isDirectory w.input = true → Delivers t w.input w.delivered) :
    expandInput t w = .ok found ↔ StandsFor t w.input found := by
  rw [expandInput]
  by_cases hdir : t.isDirectory w.input = true
  · have hsorted := standsFor_sorted hdir (h hdir)
    rw [if_pos hdir, Except.ok.injEq]
    exact ⟨fun hsame => hsame ▸ hsorted, hsorted.unique⟩
  · rw [if_neg hdir]
    by_cases hfile : t.isFile w.input = true
    · rw [if_pos hfile, Except.ok.injEq]
      exact ⟨fun hsame => hsame ▸ .file hfile, (StandsFor.file hfile).unique⟩
    · rw [if_neg hfile]
      refine iff_of_false (by simp) fun hstands => ?_
      cases hstands with
      | file hfile' => exact hfile hfile'
      | directory hdir' => exact hdir hdir'

theorem expandInput_eq_error :
    expandInput t w = .error input ↔ IsMissing t w.input ∧ w.input = input := by
  rw [expandInput, IsMissing]
  cases t.isDirectory w.input <;> cases t.isFile w.input <;> simp

theorem exists_expandInput : (∃ found, expandInput t w = .ok found) ↔ ¬ IsMissing t w.input := by
  rw [expandInput, IsMissing]
  cases t.isDirectory w.input <;> cases t.isFile w.input <;> simp

/-! ### Inputs one after another -/

/-- The first of some inputs that is missing. -/
def FirstMissing (t : Tree) (inputs : List String) (input : String) : Prop :=
  ∃ front back, inputs = front ++ input :: back ∧ IsMissing t input ∧
    ∀ other ∈ front, ¬ IsMissing t other

theorem expandWalked_eq_error :
    expandWalked t walks = .error input ↔ FirstMissing t (walks.map Walked.input) input := by
  rw [expandWalked, map_eq_error, mapM_eq_error]
  constructor
  · intro h
    obtain ⟨front, w, back, rfl, hfront, hfails⟩ := h
    obtain ⟨hmissing, rfl⟩ := expandInput_eq_error.mp hfails
    refine ⟨front.map Walked.input, back.map Walked.input, by simp, hmissing, ?_⟩
    intro other hother
    obtain ⟨before, hbefore, rfl⟩ := List.mem_map.mp hother
    exact exists_expandInput.mp (hfront before hbefore)
  · intro h
    obtain ⟨inputs, more, hinputs, hmissing, hfirst⟩ := h
    obtain ⟨front, rest, rfl, rfl, hrest⟩ := List.map_eq_append_iff.mp hinputs
    obtain ⟨w, back, rfl, rfl, -⟩ := List.map_eq_cons_iff.mp hrest
    refine ⟨front, w, back, rfl, fun before hbefore => ?_, expandInput_eq_error.mpr ⟨hmissing, rfl⟩⟩
    exact exists_expandInput.mpr (hfirst _ (List.mem_map_of_mem hbefore))

theorem expandWalked_eq_ok (h : Delivered t walks) : expandWalked t walks = .ok archives ↔
    ∃ parts, Forall₂ (StandsFor t) (walks.map Walked.input) parts ∧ archives = parts.flatten := by
  rw [expandWalked, map_eq_ok]
  refine exists_congr fun parts => and_congr_left fun _ => ?_
  rw [mapM_eq_ok, List.forall₂_map_left_iff]
  constructor
  · intro hfound
    exact ((List.forall₂_and_left _ _).mpr ⟨h, hfound⟩).imp fun w found hboth =>
      (expandInput_eq_ok hboth.1).mp hboth.2
  · intro hstands
    exact ((List.forall₂_and_left _ _).mpr ⟨h, hstands⟩).imp fun w found hboth =>
      (expandInput_eq_ok hboth.1).mpr hboth.2

theorem expandWalked_append (t : Tree) (walks more : List Walked) :
    expandWalked t (walks ++ more) =
      return (← expandWalked t walks) ++ (← expandWalked t more) := by
  simp [expandWalked, List.mapM_append]

/-- What walks deliver makes no difference, as long as they deliver what they visit. -/
theorem expandWalked_eq (h : Delivered t walks) (h' : Delivered t walks')
    (hsame : walks.map Walked.input = walks'.map Walked.input) :
    expandWalked t walks = expandWalked t walks' := by
  cases hwalks : expandWalked t walks with
  | error input => rw [eq_comm, expandWalked_eq_error, ← hsame, ← expandWalked_eq_error, hwalks]
  | ok archives =>
      rw [eq_comm, expandWalked_eq_ok h', ← hsame, ← expandWalked_eq_ok h, hwalks]

/-- Expanding inputs fails just when one of them is missing. -/
theorem exists_error_iff :
    (∃ input, expandWalked t walks = .error input) ↔ ∃ w ∈ walks, IsMissing t w.input := by
  constructor
  · intro h
    obtain ⟨input, hfails⟩ := h
    obtain ⟨front, back, hinputs, hmissing, -⟩ := expandWalked_eq_error.mp hfails
    have hmem : input ∈ walks.map Walked.input := by simp [hinputs]
    obtain ⟨w, hw, rfl⟩ := List.mem_map.mp hmem
    exact ⟨w, hw, hmissing⟩
  · intro h
    obtain ⟨w, hw, hmissing⟩ := h
    cases hresult : expandWalked t walks with
    | error input => exact ⟨input, rfl⟩
    | ok archives =>
        obtain ⟨parts, hparts, -⟩ := map_eq_ok.mp hresult
        obtain ⟨found, -, hfound⟩ := exists_of_forall₂ (mapM_eq_ok.mp hparts) hw
        exact absurd hmissing (exists_expandInput.mp ⟨found, hfound⟩)

/-- Inputs are expanded with walks that deliver what they visit. -/
theorem Delivered.visited (h : Delivered t walks) :
    Delivered t ((walks.map Walked.input).map fun input => ⟨input, File.visited t input⟩) := by
  intro w hw hdir
  rw [List.map_map, List.mem_map] at hw
  obtain ⟨w, hw, rfl⟩ := hw
  exact (h w hw hdir).visited

/-- Inputs stand for archives just when none of them is missing, and the first missing one is the
error. The archives are those of one input after another; the order in which walks deliver files
leaves no trace in them; and more inputs behind the given ones add their archives behind. -/
theorem expansion_is_complete_and_ordered (h : Delivered t walks) :
    ((∃ input, expandWalked t walks = .error input) ↔ ∃ w ∈ walks, IsMissing t w.input) ∧
    (∀ input, expandWalked t walks = .error input ↔
      FirstMissing t (walks.map Walked.input) input) ∧
    (∀ archives, expandWalked t walks = .ok archives ↔
      ∃ parts, Forall₂ (StandsFor t) (walks.map Walked.input) parts ∧ archives = parts.flatten) ∧
    (∀ walks', Delivered t walks' → walks'.map Walked.input = walks.map Walked.input →
      expandWalked t walks' = expandWalked t walks) ∧
    expandInputs t (walks.map Walked.input) = expandWalked t walks ∧
    ∀ more, expandWalked t (walks ++ more) =
      return (← expandWalked t walks) ++ (← expandWalked t more) := by
  refine ⟨exists_error_iff, fun input => expandWalked_eq_error,
    fun archives => expandWalked_eq_ok h, ?_, ?_, expandWalked_append t walks⟩
  · intro walks' h' hsame
    exact expandWalked_eq h' h hsame
  · refine expandWalked_eq h.visited h ?_
    rw [List.map_map]
    exact List.map_id _

/-- An archive without members. -/
def emptyArchive : Node := .file (.archive { members := [] })

/-- A directory with archives at several depths. -/
def library : Tree where
  nodes := [(["single.dex"], emptyArchive), (["libs"], .directory), (["libs", "a-b"], .directory),
    (["libs", "a-b", "c.jar"], emptyArchive), (["libs", "a"], .directory),
    (["libs", "a", "Z.JAR"], emptyArchive), (["libs", "a.jar"], emptyArchive),
    (["libs", "notes.txt"], .file (.bytes []))]

/-- What the walk of a library may deliver. -/
def libraryWalks : List Walked :=
  [⟨"single.dex", []⟩,
    ⟨"libs", ["libs/notes.txt", "libs/a.jar", "libs", "libs/a-b/c.jar", "libs/a", "libs/a/Z.JAR",
      "libs/a-b"]⟩]

/-- Files of a directory `a` come before those of `a-b`, and these before `a.jar`, in whatever order
they are delivered. -/
theorem library_is_expanded_in_order : Delivered library libraryWalks ∧
    expandWalked library libraryWalks =
      .ok ["single.dex", "libs/a/Z.JAR", "libs/a-b/c.jar", "libs/a.jar"] := by
  have hproper : library.Proper := ⟨by decide +kernel, by decide +kernel⟩
  have hdelivered : Delivered library libraryWalks := by
    intro w hw hdir
    refine hproper.delivers ?_
    rcases List.mem_pair.mp hw with rfl | rfl
    · exact absurd hdir (by decide +kernel)
    · decide +kernel
  obtain ⟨-, -, hok, -⟩ := expansion_is_complete_and_ordered hdelivered
  have hsorted : Path.sorted (archivesOf library (visited library "libs")) =
      ["libs/a/Z.JAR", "libs/a-b/c.jar", "libs/a.jar"] :=
    Path.sorted_eq (by decide +kernel) (by decide +kernel)
  have hlibs : StandsFor library "libs" ["libs/a/Z.JAR", "libs/a-b/c.jar", "libs/a.jar"] :=
    hsorted ▸ standsFor_sorted (by decide +kernel) (hproper.delivers (.refl _))
  refine ⟨hdelivered, (hok _).mpr
    ⟨[["single.dex"], ["libs/a/Z.JAR", "libs/a-b/c.jar", "libs/a.jar"]], ?_, rfl⟩⟩
  exact .cons (.file (by decide +kernel)) (.cons hlibs .nil)

end ArchiveScout.File
