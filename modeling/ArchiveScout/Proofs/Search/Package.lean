import ArchiveScout.Proofs.Decode.Selection
import ArchiveScout.Proofs.Search.NameSearch

/-!
# ArchiveScout.Proofs.Search.Package

**What is in a package.** A package is written as names between points, a class path as names
between slashes, and a class is in the package if its path begins with the names of the package and
has more of them (`InPackage`). A search asks this of texts with points and a selection of texts
with slashes. Each of them puts its own separator into one of the two texts, which leaves the names
as they are if that separator did not stand there before.
-/

namespace ArchiveScout.Search

open ArchiveScout.Archive (ClassEntry dotted rawName slashed)
open ArchiveScout.Decode (SourceFilter packageStart_iff)
open ArchiveScout.Text (replaceChar splitOn splitOn_begins_iff splitOn_replaced startsWith)

variable {package path : String} {packages : List String}

/-- A class is in a package or in one below it: its path begins with the names of the package, and
there are more. -/
def InPackage (package path : String) : Prop :=
  ∃ inner, inner ≠ [] ∧ splitOn '/' path.toList = splitOn '.' package.toList ++ inner

theorem exists_behind_iff {text front mark : String} {c : Char} (hmark : mark.toList = [c]) :
    (∃ rest, text = front ++ mark ++ rest) ↔ ∃ rest, text.toList = front.toList ++ c :: rest := by
  constructor
  · intro h
    obtain ⟨rest, rfl⟩ := h
    exact ⟨rest.toList, by simp [hmark]⟩
  · intro h
    obtain ⟨rest, htext⟩ := h
    exact ⟨String.ofList rest, String.toList_injective (by simp [htext, hmark])⟩

/-! ### The two tests -/

/-- A search compares the name of a class with points in it. -/
theorem isInPackage_dotted_iff (hpath : '.' ∉ path.toList) :
    isInPackage package (dotted path) = true ↔ InPackage package path := by
  rw [isInPackage_iff, exists_behind_iff (c := '.') rfl, ← splitOn_begins_iff, dotted, replaceChar,
    String.toList_ofList, splitOn_replaced hpath, InPackage]

/-- A selection compares the name of a class in class files. -/
theorem startsWith_packageStart_iff (hpackage : '/' ∉ package.toList) :
    startsWith (SourceFilter.packageStart package) (rawName path) = true ↔
      InPackage package path := by
  rw [packageStart_iff, exists_behind_iff (c := '/') rfl, ← splitOn_begins_iff, slashed, replaceChar,
    String.toList_ofList, splitOn_replaced hpackage, InPackage]

theorem matchesNames_packages_iff (packages : List String) (hpath : '.' ∉ path.toList) :
    matchesNames { packages } (dotted path) = true ↔
      packages = [] ∨ ∃ package ∈ packages, InPackage package path := by
  simp [matchesNames, isInPackage_dotted_iff hpath]

theorem accepts_packages_iff (hpackages : ∀ package ∈ packages, '/' ∉ package.toList)
    (path : String) :
    (SourceFilter.ofSelection packages []).accepts (rawName path) = true ↔
      packages = [] ∨ ∃ package ∈ packages, InPackage package path := by
  rw [SourceFilter.ofSelection]
  by_cases hall : packages = []
  · rw [if_pos ⟨hall, rfl⟩]
    exact iff_of_true rfl (.inl hall)
  · rw [if_neg (mt And.left hall), SourceFilter.accepts, or_iff_right hall, Bool.or_eq_true,
      List.any_map, List.any_eq_true]
    simp only [Function.comp_apply, List.map_nil, List.any_nil, Bool.false_eq_true, or_false]
    exact exists_congr fun package => and_congr_right fun hpackage =>
      startsWith_packageStart_iff (hpackages package hpackage)

/-- A search for packages and a selection of the same packages accept the same classes. If there are
any packages, these are the classes whose paths begin with the names of one of them. -/
theorem search_and_selection_agree_on_packages (packages : List String) (path : String)
    (hpackages : ∀ package ∈ packages, '/' ∉ package.toList) (hpath : '.' ∉ path.toList) :
    (matchesNames { packages } (dotted path) = true ↔
      (SourceFilter.ofSelection packages []).accepts (ClassEntry.ofPath path).rawName = true) ∧
    (packages ≠ [] → (matchesNames { packages } (dotted path) = true ↔
      ∃ package ∈ packages, InPackage package path)) := by
  have hsearch := matchesNames_packages_iff packages hpath
  have hselection := accepts_packages_iff hpackages path
  refine ⟨hsearch.trans hselection.symm, ?_⟩
  intro hany
  rw [hsearch, or_iff_right hany]

/-- A class far below a package is selected with it. A class of another package is not, though the
name of that one goes on from the name of the first. -/
theorem likened_packages_agree :
    (SourceFilter.ofSelection ["ab.net"] []).accepts (ClassEntry.ofPath "ab/net/io/Buf").rawName =
        true ∧
      ¬ ∃ package ∈ ["ab.net"], InPackage package "ab/netx/Http" := by
  have hpackages : ∀ package ∈ ["ab.net"], '/' ∉ package.toList := by decide +kernel
  obtain ⟨hbelow, -⟩ := search_and_selection_agree_on_packages ["ab.net"] "ab/net/io/Buf" hpackages
    (by decide +kernel)
  obtain ⟨-, hlikened⟩ := search_and_selection_agree_on_packages ["ab.net"] "ab/netx/Http" hpackages
    (by decide +kernel)
  refine ⟨hbelow.mp (by decide +kernel), ?_⟩
  rw [← hlikened (by simp)]
  decide +kernel

end ArchiveScout.Search
