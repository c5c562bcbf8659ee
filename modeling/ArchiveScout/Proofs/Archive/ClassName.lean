import ArchiveScout.Decode.Selection
import ArchiveScout.Proofs.Archive.ClassEntry

/-!
# ArchiveScout.Proofs.Archive.ClassName

**Two ways from a class to its name in class files.** A path is put between `L` and a semicolon; a
name in source code is read as the name of a type first, which may be primitive or an array. A class
with a binary name is never taken for an array, but a class in no package may be called as a
primitive type is, and then the two ways part.
-/

namespace ArchiveScout.Archive

open ArchiveScout.Decode (SourceFilter)
open ArchiveScout.File (Path.pieces)
open ArchiveScout.Text (endsWith joinWith joinWith_splitOn)

variable {path path' name letter : String} {c : Char} {results : List String}

/-! ### Binary names -/

theorem mem_joinWith {sep : Char} {pieces : List (List Char)} (h : c ∈ joinWith sep pieces) :
    c = sep ∨ ∃ piece ∈ pieces, c ∈ piece := by
  match pieces with
  | [] => exact absurd h List.not_mem_nil
  | [piece] => exact .inr ⟨piece, List.mem_singleton_self _, h⟩
  | piece :: next :: rest =>
      rw [joinWith, List.mem_append, List.mem_cons] at h
      · rcases h with hpiece | hsep | hrest
        · exact .inr ⟨piece, List.mem_cons_self, hpiece⟩
        · exact .inl hsep
        · rcases mem_joinWith hrest with hsep | ⟨other, hother, hc⟩
          · exact .inl hsep
          · exact .inr ⟨other, List.mem_cons_of_mem _ hother, hc⟩
      · simp

/-- What stands in no name of a path stands in the path at slashes only. -/
theorem notMem_of_pieces (hslash : c ≠ '/') (h : ∀ piece ∈ Path.pieces path, c ∉ piece.toList) :
    c ∉ path.toList := by
  intro hmem
  rw [← joinWith_splitOn '/' path.toList] at hmem
  rcases mem_joinWith hmem with hsep | ⟨piece, hpiece, hc⟩
  · exact hslash hsep
  · refine h _ (List.mem_map_of_mem hpiece) ?_
    rwa [String.toList_ofList]

namespace IsBinaryName

variable (h : IsBinaryName path)
include h

theorem notMem_point : '.' ∉ path.toList :=
  notMem_of_pieces (by decide) fun piece hpiece => (h piece hpiece).2.1

theorem notMem_bracket : '[' ∉ path.toList :=
  notMem_of_pieces (by decide) fun piece hpiece => (h piece hpiece).2.2.2

theorem ne_empty : path ≠ "" := by
  rintro rfl
  exact (h "" (by decide)).1 rfl

theorem slashed_dotted : slashed (dotted path) = path :=
  Text.replaceChar_replaceChar h.notMem_point

/-- Brackets do not come in with points. -/
theorem notMem_bracket_dotted : '[' ∉ (dotted path).toList := by
  simp only [dotted, Text.replaceChar, String.toList_ofList, List.mem_map, not_exists, not_and]
  intro c hc
  split
  · decide
  · rintro rfl
    exact h.notMem_bracket hc

theorem dotted_ne_empty : dotted path ≠ "" := by
  intro hempty
  have hlist := congrArg String.toList hempty
  refine h.ne_empty (String.toList_injective ?_)
  simpa [dotted, Text.replaceChar] using hlist

end IsBinaryName

/-! ### Names in class files -/

/-- The names of primitive types. -/
def primitiveNames : List String := primitiveTable.map (·.1)

/-- A name that does not end in a pair of brackets has no dimensions. -/
theorem dimensions_of_not_array (h : endsWith "[]" name = false) :
    dimensions name.toList.reverse = (0, name.toList.reverse) := by
  rw [dimensions]
  intro cs hcs
  have hname : name.toList = cs.reverse ++ "[]".toList := by
    rw [← List.reverse_reverse name.toList, hcs]
    simp
  rw [endsWith, hname, Bool.eq_false_iff] at h
  exact h (List.isSuffixOf_iff_suffix.mpr (List.suffix_append _ _))

theorem not_array_of_notMem (h : '[' ∉ name.toList) : endsWith "[]" name = false := by
  rw [Bool.eq_false_iff]
  intro hends
  exact h ((List.isSuffixOf_iff_suffix.mp hends).subset (by simp))

theorem internalName_of_not_array (hne : name ≠ "") (h : endsWith "[]" name = false) :
    internalName name = elementName name := by
  rw [internalName, if_neg (mt String.isEmpty_iff.mp hne), dimensions_of_not_array h]
  simp

/-- A class is taken for what its name stands for first. -/
theorem internalName_dotted (h : IsBinaryName path) :
    internalName (dotted path) = elementName (dotted path) :=
  internalName_of_not_array h.dotted_ne_empty (not_array_of_notMem h.notMem_bracket_dotted)

theorem rawName_injective (h : rawName path = rawName path') : path = path' := by
  have hlist := congrArg String.toList h
  apply String.toList_injective
  simpa [rawName] using hlist

/-- Primitive types have one letter, and classes have more. -/
theorem letter_ne_rawName (h : (name, letter) ∈ primitiveTable) (path : String) :
    letter ≠ rawName path := by
  have hone : ∀ entry ∈ primitiveTable, entry.2.toList.length = 1 := by decide
  intro hsame
  have hlength := hone _ h
  rw [hsame] at hlength
  simp [rawName] at hlength

theorem elementName_of_mem (h : (name, letter) ∈ primitiveTable) : elementName name = letter := by
  have hall : ∀ entry ∈ primitiveTable, elementName entry.1 = entry.2 := by decide +kernel
  exact hall _ h

theorem elementName_of_notMem (h : name ∉ primitiveNames) :
    elementName name = rawName (slashed name) := by
  have hlookup : primitiveTable.lookup name = none := by
    rw [List.lookup_eq_none_iff]
    intro entry hentry
    have hne : name ≠ entry.1 := by
      intro hsame
      exact h (hsame ▸ List.mem_map_of_mem hentry)
    simpa using hne
  rw [elementName, hlookup]
  rfl

/-- A name is looked up among those of primitive types first. -/
theorem elementName_cases (name : String) :
    (∃ letter, (name, letter) ∈ primitiveTable ∧ elementName name = letter) ∨
      name ∉ primitiveNames ∧ elementName name = rawName (slashed name) := by
  by_cases h : name ∈ primitiveNames
  · obtain ⟨⟨_, letter⟩, hentry, rfl⟩ := List.mem_map.mp h
    exact .inl ⟨letter, hentry, elementName_of_mem hentry⟩
  · exact .inr ⟨h, elementName_of_notMem h⟩

/-- The two ways agree unless the class is called as a primitive type is. -/
theorem internalName_eq_rawName_iff (h : IsBinaryName path) :
    internalName (dotted path) = rawName path' ↔ path = path' ∧ dotted path ∉ primitiveNames := by
  rw [internalName_dotted h]
  rcases elementName_cases (dotted path) with ⟨letter, hentry, helement⟩ | ⟨hclass, helement⟩
  · rw [helement]
    refine iff_of_false (letter_ne_rawName hentry path') ?_
    exact fun hsame => hsame.2 (List.mem_map_of_mem hentry)
  · rw [helement, h.slashed_dotted]
    exact ⟨fun hsame => ⟨rawName_injective hsame, hclass⟩, fun hsame => hsame.1 ▸ rfl⟩

/-- The classes that a search found are selected by their names in class files, but for those that
are called as primitive types are. -/
theorem ofResults_accepts (hresults : ∀ name ∈ results, ∃ path, IsBinaryName path ∧
    dotted path = name) (h : IsBinaryName path) :
    (SourceFilter.ofResults results).accepts (rawName path) = true ↔
      dotted path ∈ results ∧ dotted path ∉ primitiveNames := by
  rw [SourceFilter.ofResults, SourceFilter.accepts, List.contains_iff_mem, List.mem_map]
  constructor
  · rintro ⟨name, hname, hsame⟩
    obtain ⟨found, hfound, rfl⟩ := hresults name hname
    obtain ⟨rfl, hclass⟩ := (internalName_eq_rawName_iff hfound).mp hsame
    exact ⟨hname, hclass⟩
  · rintro ⟨hname, hclass⟩
    exact ⟨dotted path, hname, (internalName_eq_rawName_iff h).mpr ⟨rfl, hclass⟩⟩

end ArchiveScout.Archive
