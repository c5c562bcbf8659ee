import ArchiveScout.Proofs.Archive.ClassName
import ArchiveScout.Proofs.Search.NameSearch

/-!
# ArchiveScout.Proofs.Archive.TypeName

**Names of types can be read back.** The brackets in front of a name in class files are the
dimensions of an array, and what stands behind them is a letter or a class between `L` and a
semicolon; neither begins with a bracket. `sourceName` reads such a name. It gives every name without
slashes back, so different ones have different names in class files.
-/

namespace ArchiveScout.Archive

open ArchiveScout.Decode (SourceFilter)
open ArchiveScout.File (Tree)
open ArchiveScout.Search (Request Session exists_class_of_result nameEngine)

variable {name letter : String} {cs : List Char} {results : List String}

/-! ### Arrays -/

/-- The name of an array of a type, with a number of dimensions. -/
def arrayOf (name : String) : Nat → String
  | 0 => name
  | k + 1 => arrayOf name k ++ "[]"

/-- Brackets in front of a name. -/
def brackets (k : Nat) : String := String.ofList (List.replicate k '[')

theorem brackets_succ (k : Nat) : brackets (k + 1) = "[" ++ brackets k := by
  apply String.toList_injective
  simp [brackets, List.replicate_succ]

theorem dimensions_pair (cs : List Char) :
    dimensions (']' :: '[' :: cs) = ((dimensions cs).1 + 1, (dimensions cs).2) := rfl

/-- Pairs of brackets are dimensions of what stands in front of them. -/
theorem eq_arrayOf_dimensions (cs : List Char) : String.ofList cs.reverse =
    arrayOf (String.ofList (dimensions cs).2.reverse) (dimensions cs).1 := by
  induction cs using dimensions.induct with
  | case1 cs _ _ _ ih =>
      rw [dimensions_pair, arrayOf, ← ih]
      apply String.toList_injective
      simp
  | case2 cs hcs =>
      rw [dimensions]
      · rfl
      · exact hcs

/-- A name is that of an element with a number of dimensions, and so it is converted. -/
theorem exists_element (h : name ≠ "") : ∃ element k, name = arrayOf element k ∧
    internalName name = brackets k ++ elementName element := by
  have harray := eq_arrayOf_dimensions name.toList.reverse
  rw [List.reverse_reverse, String.ofList_toList] at harray
  refine ⟨_, _, harray, ?_⟩
  rw [internalName, if_neg (mt String.isEmpty_iff.mp h)]
  rfl

/-- One dimension more is one bracket more. -/
theorem internalName_append_pair (h : name ≠ "") :
    internalName (name ++ "[]") = "[" ++ internalName name := by
  have hreverse : (name ++ "[]").toList.reverse = ']' :: '[' :: name.toList.reverse := by simp
  have hne : name ++ "[]" ≠ "" := by simp
  rw [internalName, if_neg (mt String.isEmpty_iff.mp hne), hreverse, dimensions_pair, internalName,
    if_neg (mt String.isEmpty_iff.mp h)]
  exact (congrArg (· ++ _) (brackets_succ _)).trans String.append_assoc

theorem arrayOf_ne_empty (h : name ≠ "") (k : Nat) : arrayOf name k ≠ "" := by
  cases k with
  | zero => exact h
  | succ k => simp [arrayOf]

theorem internalName_arrayOf (h : name ≠ "") (k : Nat) :
    internalName (arrayOf name k) = brackets k ++ internalName name := by
  induction k with
  | zero => exact (String.empty_append).symm
  | succ k ih =>
      rw [arrayOf, internalName_append_pair (arrayOf_ne_empty h k), ih, brackets_succ,
        String.append_assoc]

/-- Dimensions have no slashes. -/
theorem slash_mem_arrayOf_iff (name : String) (k : Nat) :
    '/' ∈ (arrayOf name k).toList ↔ '/' ∈ name.toList := by
  induction k with
  | zero => exact Iff.rfl
  | succ k ih => simp [arrayOf, ih]

/-! ### Reading back -/

/-- The name in source code of a class or primitive type. What is not the letter of a primitive type
is a class between `L` and a semicolon. -/
def sourceElement (internal : String) : String :=
  match primitiveTable.find? (·.2 == internal) with
  | some entry => entry.1
  | none => dotted (String.ofList internal.toList.tail.dropLast)

/-- The name in source code of a type. -/
def sourceName : List Char → String
  | '[' :: cs => sourceName cs ++ "[]"
  | cs => sourceElement (String.ofList cs)

theorem sourceName_of_head?_ne (h : cs.head? ≠ some '[') :
    sourceName cs = sourceElement (String.ofList cs) := by
  rw [sourceName]
  intro rest hcs
  exact h (by rw [hcs, List.head?_cons])

theorem sourceElement_letter (h : (name, letter) ∈ primitiveTable) :
    sourceElement letter = name := by
  have hall : ∀ entry ∈ primitiveTable, sourceElement entry.2 = entry.1 := by decide +kernel
  exact hall _ h

theorem sourceElement_rawName (path : String) : sourceElement (rawName path) = dotted path := by
  have hnone : primitiveTable.find? (·.2 == rawName path) = none := by
    refine List.find?_eq_none.mpr fun entry hentry => ?_
    simpa using letter_ne_rawName hentry path
  rw [sourceElement, hnone]
  simp [rawName]

theorem sourceElement_elementName (h : '/' ∉ name.toList) :
    sourceElement (elementName name) = name := by
  rcases elementName_cases name with ⟨letter, hentry, helement⟩ | ⟨-, helement⟩
  · rw [helement, sourceElement_letter hentry]
  · rw [helement, sourceElement_rawName]
    exact Text.replaceChar_replaceChar h

theorem elementName_head?_ne (name : String) : (elementName name).toList.head? ≠ some '[' := by
  rcases elementName_cases name with ⟨letter, hentry, helement⟩ | ⟨-, helement⟩
  · have hall : ∀ entry ∈ primitiveTable, entry.2.toList.head? ≠ some '[' := by decide +kernel
    rw [helement]
    exact hall _ hentry
  · rw [helement]
    simp [rawName]

theorem sourceName_brackets (k : Nat) (cs : List Char) :
    sourceName ((brackets k).toList ++ cs) = arrayOf (sourceName cs) k := by
  induction k with
  | zero => rfl
  | succ k ih =>
      have hlist : (brackets (k + 1)).toList = '[' :: (brackets k).toList := by
        rw [brackets_succ]
        simp
      rw [hlist, List.cons_append, sourceName, ih, arrayOf]

/-- Names without slashes are read back. -/
theorem sourceName_internalName (h : '/' ∉ name.toList) :
    sourceName (internalName name).toList = name := by
  by_cases hempty : name = ""
  · rw [hempty]
    decide +kernel
  · obtain ⟨element, k, rfl, hinternal⟩ := exists_element hempty
    rw [slash_mem_arrayOf_iff] at h
    rw [hinternal, String.toList_append, sourceName_brackets,
      sourceName_of_head?_ne (elementName_head?_ne element), String.ofList_toList,
      sourceElement_elementName h]

theorem internalName_injOn {a b : String} (ha : '/' ∉ a.toList) (hb : '/' ∉ b.toList)
    (h : internalName a = internalName b) : a = b := by
  rw [← sourceName_internalName ha, h, sourceName_internalName hb]

/-! ### Results -/

theorem slash_notMem_dotted (path : String) : '/' ∉ (dotted path).toList := by
  simp only [dotted, Text.replaceChar, String.toList_ofList, List.mem_map, not_exists, not_and]
  intro c _
  split
  · decide
  · assumption

/-- Results select no names but their own. -/
theorem ofResults_accepts_iff (hresults : ∀ result ∈ results, '/' ∉ result.toList)
    (h : '/' ∉ name.toList) :
    (SourceFilter.ofResults results).accepts (internalName name) = true ↔ name ∈ results := by
  rw [SourceFilter.ofResults, SourceFilter.accepts, List.contains_iff_mem, List.mem_map]
  constructor
  · intro haccepted
    obtain ⟨result, hresult, hsame⟩ := haccepted
    rwa [← internalName_injOn (hresults result hresult) h hsame]
  · intro hname
    exact ⟨name, hname, rfl⟩

/-- Names of types without slashes have different names in class files, and each dimension of an
array is a bracket in front. So results without slashes select, among such names, those that are
results; and what a search by names finds has no slashes. -/
theorem internal_names_tell_types_apart :
    (∀ a b : String, '/' ∉ a.toList → '/' ∉ b.toList → internalName a = internalName b → a = b) ∧
    (∀ (name : String) (k : Nat), name ≠ "" →
      internalName (arrayOf name k) = brackets k ++ internalName name) ∧
    (∀ (results : List String) (name : String), (∀ result ∈ results, '/' ∉ result.toList) →
      '/' ∉ name.toList →
        ((SourceFilter.ofResults results).accepts (internalName name) = true ↔ name ∈ results)) ∧
    ∀ (s : Session) (request : Request) (t : Tree) (archive : String),
      ∀ result ∈ (s.searchFor request nameEngine t archive).2.results, '/' ∉ result.toList := by
  refine ⟨fun a b => internalName_injOn, fun name k h => internalName_arrayOf h k,
    fun results name => ofResults_accepts_iff, ?_⟩
  intro s request t archive result hresult
  obtain ⟨members, -, path, -, rfl⟩ := exists_class_of_result hresult
  exact slash_notMem_dotted path

/-- An array of a primitive type is told from one of a class that is called as its letter, and a
class inside of a result from the result. -/
theorem likened_types_are_told_apart :
    internalName "int[]" ≠ internalName "I[]" ∧
      internalName (arrayOf "java.lang.String" 2) = "[[Ljava/lang/String;" ∧
      (SourceFilter.ofResults ["com.app.Main"]).accepts (internalName "com.app.Main$1") = false := by
  obtain ⟨hinjective, harray, haccepts, -⟩ := internal_names_tell_types_apart
  refine ⟨?_, ?_, ?_⟩
  · intro hsame
    exact absurd (hinjective _ _ (by decide +kernel) (by decide +kernel) hsame) (by decide)
  · rw [harray "java.lang.String" 2 (by decide)]
    decide +kernel
  · rw [Bool.eq_false_iff, ne_eq, haccepts _ _ (by decide +kernel) (by decide +kernel)]
    decide

end ArchiveScout.Archive
