import ArchiveScout.Proofs.Archive.ClassName
import ArchiveScout.Proofs.Archive.Grouping
import ArchiveScout.Proofs.Decode.Containment
import ArchiveScout.Proofs.Text.Split

/-!
# ArchiveScout.Proofs.Decode.Selection

**What packages and classes select.** Names are compared as class files have them, by their
beginnings. A class path starts after the letter `L` and is followed by a semicolon, which no path
has in it; so the slash that ends a package and the character that has to follow a class stand
where the names in the paths end, and no name is selected by one that it merely starts with.
-/

namespace ArchiveScout.Decode

open ArchiveScout.Archive (ClassEntry aliasPath_mem elementName_of_notMem groupClasses internalName
  internalName_of_not_array mem_inner primitiveNames rawName slashed sorted_eq_self topLevelClass)
open ArchiveScout.Text (dropHead?_eq_some dropTail?_eq_some endsWith startsWith startsWith_iff)

variable {package name path text : String} {packages classes paths : List String}
  {entry : ClassEntry}

/-! ### Selected paths -/

/-- A name that can only stand for a class: no array and no primitive type. -/
structure IsClassName (name : String) : Prop where
  ne_empty : name ≠ ""
  not_array : endsWith "[]" name = false
  not_primitive : name ∉ primitiveNames

/-- The class with a path is in one of the packages, or it is one of the classes or inside of
it. -/
def Selects (packages classes : List String) (path : String) : Prop :=
  (∃ package ∈ packages, ∃ rest, path = slashed package ++ "/" ++ rest) ∨
    ∃ name ∈ classes, path = slashed name ∨ ∃ rest, path = slashed name ++ "$" ++ rest

/-! ### Beginnings -/

instance (packages classes : List String) (path : String) :
    Decidable (Selects packages classes path) :=
  decidable_of_iff
    (packages.any (fun package => startsWith (slashed package ++ "/") path) ||
      classes.any fun name => path == slashed name || startsWith (slashed name ++ "$") path)
    (by simp only [Bool.or_eq_true, List.any_eq_true, startsWith_iff, beq_iff_eq, Selects])

/-- What does not end the way a text does ends inside of the text. -/
theorem exists_concat_of_append {start rest cs : List Char} {last c : Char} (hne : c ≠ last)
    (h : cs ++ [last] = start ++ c :: rest) : ∃ rest', cs = start ++ c :: rest' := by
  rcases List.eq_nil_or_concat rest with rfl | ⟨rest', d, rfl⟩
  · obtain ⟨-, hback⟩ := List.append_inj' h rfl
    exact absurd (List.cons.inj hback).1.symm hne
  · rw [List.concat_eq_append, ← List.cons_append, ← List.append_assoc] at h
    exact ⟨rest', (List.append_inj' h rfl).1⟩

/-- A package starts the name of a class if it and a slash start the path. -/
theorem packageStart_iff : startsWith (SourceFilter.packageStart package) (rawName path) = true ↔
    ∃ rest, path = slashed package ++ "/" ++ rest := by
  rw [startsWith_iff, SourceFilter.packageStart, rawName]
  constructor
  · rintro ⟨rest, hrest⟩
    have hlist : path.toList ++ [';'] = (slashed package).toList ++ '/' :: rest.toList := by
      have hchars := congrArg String.toList hrest
      simpa using hchars
    obtain ⟨rest', hpath⟩ := exists_concat_of_append (by decide) hlist
    exact ⟨String.ofList rest', String.toList_injective (by simp [hpath])⟩
  · rintro ⟨rest, rfl⟩
    exact ⟨rest ++ ";", String.toList_injective (by simp)⟩

/-! ### Classes -/

theorem IsClassName.internalName_eq (h : IsClassName name) :
    internalName name = rawName (slashed name) :=
  (internalName_of_not_array h.ne_empty h.not_array).trans (elementName_of_notMem h.not_primitive)

theorem IsClassName.classStart_eq (h : IsClassName name) :
    SourceFilter.classStart name = "L" ++ slashed name := by
  have hdrop : Text.dropTail? [';'] (rawName (slashed name)).toList =
      some ("L" ++ slashed name).toList := dropTail?_eq_some.mpr (by simp [rawName])
  rw [SourceFilter.classStart, h.internalName_eq]
  simp [hdrop]

theorem isClassOrInner_iff {start : String} : SourceFilter.isClassOrInner start text = true ↔
    ∃ c rest, text.toList = start.toList ++ c :: rest ∧ (c = ';' ∨ c = '$') := by
  rw [SourceFilter.isClassOrInner]
  constructor
  · intro h
    split at h
    · rename_i c rest hdrop
      exact ⟨c, rest, dropHead?_eq_some.mp hdrop, by simpa using h⟩
    · exact absurd h (by simp)
  · rintro ⟨c, rest, htext, hc⟩
    rw [dropHead?_eq_some.mpr htext]
    simpa using hc

/-- A path without semicolons is that of a class, or one inside of it, if its name starts with that
of the class and a semicolon or dollar sign. -/
theorem classStart_iff (hname : IsClassName name) (hpath : ';' ∉ path.toList) :
    SourceFilter.isClassOrInner (SourceFilter.classStart name) (rawName path) = true ↔
      path = slashed name ∨ ∃ rest, path = slashed name ++ "$" ++ rest := by
  rw [hname.classStart_eq, isClassOrInner_iff]
  have hraw : (rawName path).toList = 'L' :: (path.toList ++ [';']) := by simp [rawName]
  have hstart : ("L" ++ slashed name).toList = 'L' :: (slashed name).toList := by simp
  simp only [hraw, hstart, List.cons_append, List.cons.injEq, true_and]
  constructor
  · rintro ⟨c, rest, htext, rfl | rfl⟩
    · -- The semicolon is the last one, as the path has none.
      rcases List.eq_nil_or_concat rest with rfl | ⟨rest', last, rfl⟩
      · obtain ⟨hsame, -⟩ := List.append_inj' htext rfl
        exact .inl (String.toList_injective hsame)
      · rw [List.concat_eq_append, ← List.cons_append, ← List.append_assoc] at htext
        obtain ⟨hsame, -⟩ := List.append_inj' htext rfl
        exact absurd (by simp [hsame]) hpath
    · obtain ⟨rest', hsame⟩ := exists_concat_of_append (by decide) htext
      exact .inr ⟨String.ofList rest', String.toList_injective (by simp [hsame])⟩
  · rintro (rfl | ⟨rest, rfl⟩)
    · exact ⟨';', [], rfl, .inl rfl⟩
    · exact ⟨'$', rest.toList ++ [';'], by simp, .inr rfl⟩

/-! ### Entries -/

theorem accepts_ofSelection (hclasses : ∀ name ∈ classes, IsClassName name)
    (hpath : ';' ∉ path.toList) :
    (SourceFilter.ofSelection packages classes).accepts (rawName path) = true ↔
      (packages = [] ∧ classes = []) ∨ Selects packages classes path := by
  rw [SourceFilter.ofSelection]
  by_cases hall : packages = [] ∧ classes = []
  · rw [if_pos hall]
    exact iff_of_true rfl (.inl hall)
  · rw [if_neg hall, SourceFilter.accepts, Bool.or_eq_true, List.any_map, List.any_map,
      List.any_eq_true, List.any_eq_true, or_iff_right hall, Selects]
    simp only [Function.comp_apply]
    refine or_congr (exists_congr fun package => and_congr_right fun _ => packageStart_iff) ?_
    exact exists_congr fun name => and_congr_right fun hname =>
      classStart_iff (hclasses name hname) hpath

/-- An entry is written if nothing is selected at all, or if its class or one inside of it is
selected: by a package in front of a slash, or by a class that ends where the path does or in front
of a dollar sign. -/
theorem selection_is_exact (hpaths : ∀ path ∈ paths, ';' ∉ path.toList)
    (hclasses : ∀ name ∈ classes, IsClassName name) (hentry : entry ∈ groupClasses paths) :
    isEligible (.ofSelection packages classes) entry = true ↔
      (packages = [] ∧ classes = []) ∨
        ∃ path ∈ entry.aliasPath :: entry.inner, Selects packages classes path := by
  have hraw : entry.rawName = rawName entry.aliasPath := by
    rw [ofPath_of_mem_groupClasses hentry]
    rfl
  have hgiven : ∀ path ∈ entry.aliasPath :: entry.inner, ';' ∉ path.toList := by
    intro path hpath
    rcases List.mem_cons.mp hpath with rfl | hinner
    · exact hpaths _ (aliasPath_mem hentry)
    · exact hpaths path ((mem_inner hentry).mp hinner).1
  calc isEligible (.ofSelection packages classes) entry = true
    _ ↔ ∃ path ∈ entry.aliasPath :: entry.inner,
          (SourceFilter.ofSelection packages classes).accepts (rawName path) = true := by
        rw [isEligible, hraw, Bool.or_eq_true, List.any_eq_true]
        simp
    _ ↔ ∃ path ∈ entry.aliasPath :: entry.inner,
          (packages = [] ∧ classes = []) ∨ Selects packages classes path :=
        exists_congr fun path => and_congr_right fun hpath =>
          accepts_ofSelection hclasses (hgiven path hpath)
    _ ↔ _ := by simp [and_or_left, exists_or]

/-- Classes with names that go on from each other. -/
def likenedPaths : List String :=
  ["ab/Outer", "ab/Outer$Main", "ab/Outer$Main$1", "ab/OuterX", "ab/net/Http", "ab/netx/Http",
    "cd/Outer", "cd/Outer$MainX"]

theorem groupClasses_likenedPaths : groupClasses likenedPaths =
    [.ofPath "ab/Outer" ["ab/Outer$Main", "ab/Outer$Main$1"], .ofPath "ab/OuterX",
      .ofPath "ab/net/Http", .ofPath "ab/netx/Http", .ofPath "cd/Outer" ["cd/Outer$MainX"]] := by
  have htops : likenedPaths.map (topLevelClass likenedPaths.contains) =
      ["ab/Outer", "ab/Outer", "ab/Outer", "ab/OuterX", "ab/net/Http", "ab/netx/Http", "cd/Outer",
        "cd/Outer"] := by
    decide +kernel
  rw [groupClasses, htops, sorted_eq_self (by decide)]
  decide +kernel

/-- A class is written with the one that it is inside of, and a name that only goes on from a
selected one is not selected. -/
theorem inner_class_selects_entry :
    (groupClasses likenedPaths).map (fun entry => (entry.aliasPath,
        isEligible (.ofSelection ["ab.net"] ["ab.Outer$Main", "cd.Outer$Main"]) entry)) =
      [("ab/Outer", true), ("ab/OuterX", false), ("ab/net/Http", true), ("ab/netx/Http", false),
        ("cd/Outer", false)] := by
  have hclasses : ∀ name ∈ ["ab.Outer$Main", "cd.Outer$Main"], IsClassName name := by
    intro name hname
    simp only [List.mem_cons, List.not_mem_nil, or_false] at hname
    obtain rfl | rfl := hname <;> exact ⟨by decide +kernel, by decide +kernel, by decide +kernel⟩
  have hpaths : ∀ path ∈ likenedPaths, ';' ∉ path.toList := by decide +kernel
  calc
    _ = (groupClasses likenedPaths).map fun entry => (entry.aliasPath,
          (entry.aliasPath :: entry.inner).any
            (Selects ["ab.net"] ["ab.Outer$Main", "cd.Outer$Main"])) := by
      refine List.map_congr_left fun entry hentry => ?_
      rw [Prod.mk.injEq, Bool.eq_iff_iff, selection_is_exact hpaths hclasses hentry]
      simp
    _ = _ := by
      rw [groupClasses_likenedPaths]
      decide +kernel

end ArchiveScout.Decode
