import ArchiveScout.Archive.Catalog
import ArchiveScout.Proofs.Archive.ClassEntry

/-!
# ArchiveScout.Proofs.Archive.Reading

**Reading the listed members of an archive.** Listing writes backslashes as slashes, and reading
takes names as they are: what is read under a listed name is the last member with exactly that name.
For a name without backslashes that no other member has this is the listed member itself. A member
with a backslash in its name is not found, or another one is read in its place.
-/

namespace ArchiveScout.Archive

open ArchiveScout.File (Member Tree)

variable {t : Tree} {path name : String} {members : List Member} {m last : Member}
  {data : List UInt8}

/-! ### The last member with a name -/

/-- A member with a name behind which no other one has the name. -/
def LastNamed (members : List Member) (name : String) (last : Member) : Prop :=
  ∃ front back, members = front ++ last :: back ∧ last.name = name ∧
    ∀ other ∈ back, other.name ≠ name

theorem findMember?_eq_some :
    findMember? members name = some last ↔ LastNamed members name last := by
  rw [findMember?, List.find?_eq_some_iff_append]
  constructor
  · rintro ⟨hname, back, front, hmembers, hback⟩
    refine ⟨front.reverse, back.reverse, ?_, by simpa using hname, fun other hother => ?_⟩
    · rw [← List.reverse_reverse members, hmembers]
      simp
    · simpa using hback other (List.mem_reverse.mp hother)
  · rintro ⟨front, back, rfl, hname, hback⟩
    refine ⟨by simpa using hname, back.reverse, front.reverse, by simp, fun other hother => ?_⟩
    simpa using hback other (List.mem_reverse.mp hother)

theorem findMember?_eq_none :
    findMember? members name = none ↔ ∀ other ∈ members, other.name ≠ name := by
  rw [findMember?, List.find?_eq_none]
  simp

theorem readMember_eq (h : openArchive t path = .ok members) (name : String) :
    readMember t path name =
      match findMember? members name with
      | some last => .ok last.data
      | none => .error (.noMember name) := by
  rw [readMember, h]
  rfl

theorem readMember_eq_ok (h : openArchive t path = .ok members) :
    readMember t path name = .ok data ↔ ∃ last, LastNamed members name last ∧ last.data = data := by
  rw [readMember_eq h]
  constructor
  · intro hread
    split at hread
    · rename_i last hfind
      exact ⟨last, findMember?_eq_some.mp hfind, Except.ok.inj hread⟩
    · exact absurd hread (by simp)
  · rintro ⟨last, hlast, rfl⟩
    rw [findMember?_eq_some.mpr hlast]

theorem readMember_eq_noMember (h : openArchive t path = .ok members) :
    readMember t path name = .error (.noMember name) ↔ ∀ other ∈ members, other.name ≠ name := by
  rw [readMember_eq h, ← findMember?_eq_none]
  cases findMember? members name <;> simp

/-! ### Listed names -/

theorem listedName_eq_self (h : '\\' ∉ name.toList) : listedName name = name := by
  apply String.toList_injective
  rw [listedName, Text.replaceChar, String.toList_ofList]
  refine (List.map_congr_left fun c hc => if_neg ?_).trans (List.map_id _)
  rintro rfl
  exact h hc

/-- The resources of an archive are its members that are neither directories nor classes, under
their listed names. -/
theorem mem_resources : name ∈ (Catalog.ofMembers members).resources ↔
    ∃ m ∈ members, isDirectoryName m.name = false ∧ listedName m.name = name ∧
      classPath? name = none := by
  simp only [Catalog.ofMembers, mem_sorted, List.mem_filter, List.mem_map, Bool.not_eq_true',
    Option.isNone_iff_eq_none]
  constructor
  · rintro ⟨⟨m, ⟨hmem, hfile⟩, rfl⟩, hclass⟩
    exact ⟨m, hmem, hfile, rfl, hclass⟩
  · rintro ⟨m, hmem, hfile, rfl, hclass⟩
    exact ⟨⟨m, ⟨hmem, hfile⟩, rfl⟩, hclass⟩

/-- Under the name that a resource is listed by, the last member of exactly that name is read, if
there is one. The resource itself is read if its name has no backslashes and no later member has it
too. -/
theorem listed_resource_reads (hopen : openArchive t path = .ok members) (hmem : m ∈ members)
    (hfile : isDirectoryName m.name = false) (hresource : classPath? (listedName m.name) = none) :
    (∃ listed, catalog t path = .ok listed ∧ listedName m.name ∈ listed.resources) ∧
      (∀ data, readMember t path (listedName m.name) = .ok data ↔
        ∃ last, LastNamed members (listedName m.name) last ∧ last.data = data) ∧
      (readMember t path (listedName m.name) = .error (.noMember (listedName m.name)) ↔
        ∀ other ∈ members, other.name ≠ listedName m.name) ∧
      ('\\' ∉ m.name.toList → LastNamed members m.name m →
        readMember t path (listedName m.name) = .ok m.data) := by
  refine ⟨⟨Catalog.ofMembers members, ?_, ?_⟩, fun data => readMember_eq_ok hopen,
    readMember_eq_noMember hopen, fun hplain hlast => ?_⟩
  · rw [catalog, hopen]
    rfl
  · exact mem_resources.mpr ⟨m, hmem, hfile, rfl, hresource⟩
  · rw [listedName_eq_self hplain]
    exact (readMember_eq_ok hopen).mpr ⟨m, hlast, rfl⟩

/-- A tree with an archive. -/
def treeWithMembers (members : List Member) : Tree :=
  { nodes := [(["app.jar"], .file (.archive members))] }

/-- The later one of two members with one name is read under it. -/
theorem repeated_resource_reads :
    LastNamed [⟨"a.txt", [1]⟩, ⟨"a.txt", [2]⟩] "a.txt" ⟨"a.txt", [2]⟩ ∧
      readMember (treeWithMembers [⟨"a.txt", [1]⟩, ⟨"a.txt", [2]⟩]) "app.jar" "a.txt" =
        .ok [2] := by
  have hlast : LastNamed [⟨"a.txt", [1]⟩, ⟨"a.txt", [2]⟩] "a.txt" ⟨"a.txt", [2]⟩ :=
    ⟨[⟨"a.txt", [1]⟩], [], rfl, rfl, fun other hother => absurd hother List.not_mem_nil⟩
  have hopen : openArchive (treeWithMembers [⟨"a.txt", [1]⟩, ⟨"a.txt", [2]⟩]) "app.jar" =
      .ok [⟨"a.txt", [1]⟩, ⟨"a.txt", [2]⟩] := by decide +kernel
  have hmem : (⟨"a.txt", [1]⟩ : Member) ∈ [⟨"a.txt", [1]⟩, ⟨"a.txt", [2]⟩] := by decide
  obtain ⟨-, hreads, -, -⟩ := listed_resource_reads hopen hmem (by decide) (by decide)
  exact ⟨hlast, (hreads [2]).mpr ⟨_, hlast, rfl⟩⟩

/-- A member with backslashes is listed and not found; beside the member that its listed name
belongs to, that one is read instead. -/
theorem backslashed_resource_is_lost :
    (catalog (treeWithMembers [⟨"res\\s.xml", [1]⟩]) "app.jar" = .ok ⟨[], ["res/s.xml"]⟩ ∧
      readMember (treeWithMembers [⟨"res\\s.xml", [1]⟩]) "app.jar" "res/s.xml" =
        .error (.noMember "res/s.xml")) ∧
    readMember (treeWithMembers [⟨"res\\s.xml", [1]⟩, ⟨"res/s.xml", [2]⟩]) "app.jar"
      (listedName "res\\s.xml") = .ok [2] := by
  refine ⟨⟨?_, by decide +kernel⟩, by decide +kernel⟩
  have hnames : (["res/s.xml"].filter fun name => (classPath? name).isNone) = ["res/s.xml"] := by
    decide +kernel
  have hclasses : ["res/s.xml"].filterMap classPath? = [] := by decide +kernel
  have hlisted : (([⟨"res\\s.xml", [1]⟩] : List Member).filter fun m =>
      !isDirectoryName m.name).map (fun m => listedName m.name) = ["res/s.xml"] := by
    decide +kernel
  rw [catalog, show openArchive (treeWithMembers [⟨"res\\s.xml", [1]⟩]) "app.jar" =
    .ok [⟨"res\\s.xml", [1]⟩] from rfl]
  simp only [bind, Except.bind, Catalog.ofMembers, hlisted, hclasses, hnames]
  rw [sorted_eq_self List.Pairwise.nil, sorted_eq_self (List.pairwise_singleton _ _)]
  rfl

end ArchiveScout.Archive
