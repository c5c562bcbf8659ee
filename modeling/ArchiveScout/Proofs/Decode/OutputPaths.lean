import ArchiveScout.Decode.FailureLog
import ArchiveScout.Decode.OutputPaths
import ArchiveScout.Proofs.File.Tree
import Mathlib.Data.List.Nodup
import Mathlib.Data.List.Perm.Subperm

/-!
# ArchiveScout.Proofs.Decode.OutputPaths

**The files of a class, by name.** Whatever the base name, the last step of a candidate is
its last piece with the suffix and the ending behind it, so candidates with different
indices have different names. Each index that is not free is so because of a name that has
been handed out or exists; there are fewer of these than indices that are tried, so the
search ends at the first index with which both files are free.
-/

namespace ArchiveScout.Decode

open ArchiveScout.Archive (ClassEntry)
open ArchiveScout.File
open ArchiveScout.File.Path (Leads components_eq exists_last_piece isStep join lead
  pieces_append_of_notMem stepComponent steps_eq)
open ArchiveScout.File.Tree (steps)

/-- The folder for a kind of text, where output is not flattened. -/
def Kind.folder : Kind → String
  | .java => "java"
  | .smali => "smali"

/-- The ending of the files of a kind. -/
def Kind.ending : Kind → String
  | .java => ".java"
  | .smali => ".smali"

namespace PathResolver

variable {r : PathResolver} {t : Tree} {base last : String} {init : List String} {n m : Nat}
  {kind kind' : Kind}

/-! ### Names of candidates -/

/-- What stands behind the base name for an index. -/
def suffix (index : Nat) : String := if index ≤ 1 then "" else "~" ++ toString index

theorem stem_eq (base : String) (n : Nat) : stem base n = base ++ suffix n := by
  rw [stem, suffix]
  split
  · exact String.append_empty.symm
  · exact String.append_assoc

theorem suffix_injective (hn : 1 ≤ n) (hm : 1 ≤ m) (h : suffix n = suffix m) : n = m := by
  rw [suffix, suffix] at h
  split at h <;> split at h
  · omega
  · exact absurd (congrArg String.toList h) (by simp)
  · exact absurd (congrArg String.toList h) (by simp)
  · have hdigits : Nat.toDigits 10 n = Nat.toDigits 10 m := by
      simpa using congrArg String.toList h
    have hvalue := congrArg (Nat.ofDigitChars 10 · 0) hdigits
    simpa [Nat.ofDigitChars_ten_toDigits] using hvalue

/-- The path of a candidate below the folder of its kind. -/
def fileName (base : String) (n : Nat) (kind : Kind) : String := stem base n ++ kind.ending

/-- The folder of a kind. -/
def folder (r : PathResolver) (kind : Kind) : String :=
  if r.flatten then r.root else join r.root kind.folder

theorem candidate_of (r : PathResolver) (base : String) (n : Nat) (kind : Kind) :
    (r.candidate base n).of kind = join (r.folder kind) (fileName base n kind) := by
  cases kind <;> cases h : r.flatten <;> simp [candidate, OutputPaths.of, folder, h] <;> rfl

theorem slash_notMem_suffix (n : Nat) (kind : Kind) : '/' ∉ (suffix n ++ kind.ending).toList := by
  have hending : '/' ∉ kind.ending.toList := by cases kind <;> decide
  rw [suffix]
  split
  · simpa using hending
  · have hdigits : '/' ∉ Nat.toDigits 10 n := by
      intro hmem
      have hdigit := Nat.isDigit_of_mem_toDigits (by decide) (by decide) hmem
      exact absurd hdigit (by decide)
    simpa [hending] using hdigits

theorem pieces_fileName (n : Nat) (kind : Kind) (h : Path.pieces base = init ++ [last]) :
    Path.pieces (fileName base n kind) = init ++ [last ++ (suffix n ++ kind.ending)] := by
  rw [fileName, stem_eq, String.append_assoc]
  exact pieces_append_of_notMem (slash_notMem_suffix n kind) h

theorem isStep_of_ending (text : String) (kind : Kind) :
    isStep (text ++ kind.ending) = true ∧ text ++ kind.ending ≠ ".." := by
  have hne : ∀ short : String, short.length < 4 → text ++ kind.ending ≠ short := by
    rintro short hshort rfl
    rw [String.length_append] at hshort
    have hending : 5 ≤ kind.ending.length := by cases kind <;> decide
    omega
  refine ⟨?_, hne ".." (by decide)⟩
  simp [isStep, hne "" (by decide), hne "." (by decide)]

theorem steps_fileName (n : Nat) (kind : Kind) (h : Path.pieces base = init ++ [last]) :
    steps (fileName base n kind) =
      init.filter isStep ++ [last ++ (suffix n ++ kind.ending)] := by
  have hstep := (isStep_of_ending (last ++ suffix n) kind).1
  rw [String.append_assoc] at hstep
  rw [steps_eq, pieces_fileName n kind h, List.filter_append, List.filter_cons_of_pos hstep]
  rfl

theorem isAbsolute_fileName (base : String) (n : Nat) (kind : Kind) :
    Path.isAbsolute (fileName base n kind) = Path.isAbsolute base := by
  rw [fileName, stem_eq, String.append_assoc]
  by_cases hbase : base = ""
  · have hslash := slash_notMem_suffix n kind
    subst hbase
    have hhead : (suffix n ++ kind.ending).toList.head? ≠ some '/' :=
      fun hhead => hslash (List.mem_of_head? hhead)
    have hempty : Path.isAbsolute "" = false := rfl
    rw [String.empty_append, hempty, Path.isAbsolute]
    exact decide_eq_false hhead
  · exact Path.isAbsolute_append hbase _

/-- The last step of a candidate. -/
def lastName (base : String) (n : Nat) (kind : Kind) : String :=
  ((Path.pieces base).getLast (Path.pieces_ne_nil base)) ++ (suffix n ++ kind.ending)

theorem pieces_eq_dropLast (base : String) : Path.pieces base =
    (Path.pieces base).dropLast ++ [(Path.pieces base).getLast (Path.pieces_ne_nil base)] :=
  (List.dropLast_concat_getLast (Path.pieces_ne_nil base)).symm

theorem lastName_ne_up (base : String) (n : Nat) (kind : Kind) : lastName base n kind ≠ ".." := by
  rw [lastName, ← String.append_assoc]
  exact (isStep_of_ending _ kind).2

theorem lastName_injective (hn : 1 ≤ n) (hm : 1 ≤ m)
    (h : lastName base n kind = lastName base m kind') : n = m ∧ kind = kind' := by
  have htail : suffix n ++ kind.ending = suffix m ++ kind'.ending := by
    have hlist := congrArg String.toList h
    simp only [lastName, String.toList_append, List.append_cancel_left_eq] at hlist
    exact String.toList_injective (by simpa using hlist)
  have hkind : kind = kind' := by
    have hend := congrArg (fun text => text.toList.getLast?) htail
    simp only [String.toList_append, List.getLast?_append] at hend
    cases kind <;> cases kind' <;> first | rfl | exact absurd hend (by simp [Kind.ending])
  subst hkind
  have hsuffix := congrArg String.toList htail
  rw [String.toList_append, String.toList_append, List.append_cancel_right_eq] at hsuffix
  exact ⟨suffix_injective hn hm (String.toList_injective hsuffix), rfl⟩

/-- No file of a class has the name of the log. -/
theorem lastName_ne_log (base : String) (n : Nat) (kind : Kind) :
    lastName base n kind ≠ failureLogName := by
  intro h
  have hend := congrArg (fun text => text.toList.getLast?) h
  simp only [lastName, String.toList_append, List.getLast?_append] at hend
  cases kind <;> exact absurd hend (by simp [Kind.ending, failureLogName])

/-- Every candidate ends in its last name. -/
theorem steps_candidate (r : PathResolver) (base : String) (n : Nat) (kind : Kind) :
    ∃ front, steps ((r.candidate base n).of kind) = front ++ [lastName base n kind] := by
  have hfile := steps_fileName n kind (pieces_eq_dropLast base)
  rw [candidate_of]
  cases habs : Path.isAbsolute (fileName base n kind) with
  | true =>
      have hjoin : join (r.folder kind) (fileName base n kind) = fileName base n kind := by
        simp [join, habs]
      exact ⟨_, hjoin ▸ hfile⟩
  | false =>
      rw [Path.steps_join habs, hfile, ← List.append_assoc]
      exact ⟨_, rfl⟩

/-! ### Below the output directory -/

/-- A base name that does not lead outside. Its last piece may be two points, which the ending
makes a name. -/
def StaysBelow (base : String) : Prop :=
  Path.isAbsolute base = false ∧ ".." ∉ (Path.pieces base).dropLast

instance (base : String) : Decidable (StaysBelow base) :=
  inferInstanceAs (Decidable (_ ∧ _))

/-- The names that lead from the output directory to a candidate. -/
def names (flatten : Bool) (base : String) (n : Nat) (kind : Kind) : List String :=
  (if flatten then [] else [kind.folder]) ++ steps (fileName base n kind)

theorem steps_fileName_eq (base : String) (n : Nat) (kind : Kind) : steps (fileName base n kind) =
    (Path.pieces base).dropLast.filter isStep ++ [lastName base n kind] :=
  steps_fileName n kind (pieces_eq_dropLast base)

theorem folder_ne_empty (h : r.root ≠ "") (kind : Kind) : r.folder kind ≠ "" := by
  rw [folder]
  split
  · exact h
  · exact Path.join_ne_empty (by cases kind <;> decide)

/-- The names of a candidate end in its last name. -/
theorem getLast?_names (flatten : Bool) (base : String) (n : Nat) (kind : Kind) :
    (names flatten base n kind).getLast? = some (lastName base n kind) := by
  rw [names, steps_fileName_eq, ← List.append_assoc, List.getLast?_concat]

/-- No file of a class is in place of the log. -/
theorem names_ne_log (flatten : Bool) (base : String) (n : Nat) (kind : Kind) :
    names flatten base n kind ≠ [failureLogName] := by
  intro h
  have hlast := getLast?_names flatten base n kind
  rw [h, List.getLast?_singleton] at hlast
  exact lastName_ne_log base n kind (Option.some.inj hlast).symm

/-- The names of a candidate are never on the way to another one of the same base name. -/
theorem names_prefix_free {flatten : Bool}
    (h : names flatten base n kind <+: names flatten base m kind') :
    names flatten base n kind = names flatten base m kind' := by
  refine h.eq_of_length ?_
  rw [names, names, steps_fileName_eq, steps_fileName_eq]
  cases flatten <;> simp

/-- The names for an index are never the beginning of those for another one. -/
theorem index_eq_of_names {flatten : Bool} (hn : 1 ≤ n) (hm : 1 ≤ m)
    (h : names flatten base n kind <+: names flatten base m kind') : n = m := by
  have hlast := getLast?_names flatten base n kind
  rw [names_prefix_free h, getLast?_names] at hlast
  exact (lastName_injective hn hm (Option.some.inj hlast).symm).1

theorem leads_folder (r : PathResolver) (kind : Kind) :
    Leads r.root (r.folder kind) (if r.flatten then [] else [kind.folder]) := by
  rw [folder]
  cases r.flatten with
  | true => exact .refl r.root
  | false => cases kind <;> exact Path.leads_join (by decide)

theorem leads_candidate (h : Path.isAbsolute base = false) (r : PathResolver) (n : Nat)
    (kind : Kind) : Leads r.root ((r.candidate base n).of kind) (names r.flatten base n kind) := by
  rw [candidate_of, names]
  exact (r.leads_folder kind).trans (Path.leads_join ((isAbsolute_fileName base n kind).trans h))

theorem up_mem_steps_fileName_iff (base : String) (n : Nat) (kind : Kind) :
    ".." ∈ steps (fileName base n kind) ↔ ".." ∈ (Path.pieces base).dropLast := by
  have hstep : isStep ".." = true := by decide
  rw [steps_fileName_eq, List.mem_append, List.mem_singleton, List.mem_filter]
  simp [hstep, (lastName_ne_up base n kind).symm]

theorem names_ne_nil (flatten : Bool) (base : String) (n : Nat) (kind : Kind) :
    names flatten base n kind ≠ [] := by
  simp [names, steps_fileName_eq]

theorem up_notMem_names (h : StaysBelow base) (flatten : Bool) (n : Nat) (kind : Kind) :
    ".." ∉ names flatten base n kind := by
  have hfolder : ".." ∉ (if flatten then [] else [kind.folder]) := by
    cases flatten <;> cases kind <;> decide
  rw [names, List.mem_append, not_or]
  exact ⟨hfolder, fun hup => h.2 ((up_mem_steps_fileName_iff base n kind).mp hup)⟩

/-- The components of a candidate whose base name stays below: those of the output directory,
and then names. -/
theorem components_candidate (h : StaysBelow base) (r : PathResolver) (n : Nat) (kind : Kind)
    (hlead : r.folder kind ≠ "" ∨ (Path.pieces (fileName base n kind)).head? ≠ some ".") :
    Path.components ((r.candidate base n).of kind) =
      Path.components r.root ++ (names r.flatten base n kind).map .name := by
  have hrel := (isAbsolute_fileName base n kind).trans h.1
  have hup := up_notMem_names h r.flatten n kind
  have hnames : (names r.flatten base n kind).map stepComponent =
      (names r.flatten base n kind).map .name := by
    refine List.map_congr_left fun name hname => ?_
    have hne : name ≠ ".." := by
      rintro rfl
      exact hup hname
    rw [stepComponent, if_neg hne]
  have hfolder : Path.components (r.folder kind) = Path.components r.root ++
      (if r.flatten then [] else [kind.folder]).map stepComponent := by
    rw [folder]
    cases r.flatten with
    | true => simp
    | false => cases kind <;> exact Path.components_join (by decide) (.inr (by decide))
  rw [← hnames, candidate_of, Path.components_join hrel hlead, hfolder, List.append_assoc,
    ← List.map_append]
  rfl

/-- The path of a candidate can stand for a file. -/
theorem namesDirectory_candidate (h : Path.isAbsolute base = false) (hroot : r.root ≠ "") (n : Nat)
    (kind : Kind) : Tree.namesDirectory ((r.candidate base n).of kind) = false := by
  have hrel := (isAbsolute_fileName base n kind).trans h
  obtain ⟨front, hpieces, -, -⟩ := Path.pieces_join hrel (folder_ne_empty hroot kind)
  have hstep := (isStep_of_ending
    ((Path.pieces base).getLast (Path.pieces_ne_nil base) ++ suffix n) kind).1
  rw [String.append_assoc] at hstep
  rw [candidate_of, Tree.namesDirectory, hpieces, pieces_fileName n kind (pieces_eq_dropLast base),
    ← List.append_assoc, List.getLast?_concat]
  have hup := lastName_ne_up base n kind
  rw [lastName] at hup
  simpa [isStep, hup] using hstep

/-! ### Free indices -/

/-- The last names of what has been handed out and of what exists. -/
def takenNames (r : PathResolver) (t : Tree) : List String :=
  (r.assigned.filterMap fun cs => match cs.getLast? with
    | some (.name text) => some text
    | _ => none) ++ t.nodes.filterMap fun entry => entry.1.getLast?

theorem length_takenNames_lt (r : PathResolver) (t : Tree) :
    (r.takenNames t).length < r.searchBound t := by
  rw [takenNames, List.length_append, searchBound]
  have h₁ := List.length_filterMap_le (fun cs : List Component => match cs.getLast? with
    | some (.name text) => some text
    | _ => none) r.assigned
  have h₂ := List.length_filterMap_le (fun entry : Location × Node => entry.1.getLast?) t.nodes
  omega

theorem lastName_mem_of_exists? (h : t.exists? ((r.candidate base n).of kind) = true) :
    lastName base n kind ∈ r.takenNames t := by
  obtain ⟨loc, node, hlocate⟩ := Tree.exists?_iff.mp h
  obtain ⟨-, hdown, hnode, -⟩ := Tree.locate_eq_ok hlocate
  obtain ⟨front, hfront⟩ := r.steps_candidate base n kind
  rw [hfront, Tree.descend_concat_ok] at hdown
  obtain ⟨outer, -, hstep⟩ := hdown
  have hloc := Tree.descend_eq_append (by simpa [eq_comm] using lastName_ne_up base n kind) hstep
  obtain ⟨entry, hentry, hkey⟩ := Tree.mem_nodes_of_get? hnode (by simp [hloc])
  refine List.mem_append_right _ (List.mem_filterMap.mpr ⟨entry, hentry, ?_⟩)
  rw [hkey, hloc, List.getLast?_concat]

theorem lastName_mem_of_assigned
    (h : Path.components ((r.candidate base n).of kind) ∈ r.assigned) :
    lastName base n kind ∈ r.takenNames t := by
  obtain ⟨front, hfront⟩ := r.steps_candidate base n kind
  refine List.mem_append_left _ (List.mem_filterMap.mpr ⟨_, h, ?_⟩)
  have hlast : (Path.components ((r.candidate base n).of kind)).getLast? =
      some (.name (lastName base n kind)) := by
    rw [components_eq, hfront, List.map_append, List.map_singleton, ← List.append_assoc,
      List.getLast?_concat, stepComponent, if_neg (lastName_ne_up base n kind)]
  rw [hlast]

theorem bothFree_iff : r.bothFree t base n = true ↔ ∀ kind,
    Path.components ((r.candidate base n).of kind) ∉ r.assigned ∧
      t.exists? ((r.candidate base n).of kind) = false := by
  constructor
  · intro h kind
    cases kind <;> simp_all [bothFree, isFree, OutputPaths.of]
  · intro h
    have hjava := h .java
    have hsmali := h .smali
    simp_all [bothFree, isFree, OutputPaths.of]

/-- An index that is not free has a name that is taken. -/
theorem exists_taken_of_not_bothFree (h : r.bothFree t base n = false) :
    ∃ kind, lastName base n kind ∈ r.takenNames t := by
  by_contra hnone
  rw [not_exists] at hnone
  have hfree : r.bothFree t base n = true := by
    refine bothFree_iff.mpr fun kind => ⟨fun hmem => hnone kind (lastName_mem_of_assigned hmem), ?_⟩
    by_contra hexists
    exact hnone kind (lastName_mem_of_exists? (by simpa using hexists))
  rw [hfree] at h
  exact absurd h (by simp)

/-- There are fewer taken names than indices that are tried. -/
theorem exists_bothFree (r : PathResolver) (t : Tree) (base : String) :
    ∃ i < r.searchBound t, r.bothFree t base (i + 1) = true := by
  by_contra hnone
  have htaken : ∀ i, ∃ kind, i < r.searchBound t → lastName base (i + 1) kind ∈ r.takenNames t := by
    intro i
    by_cases hi : i < r.searchBound t
    · have hno : r.bothFree t base (i + 1) = false := by
        by_contra hfree
        exact hnone ⟨i, hi, by simpa using hfree⟩
      obtain ⟨kind, hkind⟩ := exists_taken_of_not_bothFree hno
      exact ⟨kind, fun _ => hkind⟩
    · exact ⟨.java, fun h => absurd h hi⟩
  choose kinds hkinds using htaken
  -- Different indices have different names, so there are too many of them.
  have hnodup :
      ((List.range (r.searchBound t)).map fun i => lastName base (i + 1) (kinds i)).Nodup := by
    refine List.Nodup.map (fun i j hij => ?_) List.nodup_range
    exact Nat.succ.inj (lastName_injective (by omega) (by omega) hij).1
  have hsubset : ((List.range (r.searchBound t)).map fun i => lastName base (i + 1) (kinds i)) ⊆
      r.takenNames t := by
    intro name hname
    obtain ⟨i, hi, rfl⟩ := List.mem_map.mp hname
    exact hkinds i (List.mem_range.mp hi)
  have hlength := (List.subperm_of_subset hnodup hsubset).length_le
  rw [List.length_map, List.length_range] at hlength
  exact absurd (length_takenNames_lt r t) (Nat.not_lt.mpr hlength)

/-- The search gives the first index with which both files are free. -/
theorem freeIndex_spec (r : PathResolver) (t : Tree) (base : String) :
    1 ≤ r.freeIndex t base ∧ r.bothFree t base (r.freeIndex t base) = true ∧
      ∀ m, 1 ≤ m → m < r.freeIndex t base → r.bothFree t base m = false := by
  obtain ⟨i, hi, hfree⟩ := r.exists_bothFree t base
  rw [freeIndex]
  cases hfind : (List.range (r.searchBound t)).find? fun i => r.bothFree t base (i + 1) with
  | none => exact absurd hfree (by simpa using List.find?_range_eq_none.mp hfind i hi)
  | some j =>
      obtain ⟨hj, -, hleast⟩ := List.find?_range_eq_some.mp hfind
      refine ⟨by simp, hj, fun m hm hlt => ?_⟩
      have hno := hleast (m - 1) (by simp at hlt; omega)
      simpa [Nat.sub_add_cancel hm] using hno

end PathResolver

/-! ### Handing out -/

variable {r r' : PathResolver} {kind kind' : Kind}

/-- What a resolver remembers of the files of a class. -/
def OutputPaths.keys (paths : OutputPaths) : List (List Component) :=
  [Path.components paths.java, Path.components paths.smali]

theorem OutputPaths.mem_keys {paths : OutputPaths} {key : List Component} :
    key ∈ paths.keys ↔ ∃ kind, key = Path.components (paths.of kind) := by
  rw [keys, List.mem_cons, List.mem_singleton]
  constructor
  · rintro (rfl | rfl)
    · exact ⟨.java, rfl⟩
    · exact ⟨.smali, rfl⟩
  · rintro ⟨kind, rfl⟩
    cases kind
    · exact .inl rfl
    · exact .inr rfl

theorem PathResolver.candidate_congr (hroot : r.root = r'.root) (hflatten : r.flatten = r'.flatten)
    (base : String) (n : Nat) : r.candidate base n = r'.candidate base n := by
  rw [candidate, candidate, hroot, hflatten]

theorem PathResolver.baseOf_congr (hflatten : r.flatten = r'.flatten) (entry : ClassEntry) :
    r.baseOf entry = r'.baseOf entry := by
  rw [baseOf, baseOf, hflatten]

/-- The two files of a candidate have different names. -/
theorem PathResolver.components_ne (r : PathResolver) (base : String) (n : Nat) (hn : 1 ≤ n)
    (h : kind ≠ kind') : Path.components ((r.candidate base n).of kind) ≠
      Path.components ((r.candidate base n).of kind') := by
  intro heq
  obtain ⟨front, hfront⟩ := r.steps_candidate base n kind
  obtain ⟨front', hfront'⟩ := r.steps_candidate base n kind'
  have hlast := congrArg List.getLast? heq
  rw [File.Path.components_eq, File.Path.components_eq, hfront, hfront', List.map_append,
    List.map_append, List.map_singleton, List.map_singleton, ← List.append_assoc,
    ← List.append_assoc, List.getLast?_concat, List.getLast?_concat] at hlast
  have hname := File.Path.stepComponent_injective (Option.some.inj hlast)
  exact h (lastName_injective hn hn hname).2

/-- What is handed out is new. -/
theorem PathResolver.resolve_spec (r : PathResolver) (t : Tree) (entry : ClassEntry) :
    (r.resolve t entry).2 =
        { r with assigned := (r.resolve t entry).1.keys ++ r.assigned } ∧
      (r.resolve t entry).1.keys.Nodup ∧ ∀ key ∈ (r.resolve t entry).1.keys, key ∉ r.assigned := by
  obtain ⟨hone, hfree, -⟩ := freeIndex_spec r t (r.baseOf entry)
  refine ⟨rfl, ?_, ?_⟩
  · have hne : Path.components ((r.resolve t entry).1.of .java) ≠
        Path.components ((r.resolve t entry).1.of .smali) :=
      r.components_ne (r.baseOf entry) _ hone (by simp)
    simpa [OutputPaths.keys, OutputPaths.of] using hne
  · have hfree := bothFree_iff.mp hfree
    intro key hkey
    rw [OutputPaths.keys, List.mem_cons, List.mem_singleton] at hkey
    rcases hkey with rfl | rfl
    · exact (hfree .java).1
    · exact (hfree .smali).1

end ArchiveScout.Decode
