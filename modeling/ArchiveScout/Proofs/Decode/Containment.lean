import ArchiveScout.Proofs.Decode.Assignment
import ArchiveScout.Proofs.Decode.Decoder

/-!
# ArchiveScout.Proofs.Decode.Containment

**What a pass touches.** The files of a class are inside the output directory when its base name
stays below it, and flattened names always do. Saving resources refuses names that lead outside;
for classes there is no such check, so a class path with two points or with a slash at its start
leads out of the directory. These are the only ways out: where no selected class has such a path,
nothing outside of the output directory changes, whatever happens while the tasks are awaited.
-/

namespace ArchiveScout.Decode

open ArchiveScout.Archive (ClassEntry catalog groupClasses splitSimple)
open ArchiveScout.Console (Prompt)
open ArchiveScout.File
open ArchiveScout.File.Tree (Evolves steps)
open PathResolver (StaysBelow)

variable {d : Decompiler} {dir archive : String} {job : Job} {w w' : Workspace}
  {xs : List Deed} {loc : Location} {source : String → Tree → Outcome (List UInt8)}

/-! ### Base names -/

theorem pieces_simpleName (path : String) (inner : List String) :
    Path.pieces (ClassEntry.ofPath path inner).simpleName =
      [(ClassEntry.ofPath path inner).simpleName] := by
  have hslash : '/' ∉ (splitSimple path.toList).2 := by
    rw [splitSimple]
    split
    · rename_i h
      exact Text.notMem_of_cutLast h
    · rename_i h
      exact Text.notMem_of_cutLast_none h
  rw [Path.pieces, ClassEntry.ofPath, String.toList_ofList, Text.splitOn_of_notMem hslash]
  rfl

/-- A simple name always stays below. -/
theorem staysBelow_simpleName (path : String) (inner : List String) :
    StaysBelow (ClassEntry.ofPath path inner).simpleName := by
  have hpieces := pieces_simpleName path inner
  refine ⟨?_, by rw [hpieces]; simp⟩
  rw [← Bool.not_eq_true, Path.isAbsolute_iff, hpieces]
  simp

/-- The base name of a class stays below if names are flattened, or if its path does. -/
theorem staysBelow_baseOf {r : PathResolver} {path : String} (inner : List String)
    (h : r.flatten = true ∨ StaysBelow path) : StaysBelow (r.baseOf (.ofPath path inner)) := by
  rw [PathResolver.baseOf]
  split
  · exact staysBelow_simpleName path inner
  · exact h.resolve_left ‹_›

/-- A class path that does not stay below starts anew at the root or goes back. -/
theorem root_or_parent_mem {r : PathResolver} {base : String} (hflatten : r.flatten = false)
    (hbase : ¬ StaysBelow base) (n : Nat) (kind : Kind) :
    .root ∈ Path.components ((r.candidate base n).of kind) ∨
      .parent ∈ Path.components ((r.candidate base n).of kind) := by
  have habs := PathResolver.isAbsolute_fileName base n kind
  have hfolder : r.folder kind ≠ "" := by
    rw [PathResolver.folder, if_neg (by simp [hflatten])]
    exact Path.join_ne_empty (by cases kind <;> decide)
  rw [PathResolver.candidate_of]
  cases hstart : Path.isAbsolute base with
  | true =>
      rw [hstart] at habs
      have hjoin : Path.join (r.folder kind) (PathResolver.fileName base n kind) =
          PathResolver.fileName base n kind := by simp [Path.join, habs]
      rw [hjoin, Path.components_eq, Path.lead, if_pos habs]
      exact .inl (by simp)
  | false =>
      rw [hstart] at habs
      have hup : ".." ∈ (Path.pieces base).dropLast := by
        by_contra hno
        exact hbase ⟨hstart, hno⟩
      have hstep := (PathResolver.up_mem_steps_fileName_iff base n kind).mpr hup
      rw [Path.components_join habs (.inl hfolder)]
      exact .inr (List.mem_append_right _ (List.mem_map.mpr ⟨"..", hstep, rfl⟩))

/-- A file name of a single piece is more than a point. -/
theorem head?_fileName_ne_point {base last : String} (h : Path.pieces base = [last]) (n : Nat)
    (kind : Kind) : (Path.pieces (PathResolver.fileName base n kind)).head? ≠ some "." := by
  have hsingle : Path.pieces base = [] ++ [last] := h
  have hpieces := PathResolver.pieces_fileName n kind hsingle
  have hstep := (PathResolver.isStep_of_ending (last ++ PathResolver.suffix n) kind).1
  rw [hpieces, List.nil_append, List.head?_cons, ← String.append_assoc]
  intro heq
  rw [Option.some.inj heq] at hstep
  exact absurd hstep (by decide)

/-- Where names are flattened or the class path stays below, names alone lead from the output
directory to the files of a class. -/
theorem resolve_inside {flatten : Bool} {path : String} (h : flatten = true ∨ StaysBelow path)
    (root : String) (assigned : List (List Component)) (t : Tree) (inner : List String)
    (kind : Kind) : ∃ names : List String, names ≠ [] ∧
      Path.components (((PathResolver.mk root flatten assigned).resolve t
        (.ofPath path inner)).1.of kind) = Path.components root ++ names.map .name := by
  have hbelow := staysBelow_baseOf (r := ⟨root, flatten, assigned⟩) inner h
  refine ⟨_, PathResolver.names_ne_nil _ _ _ _,
    PathResolver.components_candidate hbelow _ _ kind ?_⟩
  cases flatten with
  | false =>
      refine .inl (Path.join_ne_empty ?_)
      cases kind <;> decide
  | true => exact .inr (head?_fileName_ne_point (pieces_simpleName path inner) _ kind)

/-- The files of a class are inside every output directory, whatever was handed out before and
whatever exists, exactly if names are flattened or the class path stays below. -/
theorem resolve_inside_iff (flatten : Bool) (path : String) :
    (∀ root assigned t inner kind, ∃ names : List String, names ≠ [] ∧
      Path.components (((PathResolver.mk root flatten assigned).resolve t
        (.ofPath path inner)).1.of kind) = Path.components root ++ names.map .name) ↔
    flatten = true ∨ StaysBelow path := by
  constructor
  · intro h
    by_contra hout
    rw [not_or, Bool.not_eq_true] at hout
    obtain ⟨rfl, hpath⟩ := hout
    -- One root is enough, as what leads out of it is in the class path.
    obtain ⟨names, -, hnames⟩ := h "out" [] {} [] .java
    have hroot : Path.components "out" = [.name "out"] := by decide
    have hmem := root_or_parent_mem (r := ⟨"out", false, []⟩) rfl hpath
      (PathResolver.freeIndex ⟨"out", false, []⟩ {} path) .java
    rw [PathResolver.resolve, PathResolver.baseOf, ClassEntry.ofPath] at hnames
    simp only [Bool.false_eq_true, if_false] at hnames
    rw [hnames, hroot] at hmem
    simp at hmem
  · exact fun h root assigned t inner kind => resolve_inside h root assigned t inner kind

/-! ### Passes -/

theorem Trace.evolves_inside (h : Trace d dir (tasksOf job d) w xs w') (hsave : d.SavesFrom source)
    (hcontained : ∀ name t, (source name t).isDone = true → isContained name = true)
    (hne : dir ≠ "") (hroot : w.resolver.root = dir) (hdir : w.tree.Stands dir loc)
    (hbelow : ∀ entry, Selected job d entry → StaysBelow (w.resolver.baseOf entry)) :
    Evolves loc.Inside loc.Inside w.tree w'.tree := by
  refine (linked_evolves h.linked hdir fun x hx hstands => ?_).2
  have haims := h.aims_below
    (fun name haction hcontent => hcontained name _ (Deed.content?_resource haction ▸ hcontent))
    hne hroot hbelow hx
  refine (Deed.evolves_aims hsave hstands haims).mono ?_ ?_
  · rintro l ⟨path, names, -, hl⟩
    exact hl.1
  · rintro l (⟨path, names, -, hnames, rfl⟩ | ⟨-, rfl⟩)
    · exact loc.inside_append hnames
    · exact loc.inside_append (by simp)

/-- The entries of an archive are made from class paths. -/
theorem ofPath_of_mem_groupClasses {paths : List String} {entry : ClassEntry}
    (h : entry ∈ groupClasses paths) : entry = .ofPath entry.aliasPath entry.inner := by
  rw [groupClasses, List.mem_map] at h
  obtain ⟨top, -, rfl⟩ := h
  rfl

/-- The text of a class, which comes from one of the tools. -/
def toolText (tools : Toolbox) (cfr : Cfr) (archive : String) : Kind → ClassEntry →
    Except ToolError String
  | .java, entry => sourceText tools cfr archive entry
  | .smali, entry => tools.disassemble archive entry.fullName

/-- What an opened archive has in it. -/
theorem openJar_eq_ok {tools : Toolbox} {cfr : Cfr} {options : OpenOptions} {t : Tree}
    {opened : Decompiler} (h : openJar tools cfr archive options t = .ok opened) :
    ∃ listed, catalog t archive = .ok listed ∧
      opened.batches =
        (if options.includeSource then (groupClasses listed.classes).map ([·]) else []) ∧
      opened.resources = (if options.includeResources then listed.resources else []) ∧
      ∀ kind entry, opened.text kind entry = .ofExcept ToolError.chain
        (toolText tools { cfr with rename := options.renameClasses } archive kind entry) := by
  simp only [openJar, bind, Except.bind] at h
  split at h
  · exact absurd h (by simp)
  · rename_i listed hlisted
    obtain rfl := Except.ok.inj h
    refine ⟨listed, hlisted, rfl, rfl, fun kind entry => ?_⟩
    cases kind <;> rfl

theorem batches_openJar {tools : Toolbox} {cfr : Cfr} {options : OpenOptions} {t : Tree}
    {opened : Decompiler} (h : openJar tools cfr archive options t = .ok opened) :
    ∃ listed, catalog t archive = .ok listed ∧
      ∀ batch ∈ opened.batches, ∀ entry ∈ batch, entry ∈ groupClasses listed.classes := by
  obtain ⟨listed, hlisted, hbatches, -, -⟩ := openJar_eq_ok h
  refine ⟨listed, hlisted, fun batch hbatch entry hentry => ?_⟩
  rw [hbatches] at hbatch
  split at hbatch
  · obtain ⟨c, hc, rfl⟩ := List.mem_map.mp hbatch
    obtain rfl := List.mem_singleton.mp hentry
    exact hc
  · exact absurd hbatch List.not_mem_nil

theorem openJar_of_jarProvider {tools : Toolbox} {cfr : Cfr} {options : OpenOptions} {t : Tree}
    {opened : Decompiler} (h : jarProvider tools cfr archive options t = .ok opened) :
    openJar tools cfr archive options t = .ok opened := by
  rw [jarProvider] at h
  cases hopen : openJar tools cfr archive options t with
  | error e => simp [hopen, Except.mapError] at h
  | ok found => simpa [hopen, Except.mapError] using h

theorem contained_of_memberBytes {name : String} {t : Tree}
    (h : (memberBytes archive name t).isDone = true) : isContained name = true := by
  rw [memberBytes] at h
  split at h
  · assumption
  · exact absurd h (by simp [Outcome.isDone])

/-- The files of a class are inside the output directory exactly if names are flattened or the
class path stays below; and a pass over an archive in which every selected class is so changes
nothing outside of its output directory, whatever the tools answer and whatever happens while the
tasks are awaited. -/
theorem pass_stays_inside (dec : Decoder) (tools : Toolbox) (cfr : Cfr) (prompt : Prompt)
    (w : World) (archive : String) (events : List Event) :
    (∀ path,
      (∀ root assigned t inner kind, ∃ names : List String, names ≠ [] ∧
        Path.components (((PathResolver.mk root dec.job.flatten assigned).resolve t
          (.ofPath path inner)).1.of kind) = Path.components root ++ names.map .name) ↔
      dec.job.flatten = true ∨ StaysBelow path) ∧
    (dec.Ready →
      (dec.decode (jarProvider tools cfr) prompt w archive events).1.state = .done →
      ∃ listed loc, catalog (dec.preparedTree prompt w archive) archive = .ok listed ∧
        (dec.preparedTree prompt w archive).Stands (outputDir dec.job archive) loc ∧
        ((∀ entry ∈ eligible dec.job (groupClasses listed.classes),
            dec.job.flatten = true ∨ StaysBelow entry.aliasPath) →
          ∀ l, ¬ loc.Inside l →
            (dec.decode (jarProvider tools cfr) prompt w archive events).2.2.tree.get? l =
              (dec.preparedTree prompt w archive).get? l)) := by
  refine ⟨resolve_inside_iff dec.job.flatten, fun hready hdone => ?_⟩
  obtain ⟨opened, hpassed⟩ := hready.passed hdone
  obtain ⟨loc, hstands⟩ := hpassed.stands
  have hopen := openJar_of_jarProvider hpassed.source
  obtain ⟨listed, hlisted, hbatches⟩ := batches_openJar hopen
  refine ⟨listed, loc, hlisted, hstands, fun hpaths l hl => ?_⟩
  have hbelow : ∀ entry, Selected dec.job opened entry →
      StaysBelow ((dec.passStart prompt w archive).resolver.baseOf entry) := by
    rintro entry ⟨batch, hbatch, hentry⟩
    rw [Decoder.passStart_resolver]
    obtain ⟨hmem, hselected⟩ := List.mem_filter.mp hentry
    have hgroup := hbatches batch hbatch entry hmem
    rw [ofPath_of_mem_groupClasses hgroup]
    exact staysBelow_baseOf _ (hpaths entry (List.mem_filter.mpr ⟨hgroup, hselected⟩))
  rw [← Decoder.passStart_tree] at hstands
  have hevolves := hpassed.trace.evolves_inside
    (savesFrom_openJar hopen) (fun _ _ => contained_of_memberBytes)
    (Decoder.outputDir_ne_empty _ _) (by rw [Decoder.passStart_resolver]) hstands hbelow
  rw [hpassed.tree, hevolves.same hl hl, Decoder.passStart_tree]

/-- Tools that print something for every class. -/
def plainTools : Toolbox where
  java := "java"
  javap := "javap"
  call := fun _ _ => some { success := true, stdout := [65], stderr := [] }

/-- A tree with an archive of a single class. -/
def treeWithClass (path : String) : Tree :=
  { nodes := [(["app.jar"], .file (.archive { members := [⟨path ++ ".class", []⟩] }))] }

/-- The pass of a new decoder over the archive of a single class. -/
def singlePass (path : String) (flatten : Bool) : Report × Decoder × World :=
  (Decoder.ofJob { outputRoot := "out", flatten }).decode (jarProvider plainTools ⟨"cfr.jar", true⟩)
    (.fixed .skip) { tree := treeWithClass path } "app.jar"

/-- The files before the first deed of such a pass. -/
def singleTree (path : String) (flatten : Bool) : Tree :=
  (Decoder.ofJob { outputRoot := "out", flatten }).preparedTree (.fixed .skip)
    { tree := treeWithClass path } "app.jar"

/-- A pass over the archive of a class with an ordinary path changes nothing elsewhere. -/
theorem ordinary_class_stays_inside :
    (singlePass "com/Main" false).1.state = .done ∧
      (singlePass "com/Main" false).2.2.tree.isFile
        "out/app.jar_sources/java/com/Main.java" = true ∧
      (singlePass "com/Main" false).2.2.tree.get? ["app.jar"] =
        (singleTree "com/Main" false).get? ["app.jar"] := by
  have hdone : (singlePass "com/Main" false).1.state = .done := by decide +kernel
  have hloc : (singleTree "com/Main" false).descend
      ((singleTree "com/Main" false).start "out/app.jar_sources") (steps "out/app.jar_sources") =
        .ok ["out", "app.jar_sources"] := by decide +kernel
  obtain ⟨listed, loc, hlisted, hstands, hsame⟩ :=
    (pass_stays_inside (.ofJob { outputRoot := "out" }) plainTools ⟨"cfr.jar", true⟩
      (.fixed .skip) { tree := treeWithClass "com/Main" } "app.jar" []).2 (.ofJob _) hdone
  have hcatalog : catalog (singleTree "com/Main" false) "app.jar" = .ok ⟨["com/Main"], []⟩ := by
    decide +kernel
  obtain rfl := Except.ok.inj (hlisted.symm.trans hcatalog)
  obtain rfl := Except.ok.inj (hstands.1.symm.trans hloc)
  refine ⟨hdone, by decide +kernel, hsame ?_ ["app.jar"] ?_⟩
  · decide +kernel
  · rintro ⟨⟨rest, hrest⟩, -⟩
    exact absurd (List.cons.inj hrest).1 (by decide)

/-- A class path with two points leads out of the output directory, and one with a slash at its
start leads anywhere. -/
theorem class_path_leads_outside :
    catalog (treeWithClass "../../evil") "app.jar" = .ok ⟨["../../evil"], []⟩ ∧
    (singlePass "../../evil" false).1.state = .done ∧
    (singlePass "../../evil" false).1.failed = 0 ∧
    (singlePass "../../evil" false).2.2.tree.isFile "out/evil.java" = true ∧
    (singlePass "/tmp/evil" false).2.2.tree.isFile "/tmp/evil.java" = true ∧
    ((PathResolver.mk "out" false []).resolve {} (.ofPath "/tmp/evil")).1.java =
      "/tmp/evil.java" := by
  decide +kernel

end ArchiveScout.Decode
