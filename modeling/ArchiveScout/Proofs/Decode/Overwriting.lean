import ArchiveScout.Proofs.Decode.Assignment
import ArchiveScout.Proofs.Decode.Containment
import ArchiveScout.Proofs.Decode.Log

/-!
# ArchiveScout.Proofs.Decode.Overwriting

**Which files of a pass are written twice.** The texts of classes whose base names stay below
the output directory never share a file, neither with each other nor with the log, in any order.
Resources are written by their names and look at nothing; so they can take the file of a class,
of another resource or the log, and these are the only files that can be lost, besides those of
classes that lead outside. Where these stay apart, every file that was written holds to the end
what was written.
-/

namespace ArchiveScout.Decode

open ArchiveScout.Archive (ClassEntry)
open ArchiveScout.Console (Prompt)
open ArchiveScout.File
open ArchiveScout.File.Tree (steps)
open PathResolver (StaysBelow names)

variable {d : Decompiler} {dir : String} {job : Job} {w w' : Workspace} {x y : Deed}
  {xs : List Deed} {loc : Location} {source : String → Tree → Outcome (List UInt8)}
  {r : PathResolver}

/-- Two deeds did not write the same file. -/
def Deed.Apart (d : Decompiler) (dir : String) (x y : Deed) : Prop :=
  ∀ l, x.location? d dir = some l → y.location? d dir ≠ some l

/-- A deed whose file no resolver keeps apart: a resource, or a text of a class that does not
stay below. -/
def Deed.Strays (r : PathResolver) (x : Deed) : Prop :=
  match x.action with
  | .text _ entry => ¬ StaysBelow (r.baseOf entry)
  | .resource _ => True
  | _ => False

/-- No file was written by two deeds, nor by a deed and as the log. -/
structure NoOverwriting (d : Decompiler) (dir : String) (loc : Location) (xs : List Deed) :
    Prop where
  files : xs.Pairwise (Deed.Apart d dir)
  log : (∃ y ∈ xs, (y.record? d dir).isSome) → ∀ x ∈ xs, x.location? d dir ≠ some (logLocation loc)

/-- The files that no resolver keeps apart are apart from all others and from the log. -/
structure StraysApart (d : Decompiler) (dir : String) (r : PathResolver) (loc : Location)
    (xs : List Deed) : Prop where
  files : xs.Pairwise fun x y => x.Strays r ∨ y.Strays r → x.Apart d dir y
  log : (∃ y ∈ xs, (y.record? d dir).isSome) →
    ∀ x ∈ xs, x.Strays r → x.location? d dir ≠ some (logLocation loc)

/-! ### Texts of classes -/

/-- A deed that wrote a file and does not stray is for the text of a class that stays below. -/
theorem Deed.text_of_not_strays {l : Location} (hl : x.location? d dir = some l)
    (hno : ¬ x.Strays r) :
    ∃ kind entry, x.action = .text kind entry ∧ StaysBelow (r.baseOf entry) := by
  obtain ⟨path, houtput⟩ := Deed.exists_output_of_location hl
  rw [Deed.Strays] at hno
  cases x.effect d dir with
  | written kind entry _ _ haction =>
      rw [haction] at hno
      exact ⟨kind, entry, haction, not_not.mp hno⟩
  | saved name _ _ haction =>
      rw [haction] at hno
      exact absurd trivial hno
  | _ => simp_all

/-- Texts that do not stray have files of their own. -/
theorem Trace.apart_of_not_strays (h : Trace d dir (tasksOf job d) w xs w')
    (hsave : d.SavesFrom source) (hroot : w.resolver.root = dir) (hne : dir ≠ "")
    (hstands : ∀ x ∈ xs, x.before.tree.Stands dir loc) :
    xs.Pairwise fun x y => ¬ x.Strays w.resolver → ¬ y.Strays w.resolver → x.Apart d dir y := by
  have hclaims := List.pairwise_filterMap.mp h.nodup_claims
  refine hclaims.imp_of_mem ?_
  intro x y hx hy hkeys hxno hyno l hxl hyl
  obtain ⟨kind, entry, haction, hbelow⟩ := Deed.text_of_not_strays hxl hxno
  obtain ⟨kind', entry', haction', hbelow'⟩ := Deed.text_of_not_strays hyl hyno
  obtain ⟨n, -, hpaths, hloc⟩ :=
    h.text_location hsave hroot hx (hstands x hx) haction hbelow hxl
  obtain ⟨n', -, hpaths', hloc'⟩ :=
    h.text_location hsave hroot hy (hstands y hy) haction' hbelow' hyl
  -- The same location means the same names, and so the same key.
  have hnames := List.append_cancel_left (hloc.symm.trans hloc')
  have hfolder : ∀ kind : Kind, w.resolver.folder kind ≠ "" :=
    PathResolver.folder_ne_empty (hroot ▸ hne)
  refine hkeys _ (Deed.claim?_text haction) _ (Deed.claim?_text haction') ?_
  rw [hpaths, hpaths', PathResolver.components_candidate hbelow _ _ _ (.inl (hfolder kind)),
    PathResolver.components_candidate hbelow' _ _ _ (.inl (hfolder kind')), hnames]

/-- Texts that do not stray are not written in place of the log. -/
theorem Trace.log_of_not_strays (h : Trace d dir (tasksOf job d) w xs w')
    (hsave : d.SavesFrom source) (hroot : w.resolver.root = dir)
    (hstands : ∀ x ∈ xs, x.before.tree.Stands dir loc) (hx : x ∈ xs)
    (hno : ¬ x.Strays w.resolver) : x.location? d dir ≠ some (logLocation loc) := by
  intro hl
  obtain ⟨kind, entry, haction, hbelow⟩ := Deed.text_of_not_strays hl hno
  obtain ⟨n, -, -, hloc⟩ := h.text_location hsave hroot hx (hstands x hx) haction hbelow hl
  exact PathResolver.names_ne_log _ _ _ _ (List.append_cancel_left hloc).symm

/-- No file is written twice exactly if the files that no resolver keeps apart are apart. -/
theorem Trace.noOverwriting_iff (h : Trace d dir (tasksOf job d) w xs w')
    (hsave : d.SavesFrom source) (hroot : w.resolver.root = dir) (hne : dir ≠ "")
    (hstands : ∀ x ∈ xs, x.before.tree.Stands dir loc) :
    NoOverwriting d dir loc xs ↔ StraysApart d dir w.resolver loc xs := by
  constructor
  · intro hno
    refine ⟨hno.files.imp ?_, fun hrecord x hx _ => hno.log hrecord x hx⟩
    intro x y hapart _
    exact hapart
  · intro hstrays
    have htexts := h.apart_of_not_strays hsave hroot hne hstands
    refine ⟨(hstrays.files.and htexts).imp ?_, fun hrecord x hx => ?_⟩
    · rintro x y ⟨hstray, htext⟩
      by_cases hx : x.Strays w.resolver
      · exact hstray (.inl hx)
      · by_cases hy : y.Strays w.resolver
        · exact hstray (.inr hy)
        · exact htext hx hy
    · by_cases hstray : x.Strays w.resolver
      · exact hstrays.log hrecord x hx hstray
      · exact h.log_of_not_strays hsave hroot hstands hx hstray

/-! ### Contents -/

/-- Where no file is written twice, a file that was written is there to the end. -/
theorem locate_of_noOverwriting (h : Linked d dir w xs w') (hsave : d.SavesFrom source)
    (hdir : w.tree.Stands dir loc) (hno : NoOverwriting d dir loc xs) (hx : x ∈ xs) {path : String}
    (houtput : x.output? d dir = some path) :
    ∃ l content, x.location? d dir = some l ∧ x.content? d source = some content ∧
      w'.tree.locate path = .ok (l, .file content) := by
  have hstands := (linked_files h hsave hdir).1 x hx
  obtain ⟨front, back, rfl⟩ := List.append_of_mem hx
  obtain ⟨-, hback⟩ := h.split
  -- The file is there right behind the deed, and no later deed writes to its location.
  cases x.fileEffect hsave dir with
  | wrote path' l content houtput' _ hlocation hcontent hlocate =>
      obtain rfl := Option.some.inj (houtput.symm.trans houtput')
      have hafter := (Deed.evolves_files hsave hstands).stands hstands
      have hevolves := (linked_files hback hsave hafter).2
      have hapart := (List.pairwise_cons.mp (List.pairwise_append.mp hno.files).2.1).1
      refine ⟨l, content, hlocation, hcontent, hevolves.locate_file hlocate ?_⟩
      rintro (⟨y, hy, hlocation'⟩ | ⟨⟨y, hy, hrecord⟩, rfl⟩)
      · exact hapart y hy l hlocation hlocation'
      · obtain ⟨line, hline⟩ := Option.isSome_iff_exists.mp hrecord
        have hlogs := (Deed.accepted?_eq_some.mp hline).1
        exact hno.log ⟨y, by simp [hy], by simp [hlogs]⟩ x hx hlocation
  | logged _ houtput' => simp_all
  | quiet houtput' => simp_all

/-- Where no file is written twice, a file that was written can be read to the end. -/
theorem read_of_noOverwriting (h : Linked d dir w xs w') (hsave : d.SavesFrom source)
    (hdir : w.tree.Stands dir loc) (hno : NoOverwriting d dir loc xs) (hx : x ∈ xs) {path : String}
    (houtput : x.output? d dir = some path) :
    ∃ content, x.content? d source = some content ∧ w'.tree.read path = .ok content := by
  obtain ⟨l, content, -, hcontent, hlocate⟩ := locate_of_noOverwriting h hsave hdir hno hx houtput
  exact ⟨content, hcontent, Tree.read_of_locate hlocate⟩

/-! ### Passes -/

/-- In a pass over an archive no file is written twice exactly if resources, and classes that
lead outside, stay apart from all others and from the log, whatever happens while the tasks are
awaited. Then every file that was written holds at the end what its class or its resource had, and
the log ends in the lines of all failures in turn. -/
theorem pass_overwrites_by_strays_only {dec : Decoder} (hready : dec.Ready) (tools : Toolbox)
    (cfr : Cfr) (prompt : Prompt) (w : World) (archive : String) (events : List Event)
    (hdone : (dec.decode (jarProvider tools cfr) prompt w archive events).1.state = .done) :
    ∃ opened loc,
      jarProvider tools cfr archive dec.job.openOptions (dec.preparedTree prompt w archive) =
        .ok opened ∧
      (dec.preparedTree prompt w archive).Stands (outputDir dec.job archive) loc ∧
      (NoOverwriting opened (outputDir dec.job archive) loc
          (dec.passDeeds prompt w archive opened events) ↔
        StraysApart opened (outputDir dec.job archive)
          ⟨outputDir dec.job archive, dec.job.flatten, []⟩ loc
          (dec.passDeeds prompt w archive opened events)) ∧
      (NoOverwriting opened (outputDir dec.job archive) loc
          (dec.passDeeds prompt w archive opened events) →
        (∀ x ∈ dec.passDeeds prompt w archive opened events, ∀ path,
          x.output? opened (outputDir dec.job archive) = some path →
          ∃ content, x.content? opened (memberBytes archive) = some content ∧
            (dec.decode (jarProvider tools cfr) prompt w archive events).2.2.tree.read path =
              .ok content) ∧
        ((∀ x ∈ dec.passDeeds prompt w archive opened events,
            ¬ x.LogRefused opened (outputDir dec.job archive)) →
          dec.passRecords prompt w archive opened events ≠ [] →
          (dec.decode (jarProvider tools cfr) prompt w archive events).2.2.tree.file?
              (logLocation loc) =
            logged ((dec.preparedTree prompt w archive).file? (logLocation loc))
              (dec.passRecords prompt w archive opened events))) := by
  obtain ⟨opened, hpassed⟩ := hready.passed hdone
  obtain ⟨loc, hstands⟩ := hpassed.stands
  have hsave := savesFrom_openJar (openJar_of_jarProvider hpassed.source)
  have htrace := hpassed.trace
  rw [← Decoder.passStart_tree] at hstands
  have hall := (linked_files htrace.linked hsave hstands).1
  have hiff := htrace.noOverwriting_iff hsave (by rw [Decoder.passStart_resolver])
    (Decoder.outputDir_ne_empty _ _) hall
  rw [Decoder.passStart_resolver] at hiff
  refine ⟨opened, loc, hpassed.source, hstands, hiff, fun hno => ⟨fun x hx path houtput => ?_, ?_⟩⟩
  · rw [hpassed.tree]
    exact read_of_noOverwriting htrace.linked hsave hstands hno hx houtput
  · intro haccepted hrecords
    have hrecord : ∃ y ∈ dec.passDeeds prompt w archive opened events,
        (y.record? opened (outputDir dec.job archive)).isSome := by
      obtain ⟨line, hline⟩ := List.exists_mem_of_ne_nil _ hrecords
      obtain ⟨y, hy, hsome⟩ := List.mem_filterMap.mp hline
      exact ⟨y, hy, by simp [hsome]⟩
    have hlog := linked_log htrace.linked hsave hstands (hno.log hrecord)
    rw [hpassed.tree, hlog, Deed.filterMap_accepted? haccepted, Decoder.passStart_tree,
      Decoder.passRecords]

/-- A tree with an archive of a class and a resource. -/
def treeWithResource (resource : String) : Tree :=
  { nodes := [(["app.jar"],
    .file (.archive { members := [⟨"a/Main.class", []⟩, ⟨resource, [82]⟩] }))] }

/-- A decoder that writes sources and resources into one directory. -/
def mixedDecoder : Decoder :=
  .ofJob { outputRoot := "out", flatten := true, resources := true }

/-- Its pass over the archive of a class and a resource. -/
def mixedPass (tools : Toolbox) (resource : String) : Report × Decoder × World :=
  mixedDecoder.decode (jarProvider tools ⟨"cfr.jar", true⟩) (.fixed .skip)
    { tree := treeWithResource resource } "app.jar"

/-- What can be overwritten in a pass over an archive of a class and a resource. -/
theorem class_and_resource_overwrite_by_strays_only :
    (mixedPass plainTools "res/a.txt").1.state = .done ∧
      ∃ opened loc,
        (mixedDecoder.preparedTree (.fixed .skip) { tree := treeWithResource "res/a.txt" }
          "app.jar").Stands "out/app.jar_sources" loc ∧
        (NoOverwriting opened "out/app.jar_sources" loc
            (mixedDecoder.passDeeds (.fixed .skip) { tree := treeWithResource "res/a.txt" }
              "app.jar" opened []) ↔
          StraysApart opened "out/app.jar_sources" ⟨"out/app.jar_sources", true, []⟩ loc
            (mixedDecoder.passDeeds (.fixed .skip) { tree := treeWithResource "res/a.txt" }
              "app.jar" opened [])) := by
  have hdone : (mixedPass plainTools "res/a.txt").1.state = .done := by decide +kernel
  have hready : mixedDecoder.Ready := .ofJob _
  obtain ⟨opened, loc, -, hstands, hiff, -⟩ :=
    pass_overwrites_by_strays_only hready _ _ _ _ _ _ hdone
  exact ⟨hdone, opened, loc, hstands, hiff⟩

/-- A resource takes the file of a class, which counts as written, and a resource takes the log,
which loses its line. -/
theorem resource_takes_class_and_log :
    ((mixedPass plainTools "Main.java").1.state = .done ∧
      (mixedPass plainTools "Main.java").1.failed = 0 ∧
      (mixedPass plainTools "res/a.txt").2.2.tree.read "out/app.jar_sources/Main.java" =
        .ok (.bytes [65]) ∧
      (mixedPass plainTools "Main.java").2.2.tree.read "out/app.jar_sources/Main.java" =
        .ok (.bytes [82])) ∧
    ((mixedPass { plainTools with call := fun _ _ => none } "_failed_classes").1.state = .done ∧
      (mixedPass { plainTools with call := fun _ _ => none } "_failed_classes").1.failed = 1 ∧
      (mixedPass { plainTools with call := fun _ _ => none } "_failed_classes").2.2.tree.read
        "out/app.jar_sources/_failed_classes" = .ok (.bytes [82])) := by
  decide +kernel

end ArchiveScout.Decode
