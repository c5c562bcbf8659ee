import ArchiveScout.Proofs.Archive.ClassName
import ArchiveScout.Proofs.Command.Run
import ArchiveScout.Proofs.Decode.Coverage
import ArchiveScout.Proofs.Decode.Report
import ArchiveScout.Proofs.Search.NameSearch

/-!
# ArchiveScout.Proofs.Command.Generation

**The sources of what a search finds.** Between a search and the pass that writes its sources no
file becomes another one, so the pass divides the same classes into entries. It takes the entries of
the classes that were found, and of those around them, one task for each; only a class that is
called as a primitive type is passes by the selection.

A search makes one decoder and goes on with it from archive to archive. What the decoder has to keep
for that is `Generator.Fits`: it holds of a new one, and every pass keeps it. An archive does not have
to be there any more when its turn comes, as the directory of the pass before may be cleared; if it
can be opened, then it is the one that was searched.
-/

namespace ArchiveScout.Command

open ArchiveScout.Archive (Catalog ClassEntry IsBinaryName catalog dotted groupClasses
  countP_covers mem_inner membersOf ofResults_accepts openArchive partitions_groupClasses
  primitiveNames rawName)
open ArchiveScout.Console (Choice)
open ArchiveScout.Decode
open ArchiveScout.File (Location Member Tree)
open ArchiveScout.Search (Request SearchOutcome Session exists_class_of_result nameEngine)

variable {t t' : Tree} {path archive dir : String} {members members' : List Member}
  {s : Services} {o : SearchOptions} {results paths : List String} {entry : ClassEntry}

/-! ### Archives that stay

A pass that only makes directories leaves all files (`Tree.Evolves` with no files), but one that
overwrites clears a directory first. Then some files are gone and the others are as before. -/

theorem openArchive_eq_ok : openArchive t path = .ok members ↔
    ∃ loc content, t.locate path = .ok (loc, .file content) ∧ membersOf content = .ok members := by
  rw [openArchive]
  cases hlocate : t.locate path with
  | error fault => simp
  | ok found =>
      obtain ⟨loc, node⟩ := found
      cases node with
      | directory => simp
      | file content => cases hmembers : membersOf content <;> simp [hmembers]

/-- Where no file is written, an archive stays as it is. -/
theorem openArchive_of_evolves {dirs : Location → Prop}
    (h : t.Evolves dirs (fun _ => False) t') (hopen : openArchive t path = .ok members) :
    openArchive t' path = .ok members := by
  obtain ⟨loc, content, hlocate, hmembers⟩ := openArchive_eq_ok.mp hopen
  exact openArchive_eq_ok.mpr ⟨loc, content, h.locate_file hlocate not_false, hmembers⟩

/-- No file is new, and none is another one. -/
structure NoNewFiles (t t' : Tree) : Prop where
  cwd : t'.cwd = t.cwd
  file : ∀ loc content, t'.get? loc = some (.file content) → t.get? loc = some (.file content)

namespace NoNewFiles

theorem trans {t'' : Tree} (h : NoNewFiles t t') (h' : NoNewFiles t' t'') : NoNewFiles t t'' :=
  ⟨h'.cwd.trans h.cwd, fun loc content hfile => h.file loc content (h'.file loc content hfile)⟩

theorem of_evolves {dirs : Location → Prop} (h : t.Evolves dirs (fun _ => False) t') :
    NoNewFiles t t' :=
  ⟨h.cwd, fun _ _ hfile => (h.was_file hfile).resolve_right not_false⟩

theorem removeBelow (t : Tree) (loc : Location) : NoNewFiles t (t.removeBelow loc) := by
  refine ⟨rfl, fun other content hfile => ?_⟩
  have hne : other ≠ [] := by
    intro hroot
    rw [hroot] at hfile
    simp at hfile
  have hsome : ((t.removeBelow loc).get? other).isSome := by rw [hfile]; rfl
  obtain ⟨hoff, -⟩ := Tree.isSome_get?_removeBelow hsome hne
  rwa [Tree.get?_removeBelow t hoff] at hfile

theorem removeDirectory (h : t.removeDirectory dir = .ok t') : NoNewFiles t t' := by
  simp only [Tree.removeDirectory, bind, Except.bind] at h
  split at h
  · exact absurd h (by simp)
  · split at h
    · exact absurd h (by simp)
    · obtain rfl := Except.ok.inj h
      exact removeBelow t _

theorem made (dir : String) (t : Tree) : NoNewFiles t (Decoder.made dir t).1 := by
  rw [Decoder.made_tree]
  exact of_evolves (Tree.evolves_makeDirectoriesOf_any t _)

/-- Preparing an output directory clears it and makes directories. -/
theorem prepared (dir : String) (flatten : Bool) (choice : Choice) (t : Tree) :
    NoNewFiles t (Decoder.prepared dir flatten choice t).1 := by
  have hself : NoNewFiles t t := ⟨rfl, fun _ _ hfile => hfile⟩
  unfold Decoder.prepared
  split
  · cases choice with
    | overwrite =>
        dsimp only
        split
        · exact hself
        · rename_i hremoved
          exact (removeDirectory hremoved).trans (made dir _)
    | merge => exact hself
    | skip => exact hself
  · exact made dir t

/-- An archive that can still be opened is the same one. -/
theorem openArchive_unique (h : NoNewFiles t t') (hopen : openArchive t path = .ok members)
    (hopen' : openArchive t' path = .ok members') : members = members' := by
  obtain ⟨loc, content, hlocate, hmembers⟩ := openArchive_eq_ok.mp hopen
  obtain ⟨loc', content', hlocate', hmembers'⟩ := openArchive_eq_ok.mp hopen'
  obtain ⟨-, hdown, hnode, -⟩ := Tree.locate_eq_ok hlocate
  obtain ⟨-, hdown', hnode', -⟩ := Tree.locate_eq_ok hlocate'
  -- A path leads to one location only, whatever else there is in the two trees.
  have hstart : t'.start path = t.start path := by simp [Tree.start, h.cwd]
  obtain rfl := Tree.descend_unique hdown (hstart ▸ hdown')
  obtain rfl : content' = content := by
    simpa using (h.file loc content' hnode').symm.trans hnode
  exact Except.ok.inj (hmembers.symm.trans hmembers')

end NoNewFiles

theorem catalog_eq_ok {listed : Catalog} : catalog t path = .ok listed ↔
    ∃ members, openArchive t path = .ok members ∧ listed = Catalog.ofMembers members := by
  rw [catalog]
  cases openArchive t path <;> simp [bind, Except.bind, pure, Except.pure, eq_comm]

/-- An archive that can be listed can be decompiled. -/
theorem exists_of_catalog {listed : Catalog} (tools : Toolbox) (cfr : Cfr) (options : OpenOptions)
    (h : catalog t path = .ok listed) : ∃ opened, jarProvider tools cfr path options t = .ok opened := by
  simp [jarProvider, openJar, h, bind, Except.bind, pure, Except.pure, Except.mapError]

/-! ### The decompiler

A decoder is made when something has been found, and only then is the decompiler looked for. It may
have to be downloaded, so what the downloader does to files comes between a search and its pass. -/

/-- A downloader that leaves archives as they are when it fetches the jar that is missing. -/
def CfrSource.LeavesArchives (source : CfrSource) : Prop :=
  ∀ jar t t' succeeded path members, source.dataDirectory.map defaultJar = some jar →
    t.exists? jar = false →
    source.download (downloadArguments jar) (makeParent jar t).1 = some (t', succeeded) →
    openArchive t path = .ok members → openArchive t' path = .ok members

theorem openArchive_makeParent (jar : String) (hopen : openArchive t path = .ok members) :
    openArchive (CfrSource.makeParent jar t).1 path = .ok members := by
  rw [CfrSource.makeParent]
  split
  · exact hopen
  · rename_i dir _
    have hmade : openArchive (t.makeDirectories dir).1 path = .ok members :=
      openArchive_of_evolves (Tree.evolves_makeDirectoriesOf_any t _) hopen
    split <;> simp_all

theorem openArchive_install {source : CfrSource} {jar : String} (hleaves : source.LeavesArchives)
    (hjar : source.dataDirectory.map CfrSource.defaultJar = some jar)
    (hmissing : t.exists? jar = false) (hopen : openArchive t path = .ok members) :
    openArchive (source.install jar t).1 path = .ok members := by
  have hkept : openArchive (CfrSource.makeParent jar t).1 path = .ok members :=
    openArchive_makeParent jar hopen
  have hdownload : ∀ t' succeeded, source.download (downloadArguments jar)
      (CfrSource.makeParent jar t).1 = some (t', succeeded) →
        openArchive t' path = .ok members :=
    fun t' succeeded hdone => hleaves jar t t' succeeded path members hjar hmissing hdone hopen
  rw [CfrSource.install]
  generalize CfrSource.makeParent jar t = parent at hkept hdownload ⊢
  obtain ⟨t₁, made⟩ := parent
  cases made with
  | error e => exact hkept
  | ok _ =>
      dsimp only at hkept hdownload ⊢
      split
      · exact hkept
      · exact hdownload _ _ ‹_›
      · exact hdownload _ _ ‹_›

/-- Looking for the decompiler leaves archives as they are. -/
theorem openArchive_resolve {source : CfrSource} (hleaves : source.LeavesArchives)
    (hopen : openArchive t path = .ok members) :
    openArchive (source.resolve t).1 path = .ok members := by
  rw [CfrSource.resolve]
  split
  · exact hopen
  · split
    · exact hopen
    · rename_i jar hjar
      split
      · exact hopen
      · rename_i hmissing
        have hinstalled := openArchive_install hleaves hjar (by simpa using hmissing) hopen
        generalize source.install jar t = installed at hinstalled ⊢
        obtain ⟨t₁, result⟩ := installed
        cases result <;> exact hinstalled

/-! ### Decoders of searches

No pause support was asked for, so the gate stays open and no pass waits for ever. -/

/-- A decoder that a search may go on with. -/
structure Generator.Fits (s : Services) (o : SearchOptions) (g : Generator) : Prop where
  ready : g.decoder.Ready
  gate : g.decoder.pool.pauseSupport = false
  job : ∃ filter, g.decoder.job = { sourceJob s o with sourceFilter := filter }
  opener : ∃ jar, g.opener = jarProvider s.tools { jar }

namespace Generator

variable {g : Generator}

theorem fits_new (s : Services) (o : SearchOptions) (jar : String) :
    Fits s o ⟨jarProvider s.tools { jar }, .ofJob (sourceJob s o) false⟩ :=
  ⟨.ofJob _ _, rfl, ⟨.all, rfl⟩, ⟨jar, rfl⟩⟩

/-- The pass that writes the sources of some classes. -/
def visit (g : Generator) (found : SearchOutcome) (before : World) : Visit where
  archive := found.file
  events := []
  decoder := g.decoder.withSourceFilter (.ofResults found.results)
  world := before.write "Generating sources..."

variable (h : g.Fits s o) (found : SearchOutcome) (before : World)
include h

theorem Fits.job_visit : (g.visit found before).decoder.job =
    { sourceJob s o with sourceFilter := .ofResults found.results } := by
  obtain ⟨filter, hjob⟩ := h.job
  show { g.decoder.job with sourceFilter := .ofResults found.results } = _
  rw [hjob]

theorem Fits.ready_visit : (g.visit found before).decoder.Ready := h.ready.withSourceFilter _

/-- Nothing can keep such a pass from its end. -/
theorem Fits.returns_visit : (g.visit found before).Returns g.opener s.prompt := by
  have hidle := (h.ready_visit found before).idle
  by_contra hheld
  have hclosed := Decoder.isOpen_of_not_returns hidle hheld
  have hopen := (Decoder.keeps_decoderAfter hidle g.opener s.prompt).pauseSupport.trans h.gate
  simp [Pool.isOpen, hopen] at hclosed

theorem Fits.state_visit :
    ((g.visit found before).report g.opener s.prompt).state ∈ [.done, .failed, .skipped] :=
  (Visit.consistent (h.ready_visit found before).idle (h.returns_visit found before)).state

theorem Fits.after : Fits s o
    { g with decoder := (g.visit found before).decoderAfter g.opener s.prompt } := by
  have hready := h.ready_visit found before
  obtain ⟨hjob, hgate⟩ := Decoder.keeps_decoderAfter hready.idle g.opener s.prompt
  have hafter := hready.decoderAfter (h.returns_visit found before)
  rw [h.job_visit found before] at hjob
  generalize (g.visit found before).decoderAfter g.opener s.prompt = dec at hjob hgate hafter ⊢
  exact ⟨hafter, hgate.trans h.gate, ⟨_, hjob⟩, h.opener⟩

end Generator

/-! ### Entries of classes that were found -/

/-- The entries of some classes that are found or have a class inside that is, but for classes that
are called as primitive types are. -/
def foundEntries (paths results : List String) : List ClassEntry :=
  (groupClasses paths).filter fun entry => (entry.aliasPath :: entry.inner).any fun path =>
    results.contains (dotted path) && !primitiveNames.contains (dotted path)

/-- What is found is selected, unless it is called as a primitive type is. -/
theorem ofResults_accepts_of_mem (hbinary : ∀ path ∈ paths, IsBinaryName path)
    (hresults : ∀ name ∈ results, ∃ path ∈ paths, dotted path = name) (hpath : path ∈ paths) :
    (SourceFilter.ofResults results).accepts (rawName path) = true ↔
      dotted path ∈ results ∧ dotted path ∉ primitiveNames := by
  refine ofResults_accepts (fun name hname => ?_) (hbinary path hpath)
  obtain ⟨found, hfound, hdotted⟩ := hresults name hname
  exact ⟨found, hbinary found hfound, hdotted⟩

theorem eligible_ofResults {job : Job} (hfilter : job.sourceFilter = .ofResults results)
    (hbinary : ∀ path ∈ paths, IsBinaryName path)
    (hresults : ∀ name ∈ results, ∃ path ∈ paths, dotted path = name) :
    eligible job (groupClasses paths) = foundEntries paths results := by
  have haccepts : ∀ path ∈ paths, job.sourceFilter.accepts (rawName path) =
      (results.contains (dotted path) && !primitiveNames.contains (dotted path)) := by
    intro path hpath
    rw [hfilter, Bool.eq_iff_iff, ofResults_accepts_of_mem hbinary hresults hpath]
    simp
  refine List.filter_congr fun entry hentry => ?_
  have hgiven := (partitions_groupClasses paths).given entry hentry
  have hraw : entry.rawName = rawName entry.aliasPath := by
    rw [ofPath_of_mem_groupClasses hentry]
    rfl
  rw [isEligible, List.any_cons, hraw, haccepts _ hgiven]
  congr 1
  rw [Bool.eq_iff_iff, List.any_eq_true, List.any_eq_true]
  refine exists_congr fun path => and_congr_right fun hinner => ?_
  rw [haccepts path ((mem_inner hentry).mp hinner).1]

/-- A class is found in some entry, as every class of an archive is covered by one. -/
theorem foundEntries_eq_nil (hresults : ∀ name ∈ results, ∃ path ∈ paths, dotted path = name) :
    foundEntries paths results = [] ↔ ∀ name ∈ results, name ∈ primitiveNames := by
  rw [foundEntries, List.filter_eq_nil_iff]
  constructor
  · intro hnone name hname
    obtain ⟨path, hpath, rfl⟩ := hresults name hname
    obtain ⟨entry, hentry, hcovers⟩ := List.countP_pos_iff.mp
      (Nat.lt_of_lt_of_eq Nat.zero_lt_one (countP_covers hpath).symm)
    by_contra hclass
    refine hnone entry hentry (List.any_eq_true.mpr ⟨path, ?_, by simp [hname, hclass]⟩)
    rw [ClassEntry.covers, Bool.or_eq_true, beq_iff_eq, List.contains_iff_mem] at hcovers
    exact List.mem_cons.mpr (hcovers.imp_left Eq.symm)
  · intro hall entry _ hany
    obtain ⟨path, -, hpath⟩ := List.any_eq_true.mp hany
    simp only [Bool.and_eq_true, List.contains_iff_mem, Bool.not_eq_true'] at hpath
    have hprimitive := hall _ hpath.1
    simp [hprimitive] at hpath

/-! ### Passes -/

/-- A pass that was sent for the sources of what a search found. The classes are those of the
archive when it was searched, and they are the same ones when the pass opens it. -/
structure Generates (s : Services) (o : SearchOptions) (found : SearchOutcome) (listed : Catalog)
    (jar : String) (v : Visit) : Prop where
  archive : v.archive = found.file
  job : v.decoder.job = { sourceJob s o with sourceFilter := .ofResults found.results }
  searched : catalog v.world.tree found.file = .ok listed
  results : ∀ name ∈ found.results, ∃ path ∈ listed.classes, dotted path = name
  state : (v.report (jarProvider s.tools { jar }) s.prompt).state ∈ [.done, .failed, .skipped]
  /-- The pass is done if it gets its directory and finds the archive still there. -/
  done : ∀ dir, (v.decoder.prepareDir s.prompt v.world v.archive).2.2 = .ok (some dir) →
    catalog (v.decoder.preparedTree s.prompt v.world v.archive) found.file = .ok listed →
      (v.report (jarProvider s.tools { jar }) s.prompt).state = .done
  /-- There is one task for every entry in which something is found. -/
  tasks : (∀ path ∈ listed.classes, IsBinaryName path) →
    (v.report (jarProvider s.tools { jar }) s.prompt).state = .done →
    ∃ opened texts, v.Complete (jarProvider s.tools { jar }) s.prompt opened texts ∧
      tasksOf v.decoder.job opened =
        (foundEntries listed.classes found.results).map (classActions v.decoder.job) ∧
      (v.report (jarProvider s.tools { jar }) s.prompt).dispatched =
        (foundEntries listed.classes found.results).length ∧
      ("Nothing to save." ∈ texts ↔ ∀ name ∈ found.results, name ∈ primitiveNames)

/-- A pass that opens the archive that was searched has a task for every entry in which something
is found. -/
theorem Generator.Fits.tasks_visit {g : Generator} {jar : String} {found : SearchOutcome}
    {before : World} {opened : Decompiler} (hfits : g.Fits s o)
    (hopen : openArchive before.tree found.file = .ok members)
    (hsource : jarProvider s.tools { jar } found.file (g.visit found before).decoder.job.openOptions
      ((g.visit found before).decoder.preparedTree s.prompt (g.visit found before).world
        found.file) = .ok opened)
    (hbinary : ∀ path ∈ (Catalog.ofMembers members).classes, IsBinaryName path)
    (hresults : ∀ name ∈ found.results, ∃ path ∈ (Catalog.ofMembers members).classes,
      dotted path = name) :
    tasksOf (g.visit found before).decoder.job opened =
      (foundEntries (Catalog.ofMembers members).classes found.results).map
        (classActions (g.visit found before).decoder.job) := by
  have hjob := hfits.job_visit found before
  have hjar := openJar_of_jarProvider hsource
  obtain ⟨listed, hlisted, -⟩ := openJar_eq_ok hjar
  obtain ⟨members', hopen', rfl⟩ := catalog_eq_ok.mp hlisted
  -- Preparing its directory leaves the archive as it was searched.
  obtain rfl : members = members' := by
    refine NoNewFiles.openArchive_unique ?_ hopen hopen'
    rw [Decoder.preparedTree_eq]
    exact .prepared _ _ _ _
  have hasked : askedClasses (g.visit found before).decoder.job
      (Catalog.ofMembers members).classes =
        foundEntries (Catalog.ofMembers members).classes found.results := by
    rw [askedClasses, if_neg (by rw [hjob]; exact List.cons_ne_nil _ _)]
    exact eligible_ofResults (by rw [hjob]) hbinary hresults
  have htasks := (tasksOf_openJar hjar hlisted (by rw [hjob]; rfl)).1
  rwa [hasked] at htasks

/-- What such a pass comes to. -/
theorem generates_visit {g : Generator} {jar : String} {found : SearchOutcome} {before : World}
    (hfits : g.Fits s o) (hopener : g.opener = jarProvider s.tools { jar })
    (hopen : openArchive before.tree found.file = .ok members)
    (hresults : ∀ name ∈ found.results, ∃ path ∈ (Catalog.ofMembers members).classes,
      dotted path = name) :
    Generates s o found (Catalog.ofMembers members) jar (g.visit found before) := by
  have hjob := hfits.job_visit found before
  refine ⟨rfl, hjob, catalog_eq_ok.mpr ⟨members, hopen, rfl⟩, hresults,
    hopener ▸ hfits.state_visit found before, ?done, ?tasks⟩
  case done =>
    intro dir hplace hstill
    rw [← hopener]
    have hreturns := hfits.returns_visit found before
    obtain ⟨opened, hsource⟩ := exists_of_catalog s.tools { jar }
      (g.visit found before).decoder.job.openOptions hstill
    rw [← hopener] at hsource
    rcases Decoder.state_of_opened (hfits.ready_visit found before).idle hplace hsource with
      hends | hwaits
    · exact hends
    · exact absurd hwaits hreturns
  case tasks =>
    intro hbinary hdone
    rw [← hopener] at hdone ⊢
    have hidle := (hfits.ready_visit found before).idle
    obtain ⟨opened, texts, hcomplete⟩ := (Visit.consistent hidle (hfits.returns_visit found before)).done hdone
    have htasks := hfits.tasks_visit hopen (hopener ▸ hcomplete.source) hbinary hresults
    have hdispatched : ((g.visit found before).report g.opener s.prompt).dispatched =
        (foundEntries (Catalog.ofMembers members).classes found.results).length := by
      rw [hcomplete.dispatched, ← length_tasksOf, htasks, List.length_map]
    refine ⟨opened, texts, hcomplete, htasks, hdispatched, ?_⟩
    rw [hcomplete.nothing, hdispatched, List.length_eq_zero_iff, foundEntries_eq_nil hresults]

/-- What was opened when an archive was searched is there when its sources are generated. -/
theorem openArchive_provider {opener : Provider} {w w' : World} (hleaves : s.cfr.LeavesArchives)
    (hprovider : (provider s).Gives w opener w') (hopen : openArchive w.tree path = .ok members) :
    openArchive w'.tree path = .ok members := by
  obtain ⟨jar, hresolve, -, -⟩ := gives_provider.mp hprovider
  have hstays := openArchive_resolve hleaves hopen
  rwa [hresolve] at hstays

/-- A pass is sent out for everything that is found in an archive, by a decoder that fits and still
fits behind it. -/
theorem generates_of_generating {generator next : Option Generator} {found : SearchOutcome}
    {w w' : World} {generated : List Report} (hwanted : o.genSources = true)
    (hleaves : s.cfr.LeavesArchives) (hfits : ∀ g, generator = some g → g.Fits s o)
    (hresults : ∀ name ∈ found.results, ∃ members, openArchive w.tree found.file = .ok members ∧
      ∃ path ∈ (Catalog.ofMembers members).classes, dotted path = name)
    (h : Generating s o generator found w next generated w') :
    (∀ g, next = some g → g.Fits s o) ∧
      List.Forall₂ (fun found report => ∃ listed jar v, Generates s o found listed jar v ∧
          report = v.report (jarProvider s.tools { jar }) s.prompt)
        ([found].filter fun found => found.results ≠ []) generated := by
  cases h with
  | nothing hnone =>
      have hempty : found.results = [] := hnone.resolve_left (by simp [hwanted])
      exact ⟨hfits, by simp [hempty]⟩
  | pass g before after dec report hgenerator hwanted hsome hpass =>
      -- Something was found, so the archive could be opened when it was searched.
      obtain ⟨name, hname⟩ := List.exists_mem_of_ne_nil _ hsome
      obtain ⟨members, hopen, -⟩ := hresults name hname
      have hlisted : ∀ name ∈ found.results, ∃ path ∈ (Catalog.ofMembers members).classes,
          dotted path = name := by
        intro name hname
        obtain ⟨members', hopen', hpath⟩ := hresults name hname
        obtain rfl := Except.ok.inj (hopen.symm.trans hopen')
        exact hpath
      have hready : g.Fits s o ∧ openArchive before.tree found.file = .ok members := by
        rcases hgenerator with ⟨hg, rfl⟩ | ⟨hopener, hdecoder⟩
        · exact ⟨hfits g hg, hopen⟩
        · obtain ⟨jar, -, -, hjar⟩ := gives_provider.mp hopener
          obtain ⟨opener, decoder⟩ := g
          obtain rfl : opener = _ := hjar
          obtain rfl : decoder = _ := hdecoder
          exact ⟨Generator.fits_new s o jar, openArchive_provider hleaves hopener hopen⟩
      obtain ⟨hg, hbefore⟩ := hready
      obtain ⟨jar, hjar⟩ := hg.opener
      have hresult : (g.visit found before).result g.opener s.prompt = (report, dec, w') := hpass
      have hreport : (g.visit found before).report g.opener s.prompt = report :=
        congrArg Prod.fst hresult
      have hdecoder : (g.visit found before).decoderAfter g.opener s.prompt = dec :=
        congrArg (fun result => result.2.1) hresult
      refine ⟨fun g' hg' => ?_, ?_⟩
      · obtain rfl := Option.some.inj hg'
        exact hdecoder ▸ hg.after found before
      · rw [List.filter_cons_of_pos (by simpa using hsome), List.filter_nil]
        refine .cons ⟨_, jar, _, generates_visit hg hjar hbefore hlisted, ?_⟩ .nil
        rw [← hreport, hjar]

/-- Searching generates the sources of everything that it finds. -/
theorem generates_of_searching {session : Session} {request : Request}
    {generator : Option Generator} {w : World} {archives : List String}
    {searches : List SearchOutcome} {generated : List Report} (hengine : s.engine = nameEngine)
    (hwanted : o.genSources = true) (hleaves : s.cfr.LeavesArchives)
    (hfits : ∀ g, generator = some g → g.Fits s o)
    (h : Searching s o session request generator w archives searches generated) :
    List.Forall₂ (fun found report => ∃ listed jar v, Generates s o found listed jar v ∧
        report = v.report (jarProvider s.tools { jar }) s.prompt)
      (searches.filter fun found => found.results ≠ []) generated := by
  induction h with
  | nil => exact .nil
  | cons generator next w before after archive archives found generated searches reports hfound
      htree hgenerating hrest ih =>
      have hresults : ∀ name ∈ found.results, ∃ members,
          openArchive before.tree found.file = .ok members ∧
            ∃ path ∈ (Catalog.ofMembers members).classes, dotted path = name := by
        intro name hname
        rw [hfound, hengine] at hname
        rw [htree, hfound, Session.file_searchFor]
        exact exists_class_of_result hname
      obtain ⟨hnext, hpassed⟩ :=
        generates_of_generating hwanted hleaves hfits hresults hgenerating
      show List.Forall₂ _ (([found] ++ searches).filter _) _
      rw [List.filter_append]
      exact List.rel_append hpassed (ih hnext)

/-- Of the classes of an archive the results of a search by names select those that are found, but
for classes that are called as primitive types are. A search that generates sources sends out one
pass for every archive in which something is found, with one task for every entry of the archive
that is found or has a class inside that is. Only if all that is found is called as primitive types
are is there nothing to save. -/
theorem sources_cover_what_is_found (s : Services) (hengine : s.engine = nameEngine) :
    (∀ (session : Session) (request : Request) (t : Tree) (archive : String)
        (members : List Member), openArchive t archive = .ok members →
      (∀ path ∈ (Catalog.ofMembers members).classes, IsBinaryName path) →
      ∀ path ∈ (Catalog.ofMembers members).classes,
        ((SourceFilter.ofResults
            (session.searchFor request s.engine t archive).2.results).accepts (rawName path) =
          true ↔ dotted path ∈ (session.searchFor request s.engine t archive).2.results ∧
            dotted path ∉ primitiveNames)) ∧
    ∀ (o : SearchOptions) (w w' : World) (searches : List SearchOutcome) (generated : List Report),
      o.genSources = true → s.cfr.LeavesArchives →
      (Operation.search o).runIn s w = (.ok (.search searches generated), w') →
      List.Forall₂ (fun found report => ∃ listed jar v, Generates s o found listed jar v ∧
          report = v.report (jarProvider s.tools { jar }) s.prompt)
        (searches.filter fun found => found.results ≠ []) generated := by
  constructor
  · intro session request t archive members hopen hbinary path hpath
    rw [hengine]
    refine ofResults_accepts_of_mem hbinary (fun name hname => ?_) hpath
    obtain ⟨members', hopen', hfound⟩ := exists_class_of_result hname
    obtain rfl := Except.ok.inj (hopen.symm.trans hopen')
    exact hfound
  · intro o w w' searches generated hwanted hleaves hrun
    obtain ⟨-, session, request, archives, -, -, hsearching⟩ := searching_of_runIn hrun
    -- No decoder is there before the first archive.
    exact generates_of_searching hengine hwanted hleaves (fun g hg => absurd hg (by simp)) hsearching

/-- Tools with a decompiler that was given, and nobody to ask. -/
def givenServices : Services where
  engine := nameEngine
  prompt := .fixed .skip
  tools := plainTools
  cfr := { option := some "cfr.jar" }

/-- A search for the sources of a class. -/
def sourceSearch (name : String) : SearchOptions :=
  { files := ["app.jar"], query := { classNames := [name] }, genSources := true, output := "out" }

/-- The source of a class that is found is written by one task. -/
theorem source_of_found_class :
    (SourceFilter.ofResults ["com.Main"]).accepts (rawName "com/Main") = true ∧
      ∃ listed jar v, Generates givenServices (sourceSearch "Main")
          { file := "app.jar", results := ["com.Main"] } listed jar v ∧
        (v.report (jarProvider givenServices.tools { jar }) givenServices.prompt).dispatched = 1 := by
  have hrun : ((Operation.search (sourceSearch "Main")).runIn givenServices
      { tree := treeWithClass "com/Main" }).1 = .ok (.search
        [{ file := "app.jar", results := ["com.Main"] }]
        [{ archive := "app.jar", outputDir := some "out/app.jar_sources", state := .done
           dispatched := 1 }]) := by
    decide +kernel
  have hleaves : givenServices.cfr.LeavesArchives := by
    intro jar t t' succeeded path members _ _ hdownload
    exact absurd hdownload (by simp [givenServices])
  obtain ⟨hselects, hgenerates⟩ := sources_cover_what_is_found givenServices rfl
  have hpasses := hgenerates (sourceSearch "Main") _ _ _ _ rfl hleaves (Prod.ext hrun rfl)
  obtain ⟨⟨listed, jar, v, hpass, hreport⟩, -⟩ := List.forall₂_cons.mp hpasses
  have hfound : (({ mode := .classes } : Session).searchFor ⟨{ classSimpleNames := ["Main"] }, {}, {}⟩
      givenServices.engine (treeWithClass "com/Main") "app.jar").2.results = ["com.Main"] := by
    decide +kernel
  have haccepts := hselects { mode := .classes }
    ⟨{ classSimpleNames := ["Main"] }, {}, {}⟩ (treeWithClass "com/Main") "app.jar"
    [⟨"com/Main.class", []⟩] (by decide +kernel) (by decide +kernel) "com/Main" (by decide +kernel)
  rw [hfound] at haccepts
  exact ⟨haccepts.mpr (by decide +kernel), listed, jar, v, hpass, by rw [← hreport]⟩

/-- A class that is called as a primitive type is found and then passed by. -/
theorem class_called_as_primitive_is_passed_by :
    IsBinaryName "int" ∧
      (SourceFilter.ofResults ["int"]).accepts (rawName "int") = false ∧
      ((Operation.search (sourceSearch "int")).runIn givenServices
        { tree := treeWithClass "int" }).1 = .ok (.search
          [{ file := "app.jar", results := ["int"] }]
          [{ archive := "app.jar", outputDir := some "out/app.jar_sources", state := .done
             dispatched := 0 }]) ∧
      "Nothing to save." ∈ ((Operation.search (sourceSearch "int")).runIn givenServices
        { tree := treeWithClass "int" }).2.shown.lines := by
  decide +kernel

end ArchiveScout.Command
