import ArchiveScout.Proofs.Decode.Acceptance
import ArchiveScout.Proofs.Decode.Accounting
import ArchiveScout.Proofs.Decode.Log

/-!
# ArchiveScout.Proofs.Decode.Scheduling

**What depends on the order in which workers take turns.** How many workers there are, and how
often they are held up or paused, never shows in the state of a pass and in what it dispatched. Its
failures and the lines of its log do not depend on the order if the file system refuses nothing.
Where the names of classes and resources stay apart they do not depend on it whatever is refused,
for then a class may change places with another one of the same base name, and that is all; and
neither do the files.
-/

namespace ArchiveScout.Decode

open ArchiveScout.Archive (ClassEntry)
open ArchiveScout.Console (Prompt)
open ArchiveScout.File
open ArchiveScout.File.Tree (steps)
open PathResolver (StaysBelow names)

variable {d : Decompiler} {dir base : String} {job : Job} {w w' v' : Workspace} {x : Deed}
  {xs ys : List Deed} {loc l : Location} {source : String → Tree → Outcome (List UInt8)}
  {content : String → Outcome (List UInt8)} {taken : Action → Bool} {entry : ClassEntry}
  {kind : Kind} {n : Nat}

/-- Every index that was handed out has a class, whose texts are tried there. -/
theorem Trace.exists_texts (h : Trace d dir (tasksOf job d) w xs w') (hsave : d.SavesFrom source)
    (hn : n ∈ indices w.resolver base xs) : ∃ c, Selected job d c ∧ w.resolver.baseOf c = base ∧
      ∀ kind ∈ writtenKinds d c job.kinds, (d.text kind c).isDone = true ∧
        ∃ x ∈ xs, x.action = .text kind c ∧ x.progress.paths = w.resolver.candidate base n := by
  obtain ⟨x, hx, hindex⟩ := List.mem_filterMap.mp hn
  obtain ⟨c, haction, rfl, rfl⟩ := Deed.index?_eq_some hindex
  obtain ⟨hselected, behind, first, zs, ending, hpiece, hmem, hsub⟩ :=
    h.exists_piece hx (.inl haction)
  -- Only the first deed of a piece hands out paths.
  obtain rfl : x = first := by
    refine (List.mem_cons.mp hmem).resolve_right fun hzs => ?_
    rcases hpiece.action_mem x hzs with ⟨kind, -, hother⟩ | hother <;>
      exact absurd (haction.symm.trans hother) (by simp)
  have hhanded := linked_handed h.linked hx haction
  refine ⟨c, hselected, rfl, fun kind hkind => ?_⟩
  obtain ⟨hdone, y, hy, hyaction⟩ := (hpiece.mem_writtenKinds hsave).mp hkind
  exact ⟨hdone, y, hsub (List.mem_cons_of_mem x hy), hyaction,
    Option.some.inj ((hpiece.paths y hy).symm.trans hhanded)⟩

/-- Classes with the same base name, which can change places, have the same kinds of text to
write. -/
def SameKinds (job : Job) (d : Decompiler) (r : PathResolver) : Prop :=
  ∀ c c', Selected job d c → Selected job d c' → r.baseOf c = r.baseOf c' →
    writtenKinds d c job.kinds = writtenKinds d c' job.kinds

/-- No resource has the name of the log. -/
def SparesLog (job : Job) (d : Decompiler) (content : String → Outcome (List UInt8)) : Prop :=
  ∀ name, Requested job d name → (content name).isDone = true → steps name ≠ [failureLogName]

/-! ### Two runs -/

section Runs

variable (h : Trace d dir (tasksOf job d) w xs w') (h' : Trace d dir (tasksOf job d) w ys v')
  (hsave : d.SavesFrom source) (hstart : w.Starts dir loc)
  (hways : ClearWays job d w.resolver content) (hsteady : ∀ x ∈ xs, x.Steady source content)
  (hsteady' : ∀ y ∈ ys, y.Steady source content)

include h hsave hstart hways hsteady

/-- Every file of a run is a text at an index that was handed out, or a resource, and the tree at
the start takes it. -/
theorem Trace.location_cases (hx : x ∈ xs) (hl : x.location? d dir = some l) :
    (∃ kind c, Selected job d c ∧ kind ∈ writtenKinds d c job.kinds ∧
      ∃ n ∈ indices w.resolver (w.resolver.baseOf c) xs,
        takes w.tree ((w.resolver.candidate (w.resolver.baseOf c) n).of kind) = true ∧
        l = loc ++ names w.resolver.flatten (w.resolver.baseOf c) n kind) ∨
    ∃ name, x.action = .resource name ∧ Requested job d name ∧ (content name).isDone = true ∧
      takes w.tree (Path.join dir name) = true ∧ l = loc ++ steps name := by
  have hdir := (linked_files h.linked hsave hstart.stands).1 x hx
  obtain ⟨path, houtput⟩ := Deed.exists_output_of_location hl
  have hsome : (x.output? d dir).isSome := by simp [houtput]
  have hcontent := Deed.content?_of_output? hsave hsome
  have htaken : ∀ {path}, x.path? dir = some path → takes w.tree path = true := fun hpath =>
    (h.output?_isSome hsave hstart hways hsteady hx hcontent hpath).symm.trans hsome
  cases haction : x.action with
  | text kind c =>
      rw [Deed.content?_text haction] at hcontent
      have hkind := h.mem_writtenKinds hsave hx haction hcontent
      rw [← List.append_nil xs] at h
      obtain ⟨hselected, n, hn, hpaths⟩ := h.text_index hx haction
      have hlocation := Deed.location?_candidate hsave hdir hstart.root (hways.below c hselected)
        haction hpaths hsome
      have htakes := htaken (Deed.path?_text dir haction)
      exact .inl ⟨kind, c, hselected, hkind, n, hn, hpaths ▸ htakes,
        Option.some.inj (hl.symm.trans hlocation)⟩
  | resource name =>
      rw [Deed.content?_resource haction, hsteady x hx name haction] at hcontent
      have hrequested := h.resource_mem hx haction
      have hlocation := Deed.location?_resource hsave hdir hstart.nonempty
        (hways.contained name hrequested hcontent) haction hsome
      exact .inr ⟨name, rfl, hrequested, hcontent, htaken (Deed.path?_resource dir haction),
        Option.some.inj (hl.symm.trans hlocation)⟩
  | reserve c => simp [Deed.output?, haction] at houtput
  | settle c => simp [Deed.output?, haction] at houtput

/-- The log at the end of a run: what it held, and behind that the lines of the run, unless the
tree takes no log. -/
theorem Trace.file?_log (hspares : SparesLog job d content) : w'.tree.file? (logLocation loc) =
    logged (w.tree.file? (logLocation loc))
      (if takes w.tree (failureLogPath dir) then xs.filterMap (Deed.record? d dir) else []) := by
  rw [← h.filterMap_accepted? hsave hstart hways hsteady]
  refine linked_log h.linked hsave hstart.stands fun x hx hl => ?_
  rcases h.location_cases hsave hstart hways hsteady hx hl with
    ⟨kind, c, -, -, n, -, -, heq⟩ | ⟨name, -, hrequested, hdone, -, heq⟩
  · exact PathResolver.names_ne_log _ _ _ _ (List.append_cancel_left heq).symm
  · exact hspares name hrequested hdone (List.append_cancel_left heq).symm

include h' hsteady'

/-- In both of two runs the same actions write what they have to write. -/
theorem Trace.decided_both (halike : TakenAlike job d w (xs ++ ys)) :
    Decided d dir source content (takenAt w dir (xs ++ ys)) xs ∧
      Decided d dir source content (takenAt w dir (xs ++ ys)) ys :=
  ⟨h.decided hsave hstart hways hsteady halike (List.subset_append_left xs ys),
    h'.decided hsave hstart hways hsteady' halike (List.subset_append_right xs ys)⟩

section Places

variable (hapart : NamesApart job d w.resolver content) (hkinds : SameKinds job d w.resolver)

include hapart

omit hways in
/-- Two runs hand out the same indices for a base name. -/
theorem Trace.indices_subset (base : String) :
    indices w.resolver base xs ⊆ indices w.resolver base ys := by
  have hlength : (indices w.resolver base xs).length ≤ (indices w.resolver base ys).length := by
    rw [length_indices, length_indices]
    exact Nat.le_of_eq ((Trace.perm_actions hsave h hsteady h' hsteady').countP_eq _)
  rw [← List.append_nil xs] at h
  rw [← List.append_nil ys] at h'
  -- Both are first indices, so it is enough that there are as many.
  exact (h.firstOf_indices hsave hstart hapart hsteady base).subset
    (h'.firstOf_indices hsave hstart hapart hsteady' base) hlength

omit hways in
/-- Where no two classes come to the same base name, the only index for it is the same in both
runs. -/
theorem Trace.takenAlike (hone : ∀ c, Selected job d c →
      (indices w.resolver (w.resolver.baseOf c) xs).length ≤ 1) : TakenAlike job d w (xs ++ ys) := by
  intro c hc kind _ n hn m hm
  have hsub : indices w.resolver (w.resolver.baseOf c) (xs ++ ys) ⊆
      indices w.resolver (w.resolver.baseOf c) xs := by
    rw [indices, List.filterMap_append]
    exact List.append_subset.mpr ⟨List.Subset.refl _,
      h'.indices_subset h hsave hstart hsteady' hsteady hapart _⟩
  have hn' := hsub hn
  have hm' := hsub hm
  have hlength := hone c hc
  generalize indices w.resolver (w.resolver.baseOf c) xs = shared at hn' hm' hlength
  rcases shared with _ | ⟨only, _ | ⟨other, rest⟩⟩
  · exact absurd hn' List.not_mem_nil
  · rw [List.mem_singleton.mp hn', List.mem_singleton.mp hm']
  · exact absurd hlength (by simp)

include hkinds

/-- A file that one run writes is written by the other one. -/
theorem Trace.exists_location (hx : x ∈ xs) (hl : x.location? d dir = some l) :
    ∃ y ∈ ys, y.location? d dir = some l := by
  have hstands := (linked_files h'.linked hsave hstart.stands).1
  rcases h.location_cases hsave hstart hways hsteady hx hl with
    ⟨kind, c, hselected, hkind, n, hn, htakes, rfl⟩ |
      ⟨name, haction, hrequested, hdone, htakes, rfl⟩
  · have hn' := h.indices_subset h' hsave hstart hsteady hsteady' hapart _ hn
    -- In the other run the index may go to another class, with the same kinds of text.
    obtain ⟨c', hselected', hbase, htexts⟩ := h'.exists_texts hsave hn'
    rw [hkinds c c' hselected hselected' hbase.symm] at hkind
    obtain ⟨hdone, y, hy, haction, hpaths⟩ := htexts kind hkind
    refine ⟨y, hy, Deed.location?_candidate hsave (hstands y hy) hstart.root
      (hways.below c hselected) haction hpaths ?_⟩
    rw [h'.output?_isSome hsave hstart hways hsteady' hy
      (by rw [Deed.content?_text haction, hdone]) (Deed.path?_text dir haction), hpaths]
    exact htakes
  · have hmem := (Trace.perm_actions hsave h hsteady h' hsteady').mem_iff.mp
      (List.mem_map_of_mem hx)
    obtain ⟨y, hy, hyaction⟩ := List.mem_map.mp hmem
    rw [haction] at hyaction
    refine ⟨y, hy, Deed.location?_resource hsave (hstands y hy) hstart.nonempty
      (hways.contained name hrequested hdone) hyaction ?_⟩
    rw [h'.output?_isSome hsave hstart hways hsteady' hy
      (by rw [Deed.content?_resource hyaction, hsteady' y hy name hyaction, hdone])
      (Deed.path?_resource dir hyaction)]
    exact htakes

/-- Two runs that log the same lines leave files at the same locations. -/
theorem Trace.hasFile_iff
    (hperm : (xs.filterMap (Deed.record? d dir)).Perm (ys.filterMap (Deed.record? d dir)))
    (l : Location) : w'.tree.HasFile l ↔ v'.tree.HasFile l := by
  have hlocations : (∃ x ∈ xs, x.location? d dir = some l) ↔
      ∃ y ∈ ys, y.location? d dir = some l :=
    ⟨fun ⟨_, hx, hl⟩ =>
        h.exists_location h' hsave hstart hways hsteady hsteady' hapart hkinds hx hl,
      fun ⟨_, hy, hl⟩ =>
        h'.exists_location h hsave hstart hways hsteady' hsteady hapart hkinds hy hl⟩
  have hrecords : (∃ x ∈ xs, (x.accepted? d dir).isSome) ↔
      ∃ y ∈ ys, (y.accepted? d dir).isSome := by
    have hlength : (xs.filterMap (Deed.accepted? d dir)).length =
        (ys.filterMap (Deed.accepted? d dir)).length := by
      rw [h.filterMap_accepted? hsave hstart hways hsteady,
        h'.filterMap_accepted? hsave hstart hways hsteady']
      split
      · exact hperm.length_eq
      · rfl
    rw [List.length_filterMap_eq_countP, List.length_filterMap_eq_countP] at hlength
    rw [← List.countP_pos_iff, hlength, List.countP_pos_iff]
  rw [linked_hasFile h.linked hsave hstart.stands, linked_hasFile h'.linked hsave hstart.stands,
    hlocations, hrecords]

end Places

end Runs

/-! ### Passes -/

/-- Jobs that differ at most in their workers, and in whether these can be paused. -/
def Job.SameWork (job job' : Job) : Prop :=
  job' = { job with threads := job'.threads, pauseEnabled := job'.pauseEnabled }

/-- Two passes over an archive with the same work, from the same files, and with the same answer
about the output directory. -/
structure SamePass (prompt : Prompt) (archive : String) (dec dec' : Decoder) (w w' : World) :
    Prop where
  ready : dec.Ready
  ready' : dec'.Ready
  work : dec.job.SameWork dec'.job
  tree : w'.tree = w.tree
  answer : dec'.answer prompt w' archive = dec.answer prompt w archive

/-- As many failures are reported, and the same lines go to the log, if in another order. -/
def SameFailures (report report' : Report) (lines lines' : List String) : Prop :=
  report.failed = report'.failed ∧ lines.Perm lines'

namespace SamePass

variable {prompt : Prompt} {archive : String} {dec dec' : Decoder} {w w' : World}

theorem outputDir_eq (h : SamePass prompt archive dec dec' w w') :
    outputDir dec'.job archive = outputDir dec.job archive := by
  rw [h.work]
  rfl

theorem tasksOf_eq (h : SamePass prompt archive dec dec' w w') (opened : Decompiler) :
    tasksOf dec'.job opened = tasksOf dec.job opened := by
  rw [h.work]
  rfl

theorem preparedTree_eq (h : SamePass prompt archive dec dec' w w') :
    dec'.preparedTree prompt w' archive = dec.preparedTree prompt w archive := by
  have hflatten : dec'.job.flatten = dec.job.flatten := by rw [h.work]
  rw [Decoder.preparedTree_eq, Decoder.preparedTree_eq, h.outputDir_eq, hflatten, h.tree, h.answer]

theorem passStart_eq (h : SamePass prompt archive dec dec' w w') :
    dec'.passStart prompt w' archive = dec.passStart prompt w archive := by
  have hflatten : dec'.job.flatten = dec.job.flatten := by rw [h.work]
  rw [Decoder.passStart, Decoder.passStart, h.preparedTree_eq, Decoder.space, Decoder.space,
    h.outputDir_eq, hflatten]

theorem reported_eq (h : SamePass prompt archive dec dec' w w') (provider : Provider) :
    Decoder.reported provider dec'.job archive (Decoder.prepared (outputDir dec'.job archive)
        dec'.job.flatten (dec'.answer prompt w' archive) w'.tree) =
      Decoder.reported provider dec.job archive (Decoder.prepared (outputDir dec.job archive)
        dec.job.flatten (dec.answer prompt w archive) w.tree) := by
  have hflatten : dec'.job.flatten = dec.job.flatten := by rw [h.work]
  rw [h.answer, h.tree, h.outputDir_eq, hflatten]
  generalize Decoder.prepared _ _ _ _ = result
  obtain ⟨t, made⟩ := result
  rw [h.work]
  rcases made with e | _ | dir <;> rfl

theorem passRecords_eq (h : SamePass prompt archive dec dec' w w') (opened : Decompiler)
    (events : List Event) : dec'.passRecords prompt w' archive opened events =
      (dec'.passDeeds prompt w' archive opened events).filterMap
        (Deed.record? opened (outputDir dec.job archive)) := by
  rw [Decoder.passRecords, h.outputDir_eq]

/-- Both passes follow the same tasks from the same start. -/
theorem trace (h : SamePass prompt archive dec dec' w w') {provider : Provider}
    {opened : Decompiler} {events : List Event} {report : Report} {after : World}
    (hpassed : dec'.Passed provider prompt w' archive events opened report after) :
    Trace opened (outputDir dec.job archive) (tasksOf dec.job opened)
      (dec.passStart prompt w archive) (dec'.passDeeds prompt w' archive opened events)
      (dec'.passEnd prompt w' archive opened events) := by
  have htrace := hpassed.trace
  rwa [h.outputDir_eq, h.tasksOf_eq, h.passStart_eq] at htrace

/-- Passes in which the same actions write what they have to write have the same failures. -/
theorem sameFailures (h : SamePass prompt archive dec dec' w w') {provider : Provider}
    {opened : Decompiler} {events events' : List Event} {report report' : Report}
    {after after' : World}
    (hfirst : dec.Passed provider prompt w archive events opened report after)
    (hsecond : dec'.Passed provider prompt w' archive events' opened report' after')
    (hsave : opened.SavesFrom source)
    (hdecided : Decided opened (outputDir dec.job archive) source content taken
      (dec.passDeeds prompt w archive opened events))
    (hdecided' : Decided opened (outputDir dec.job archive) source content taken
      (dec'.passDeeds prompt w' archive opened events')) :
    SameFailures report report' (dec.passRecords prompt w archive opened events)
      (dec'.passRecords prompt w' archive opened events') := by
  have htrace := hfirst.trace
  have htrace' := h.trace hsecond
  have hperm := Trace.perm_records hsave htrace hdecided htrace' hdecided'
  rw [h.passRecords_eq, Decoder.passRecords]
  refine ⟨?_, hperm⟩
  rw [hfirst.failed, hsecond.failed, failed_linked htrace.linked, failed_linked htrace'.linked,
    hperm.length_eq]

end SamePass

theorem Report.state_eq {r r' : Report} (h : { r with failed := 0 } = { r' with failed := 0 }) :
    r.state = r'.state :=
  (Report.mk.inj h).2.2.1

/-- The lines of a pass that its log takes: all of them, or none. -/
def Decoder.logLines (dec : Decoder) (prompt : Prompt) (w : World) (archive : String)
    (opened : Decompiler) (events : List Event) : List String :=
  if takes (dec.preparedTree prompt w archive) (failureLogPath (outputDir dec.job archive)) then
    dec.passRecords prompt w archive opened events
  else []

/-- Two passes with the same work, whatever their workers, however these take turns and whenever
they are paused and resumed, report the same but for failures, if both come to their ends. Where
answers are the same, their failures are the same if the file system refuses nothing. Whatever it
refuses, they are so where ways are clear and the texts of a class are taken alike at all of its
indices. Then each log ends in the lines of its pass, if no resource is written in place of it; and
files are left at the same locations, if names stay apart and classes with the same base name have
the same kinds of text to write. -/
theorem pass_independent_of_order {prompt : Prompt} {archive : String} {dec dec' : Decoder}
    {w w' : World} (hsame : SamePass prompt archive dec dec' w w') (provider : Provider)
    (events events' : List Event)
    (hend : (dec.decode provider prompt w archive events).1.state ≠ .awaiting)
    (hend' : (dec'.decode provider prompt w' archive events').1.state ≠ .awaiting) :
    { (dec.decode provider prompt w archive events).1 with failed := 0 } =
      { (dec'.decode provider prompt w' archive events').1 with failed := 0 } ∧
    ((dec.decode provider prompt w archive events).1.state = .done → ∃ opened loc,
      provider archive dec.job.openOptions (dec.preparedTree prompt w archive) = .ok opened ∧
      (dec.preparedTree prompt w archive).Stands (outputDir dec.job archive) loc ∧
      ∀ source content, opened.SavesFrom source →
        (∀ x ∈ dec.passDeeds prompt w archive opened events, x.Steady source content) →
        (∀ x ∈ dec'.passDeeds prompt w' archive opened events', x.Steady source content) →
        ((∀ x ∈ dec.passDeeds prompt w archive opened events,
            ¬ x.Refused opened (outputDir dec.job archive) source) →
          (∀ x ∈ dec'.passDeeds prompt w' archive opened events',
            ¬ x.Refused opened (outputDir dec.job archive) source) →
          SameFailures (dec.decode provider prompt w archive events).1
            (dec'.decode provider prompt w' archive events').1
            (dec.passRecords prompt w archive opened events)
            (dec'.passRecords prompt w' archive opened events')) ∧
        (w.tree.Closed →
          ClearWays dec.job opened (dec.passStart prompt w archive).resolver content →
          TakenAlike dec.job opened (dec.passStart prompt w archive)
            (dec.passDeeds prompt w archive opened events ++
              dec'.passDeeds prompt w' archive opened events') →
          SameFailures (dec.decode provider prompt w archive events).1
            (dec'.decode provider prompt w' archive events').1
            (dec.passRecords prompt w archive opened events)
            (dec'.passRecords prompt w' archive opened events') ∧
          (SparesLog dec.job opened content →
            (dec.decode provider prompt w archive events).2.2.tree.file? (logLocation loc) =
              logged ((dec.preparedTree prompt w archive).file? (logLocation loc))
                (dec.logLines prompt w archive opened events) ∧
            (dec'.decode provider prompt w' archive events').2.2.tree.file? (logLocation loc) =
              logged ((dec.preparedTree prompt w archive).file? (logLocation loc))
                (dec'.logLines prompt w' archive opened events')) ∧
          (NamesApart dec.job opened (dec.passStart prompt w archive).resolver content →
            SameKinds dec.job opened (dec.passStart prompt w archive).resolver →
            ∀ l, (dec.decode provider prompt w archive events).2.2.tree.HasFile l ↔
              (dec'.decode provider prompt w' archive events').2.2.tree.HasFile l))) := by
  obtain ⟨-, hreport, hpassed⟩ := Decoder.decode_spec hsame.ready.idle provider prompt w archive
    events hend
  obtain ⟨-, hreport', hpassed'⟩ := Decoder.decode_spec hsame.ready'.idle provider prompt w' archive
    events' hend'
  rw [hsame.reported_eq] at hreport'
  have hreports : { (dec.decode provider prompt w archive events).1 with failed := 0 } =
      { (dec'.decode provider prompt w' archive events').1 with failed := 0 } := by
    rw [hreport, hreport']
  refine ⟨hreports, fun hdone => ?_⟩
  have hdone' : (dec'.decode provider prompt w' archive events').1.state = .done :=
    (Report.state_eq hreports).symm.trans hdone
  obtain ⟨opened, hfirst⟩ := hpassed hdone
  obtain ⟨opened', hsecond⟩ := hpassed' hdone'
  obtain ⟨loc, hstands⟩ := hfirst.stands
  have hopened := hsecond.source
  rw [hsame.preparedTree_eq, hsame.work] at hopened
  obtain rfl : opened' = opened := Except.ok.inj (hopened.symm.trans hfirst.source)
  refine ⟨opened', loc, hfirst.source, hstands, fun source content hsave hsteady hsteady' => ?_⟩
  refine ⟨fun hsmooth hsmooth' => ?_, fun hclosed hways halike => ?_⟩
  · exact hsame.sameFailures hfirst hsecond hsave (Undisturbed.decided ⟨hsteady, hsmooth⟩)
      (Undisturbed.decided ⟨hsteady', hsmooth'⟩)
  -- The second pass is seen from the start of the first one, with the same tasks.
  have htrace := hfirst.trace
  have htrace' := hsame.trace hsecond
  have hstart := Decoder.starts hclosed hstands
  obtain ⟨hdecided, hdecided'⟩ :=
    htrace.decided_both htrace' hsave hstart hways hsteady hsteady' halike
  refine ⟨hsame.sameFailures hfirst hsecond hsave hdecided hdecided', fun hspares => ⟨?_, ?_⟩,
    fun hapart hkinds => ?_⟩
  · rw [hfirst.tree]
    exact htrace.file?_log hsave hstart hways hsteady hspares
  · rw [hsecond.tree, Decoder.logLines, hsame.preparedTree_eq, hsame.outputDir_eq,
      hsame.passRecords_eq]
    exact htrace'.file?_log hsave hstart hways hsteady' hspares
  · rw [hfirst.tree, hsecond.tree]
    exact htrace.hasFile_iff htrace' hsave hstart hways hsteady hsteady' hapart hkinds
      (Trace.perm_records hsave htrace hdecided htrace' hdecided')

/-- A decompiler with two classes of the same simple name, of which one has no source, and with
resources. -/
def twins (resources : List String) : Decompiler where
  batches := [[.ofPath "a/Main"], [.ofPath "b/Main"]]
  resources := resources
  java := fun entry =>
    if entry.aliasPath = "a/Main" then .failed ["no source"] else .done entry.fullName
  smali := fun _ => .failed ["no listing"]
  save := fun name dir t => saveFound name dir t (.done [])

/-- A new decoder with some workers, with pause support if these are more than one. -/
def crew (flatten : Bool) (threads : Nat) : Decoder :=
  .ofJob { outputRoot := "out", flatten, threads, pauseEnabled := 1 < threads }

/-- The pass of such a decoder over the archive of a decompiler. -/
def crewPass (flatten : Bool) (threads : Nat) (d : Decompiler) (events : List Event) :
    Report × Decoder × World :=
  (crew flatten threads).decode (fun _ _ _ => .ok d) (.fixed .skip) { tree := {} } "app.jar" events

/-- A worker takes the last task, the gate is closed before the others get through, and some time
later it is opened again. -/
def breakAndTurns : List Event :=
  [.work 3, .gate .pause, .work 1, .work 3, .work 0, .gate .resume, .work 2, .work 2, .work 1]

theorem savesFrom_twins (resources : List String) :
    (twins resources).SavesFrom fun _ _ => .done [] := by
  intro name dir t
  simp only [twins]

theorem twins_selected {resources : List String} {c : ClassEntry}
    (h : Selected job (twins resources) c) : c = .ofPath "a/Main" ∨ c = .ofPath "b/Main" := by
  obtain ⟨batch, hbatch, hc⟩ := h
  have hmem := List.mem_of_mem_filter hc
  simp only [twins, List.mem_cons, List.not_mem_nil, or_false] at hbatch
  rcases hbatch with rfl | rfl
  · exact .inl (List.mem_singleton.mp hmem)
  · exact .inr (List.mem_singleton.mp hmem)

/-- Without flattening, a twin has its own base name. -/
theorem twins_baseOf {resources : List String} {c : ClassEntry}
    (h : Selected job (twins resources) c) :
    (c = .ofPath "a/Main" ∧
      PathResolver.baseOf ⟨"out/app.jar_sources", false, []⟩ c = "a/Main") ∨
    (c = .ofPath "b/Main" ∧
      PathResolver.baseOf ⟨"out/app.jar_sources", false, []⟩ c = "b/Main") := by
  rcases twins_selected h with rfl | rfl
  · exact .inl ⟨rfl, by decide⟩
  · exact .inr ⟨rfl, by decide⟩

/-- Without flattening, a twin is written in a folder of its own. -/
theorem twins_names {resources : List String} {c : ClassEntry}
    (h : Selected job (twins resources) c) : ∃ folder,
      PathResolver.baseOf ⟨"out/app.jar_sources", false, []⟩ c = folder ++ "/Main" ∧
      StaysBelow (folder ++ "/Main") ∧ ∀ n kind, names false (folder ++ "/Main") n kind =
        [kind.folder, folder, PathResolver.lastName (folder ++ "/Main") n kind] := by
  have hnames : ∀ folder n kind, Path.pieces (folder ++ "/Main") = [folder, "Main"] →
      Path.isStep folder = true → names false (folder ++ "/Main") n kind =
        [kind.folder, folder, PathResolver.lastName (folder ++ "/Main") n kind] := by
    intro folder n kind hpieces hstep
    rw [names, PathResolver.steps_fileName_eq, hpieces]
    simp [hstep]
  rcases twins_baseOf h with ⟨-, heq⟩ | ⟨-, heq⟩
  · exact ⟨"a", heq, by decide, fun n kind => hnames "a" n kind (by decide) (by decide)⟩
  · exact ⟨"b", heq, by decide, fun n kind => hnames "b" n kind (by decide) (by decide)⟩

theorem twins_requested {name : String} (h : Requested job (twins ["res/a.txt", "docs/"]) name) :
    isContained name = true ∧ (steps name = ["res", "a.txt"] ∨ steps name = ["docs"]) := by
  rcases List.mem_pair.mp h.1 with rfl | rfl
  · exact ⟨by decide, .inl (by decide)⟩
  · exact ⟨by decide, .inr (by decide)⟩

theorem folder_ne (kind : Kind) : kind.folder ≠ "res" ∧ kind.folder ≠ "docs" ∧
    kind.folder ≠ failureLogName := by
  cases kind <;> decide

theorem twins_inside : NamesInside { outputRoot := "out" } (twins ["res/a.txt", "docs/"])
    ⟨"out/app.jar_sources", false, []⟩ fun _ => .done [] := by
  refine ⟨fun c hc => ?_, fun name hname _ => (twins_requested hname).1⟩
  obtain ⟨folder, hbase, hbelow, -⟩ := twins_names hc
  rwa [hbase]

/-- Without flattening, the twins and resources in other folders stay apart. -/
theorem twins_apart : NamesApart { outputRoot := "out" } (twins ["res/a.txt", "docs/"])
    ⟨"out/app.jar_sources", false, []⟩ fun _ => .done [] := by
  refine ⟨twins_inside, ?_, ?_⟩
  · intro c c' hc hc' hne n n' kind kind' _ _ hbegins
    obtain ⟨folder, hbase, -, hpath⟩ := twins_names hc
    obtain ⟨folder', hbase', -, hpath'⟩ := twins_names hc'
    rw [hbase, hbase', hpath, hpath'] at hbegins
    rw [hbase, hbase'] at hne
    obtain ⟨-, hrest⟩ := List.cons_prefix_cons.mp hbegins
    exact hne (by rw [(List.cons_prefix_cons.mp hrest).1])
  · intro c name hc hname _ n kind _
    obtain ⟨folder, hbase, -, hpath⟩ := twins_names hc
    rw [hbase, hpath]
    rcases (twins_requested hname).2 with heq | heq <;> rw [heq] <;>
      simp [List.cons_prefix_cons, folder_ne kind]

/-- Without flattening, the ways to the twins and to resources in other folders are clear. -/
theorem twins_ways : ClearWays { outputRoot := "out" } (twins ["res/a.txt", "docs/"])
    ⟨"out/app.jar_sources", false, []⟩ fun _ => .done [] := by
  have hwanted : ∀ found, Wanted { outputRoot := "out" } (twins ["res/a.txt", "docs/"])
      ⟨"out/app.jar_sources", false, []⟩ (fun _ => .done []) found →
      (∃ (kind : Kind) (folder last : String), found = [kind.folder, folder, last]) ∨
        found = ["res", "a.txt"] ∨ found = ["docs"] := by
    rintro _ (⟨hc, -, -⟩ | ⟨hname, -, -⟩)
    · obtain ⟨folder, hbase, -, hpath⟩ := twins_names hc
      exact .inl ⟨_, folder, _, by rw [hbase, hpath]⟩
    · exact .inr (twins_requested hname).2
  refine ⟨twins_inside, fun found more hfound hmore => ?_, fun found hfound => ?_⟩
  · rintro ⟨hbegins, hne⟩
    rcases hwanted found hfound with ⟨kind, folder, last, rfl⟩ | rfl | rfl <;>
      rcases hwanted more hmore with ⟨kind', folder', last', rfl⟩ | rfl | rfl
    · exact hne (hbegins.eq_of_length rfl)
    all_goals first
      | exact hne rfl
      | simp [List.cons_prefix_cons, folder_ne, Ne.symm (folder_ne _).1,
          Ne.symm (folder_ne _).2.1] at hbegins
  · rintro ⟨hbegins, -⟩
    rcases hwanted found hfound with ⟨kind, folder, last, rfl⟩ | rfl | rfl
    · exact (folder_ne kind).2.2 (List.cons_prefix_cons.mp hbegins).1.symm
    · exact absurd (List.cons_prefix_cons.mp hbegins).1 (by decide)
    · exact absurd (List.cons_prefix_cons.mp hbegins).1 (by decide)

theorem closed_empty : Tree.Closed {} := by
  intro outer inner hinside hsome
  cases inner with
  | nil => exact absurd (List.prefix_nil.mp hinside.1) hinside.2
  | cons name inner => simp [Tree.get?] at hsome

/-- Passes over the twins from an empty tree, with one worker and with two of them. -/
theorem twins_same : SamePass (.fixed .skip) "app.jar" (crew false 1) (crew false 2) { tree := {} }
    { tree := {} } :=
  ⟨.ofJob _, .ofJob _, rfl, rfl, rfl⟩

/-- Without flattening, no two twins come to the same base name, so their texts are taken alike. -/
theorem twins_alike {events events' : List Event}
    (hdone : (crewPass false 1 (twins ["res/a.txt", "docs/"]) events).1.state = .done)
    (hdone' : (crewPass false 2 (twins ["res/a.txt", "docs/"]) events').1.state = .done) :
    TakenAlike { outputRoot := "out" } (twins ["res/a.txt", "docs/"])
      ((crew false 1).passStart (.fixed .skip) { tree := {} } "app.jar")
      ((crew false 1).passDeeds (.fixed .skip) { tree := {} } "app.jar"
          (twins ["res/a.txt", "docs/"]) events ++
        (crew false 2).passDeeds (.fixed .skip) { tree := {} } "app.jar"
          (twins ["res/a.txt", "docs/"]) events') := by
  obtain ⟨opened, hfirst⟩ := twins_same.ready.passed hdone
  obtain ⟨opened', hsecond⟩ := twins_same.ready'.passed hdone'
  obtain rfl := Except.ok.inj hfirst.source
  obtain rfl := Except.ok.inj hsecond.source
  obtain ⟨loc, hstands⟩ := hfirst.stands
  have htrace := hfirst.trace
  refine htrace.takenAlike (twins_same.trace hsecond) (savesFrom_twins _)
    (Decoder.starts closed_empty hstands) (fun _ _ _ _ => rfl) (fun _ _ _ _ => rfl) twins_apart
    fun c hc => ?_
  have hactions := htrace.perm_executed (savesFrom_twins _) fun _ _ _ _ => rfl
  rw [length_indices, hactions.countP_eq]
  rcases twins_selected hc with rfl | rfl <;> decide +kernel

/-- With one worker and without a break, or with two of them, another order and a pause that holds
the pass, the twins leave the same files. Their failures are the same as well: the class without
source, and the resource that can only be a directory. -/
theorem twins_independent_of_order :
    ((crewPass false 1 (twins ["res/a.txt", "docs/"]) []).1.state = .done ∧
      (crewPass false 1 (twins ["res/a.txt", "docs/"]) []).1.failed = 2) ∧
    (crewPass false 2 (twins ["res/a.txt", "docs/"]) (breakAndTurns.take 5)).1.state = .awaiting ∧
    (crewPass false 2 (twins ["res/a.txt", "docs/"]) breakAndTurns).1.failed = 2 ∧
    ∀ l, (crewPass false 1 (twins ["res/a.txt", "docs/"]) []).2.2.tree.HasFile l ↔
      (crewPass false 2 (twins ["res/a.txt", "docs/"]) breakAndTurns).2.2.tree.HasFile l := by
  have hdone : (crewPass false 1 (twins ["res/a.txt", "docs/"]) []).1.state = .done ∧
      (crewPass false 1 (twins ["res/a.txt", "docs/"]) []).1.failed = 2 := by
    decide +kernel
  have hdone' :
      (crewPass false 2 (twins ["res/a.txt", "docs/"]) breakAndTurns).1.state = .done := by
    decide +kernel
  have halike := twins_alike hdone.1 hdone'
  refine ⟨hdone, by decide +kernel, ?_⟩
  unfold crewPass at hdone hdone' ⊢
  obtain ⟨-, hafter⟩ := pass_independent_of_order twins_same
    (fun _ _ _ => .ok (twins ["res/a.txt", "docs/"])) [] breakAndTurns
    (fun h => absurd (hdone.1.symm.trans h) (by simp))
    (fun h => absurd (hdone'.symm.trans h) (by simp))
  obtain ⟨opened, loc, hopened, -, hindependent⟩ := hafter hdone.1
  obtain rfl := Except.ok.inj hopened
  obtain ⟨-, hclear⟩ := hindependent _ (fun _ => .done []) (savesFrom_twins _)
    (fun _ _ _ _ => rfl) (fun _ _ _ _ => rfl)
  obtain ⟨⟨hfailed, -⟩, -, hfiles⟩ := hclear closed_empty twins_ways halike
  refine ⟨hfailed.symm.trans hdone.2, hfiles twins_apart fun c c' hc hc' heq => ?_⟩
  rcases twins_baseOf hc with ⟨rfl, -⟩ | ⟨rfl, -⟩ <;>
    rcases twins_baseOf hc' with ⟨rfl, -⟩ | ⟨rfl, -⟩
  · rfl
  · exact absurd heq (by decide)
  · exact absurd heq (by decide)
  · rfl

/-- Flattened, the twins change places with the order, so that other files are there at the end.
Of resources that are in the way of each other, the order says how many are refused. -/
theorem twins_depend_on_order :
    ((crewPass true 1 (twins []) []).1.state = .done ∧
      (crewPass true 1 (twins []) [.work 1, .work 1]).1.state = .done ∧
      (crewPass true 1 (twins []) []).2.2.tree.isFile "out/app.jar_sources/Main.java" = false ∧
      (crewPass true 1 (twins []) [.work 1, .work 1]).2.2.tree.isFile
        "out/app.jar_sources/Main.java" = true) ∧
    ((crewPass false 1 { twins ["x", "x/y", "x/z"] with batches := [] } []).1.failed = 2 ∧
      (crewPass false 1 { twins ["x", "x/y", "x/z"] with batches := [] }
        [.work 1, .work 1]).1.failed = 1) := by
  decide +kernel

end ArchiveScout.Decode
