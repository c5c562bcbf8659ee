import ArchiveScout.Proofs.Decode.Pass
import ArchiveScout.Proofs.Decode.Writing

/-!
# ArchiveScout.Proofs.Decode.Deed

**What a single deed can do.** `Deed.effect` lists every way in which a deed can end, with
the workspace behind it, what its strand keeps, the file that it left and the line that it
logged. All that holds of deeds is read off this list and not off the actions.
-/

namespace ArchiveScout.Decode

open ArchiveScout.Archive (ClassEntry)
open ArchiveScout.File
open ArchiveScout.File.Tree (Evolves OnWay Stands)

variable {d : Decompiler} {dir path failure line : String} {t t' : Tree} {content : Content}
  {entry : ClassEntry} {kind : Kind} {name : String}

/-! ### What a deed leaves -/

namespace Deed

/-- The paths that a deed hands out. -/
def handed? (x : Deed) : Option OutputPaths :=
  match x.action with
  | .reserve entry => some (x.before.resolver.resolve x.before.tree entry).1
  | _ => none

/-- The file that a deed wrote. -/
def output? (d : Decompiler) (dir : String) (x : Deed) : Option String :=
  match x.action with
  | .text kind entry =>
      match d.text kind entry with
      | .done text =>
          match writeBelow x.before.tree (x.progress.paths.of kind) (Content.ofText text)
            "Failed to write" with
          | (_, .done path) => some path
          | _ => none
      | _ => none
  | .resource name =>
      match d.save name dir x.before.tree with
      | (_, .done path) => some path
      | _ => none
  | _ => none

/-- The line that a deed logs and counts. -/
def record? (d : Decompiler) (dir : String) (x : Deed) : Option String :=
  match x.action with
  | .settle entry => if x.progress.sound then none else some (classRecord entry)
  | .resource name =>
      match d.save name dir x.before.tree with
      | (_, .failed _) => some (resourceRecord name)
      | _ => none
  | _ => none

/-- How a deed can end. -/
inductive Effect (d : Decompiler) (dir : String) (x : Deed) : Prop
  | handed (entry : ClassEntry) (haction : x.action = .reserve entry)
      (hafter : x.after d dir =
        { x.before with resolver := (x.before.resolver.resolve x.before.tree entry).2 })
      (hkept : x.kept d dir = some { paths := (x.before.resolver.resolve x.before.tree entry).1 })
      (houtput : x.output? d dir = none) (hrecord : x.record? d dir = none)
  | written (kind : Kind) (entry : ClassEntry) (text : String) (t : Tree)
      (haction : x.action = .text kind entry) (htext : d.text kind entry = .done text)
      (hwrite : (room x.before.tree (x.progress.paths.of kind)).write (x.progress.paths.of kind)
        (Content.ofText text) = .ok t)
      (hafter : x.after d dir = { x.before with tree := t })
      (hkept : x.kept d dir = some x.progress)
      (houtput : x.output? d dir = some (x.progress.paths.of kind))
      (hrecord : x.record? d dir = none)
  | refused (kind : Kind) (entry : ClassEntry) (text : String)
      (haction : x.action = .text kind entry) (htext : d.text kind entry = .done text)
      (hafter : x.after d dir =
        { x.before with tree := room x.before.tree (x.progress.paths.of kind) })
      (hkept : x.kept d dir = some { x.progress with sound := false })
      (houtput : x.output? d dir = none) (hrecord : x.record? d dir = none)
  | failed (kind : Kind) (entry : ClassEntry) (causes : List String)
      (haction : x.action = .text kind entry) (htext : d.text kind entry = .failed causes)
      (hafter : x.after d dir = x.before)
      (hkept : x.kept d dir = some { x.progress with sound := false })
      (houtput : x.output? d dir = none) (hrecord : x.record? d dir = none)
  | panicked (kind : Kind) (entry : ClassEntry)
      (haction : x.action = .text kind entry) (htext : d.text kind entry = .panicked)
      (hafter : x.after d dir = x.before) (hkept : x.kept d dir = none)
      (houtput : x.output? d dir = none) (hrecord : x.record? d dir = none)
  | settled (entry : ClassEntry) (haction : x.action = .settle entry)
      (hsound : x.progress.sound = true)
      (hafter : x.after d dir = x.before) (hkept : x.kept d dir = some x.progress)
      (houtput : x.output? d dir = none) (hrecord : x.record? d dir = none)
  | logged (entry : ClassEntry) (haction : x.action = .settle entry)
      (hsound : x.progress.sound = false)
      (hafter : x.after d dir = x.before.fail dir (classRecord entry))
      (hkept : x.kept d dir = some x.progress)
      (houtput : x.output? d dir = none) (hrecord : x.record? d dir = some (classRecord entry))
  | saved (name path : String) (t : Tree) (haction : x.action = .resource name)
      (hsave : d.save name dir x.before.tree = (t, .done path))
      (hafter : x.after d dir = { x.before with tree := t })
      (hkept : x.kept d dir = some x.progress)
      (houtput : x.output? d dir = some path) (hrecord : x.record? d dir = none)
  | unsaved (name : String) (causes : List String) (t : Tree) (haction : x.action = .resource name)
      (hsave : d.save name dir x.before.tree = (t, .failed causes))
      (hafter : x.after d dir = { x.before with tree := t }.fail dir (resourceRecord name))
      (hkept : x.kept d dir = some x.progress)
      (houtput : x.output? d dir = none) (hrecord : x.record? d dir = some (resourceRecord name))
  | lost (name : String) (t : Tree) (haction : x.action = .resource name)
      (hsave : d.save name dir x.before.tree = (t, .panicked))
      (hafter : x.after d dir = { x.before with tree := t }) (hkept : x.kept d dir = none)
      (houtput : x.output? d dir = none) (hrecord : x.record? d dir = none)

theorem effect (d : Decompiler) (dir : String) (x : Deed) : x.Effect d dir := by
  obtain ⟨place, action, rest, before, progress⟩ := x
  cases action with
  | reserve entry => exact .handed entry rfl rfl rfl rfl rfl
  | text kind entry =>
      cases htext : d.text kind entry with
      | panicked =>
          refine .panicked kind entry rfl htext ?_ ?_ ?_ rfl <;>
            simp [Deed.after, Deed.kept, output?, Action.perform, writeText, htext]
      | failed causes =>
          refine .failed kind entry causes rfl htext ?_ ?_ ?_ rfl <;>
            simp [Deed.after, Deed.kept, output?, Action.perform, writeText, htext]
      | done text =>
          have hcases := writeBelow_cases before.tree (progress.paths.of kind)
            (Content.ofText text) "Failed to write"
          generalize hresult : writeBelow before.tree (progress.paths.of kind)
            (Content.ofText text) "Failed to write" = result at hcases
          cases hcases with
          | @written t hwrite =>
              refine .written kind entry text t rfl htext hwrite ?_ ?_ ?_ rfl <;>
                simp [Deed.after, Deed.kept, output?, Action.perform, writeText, htext, hresult]
          | refused causes =>
              refine .refused kind entry text rfl htext ?_ ?_ ?_ rfl <;>
                simp [Deed.after, Deed.kept, output?, Action.perform, writeText, htext, hresult]
  | settle entry =>
      cases hsound : progress.sound with
      | true =>
          refine .settled entry rfl hsound ?_ ?_ rfl ?_ <;>
            simp [Deed.after, Deed.kept, record?, Action.perform, hsound]
      | false =>
          refine .logged entry rfl hsound ?_ ?_ rfl ?_ <;>
            simp [Deed.after, Deed.kept, record?, Action.perform, hsound]
  | resource name =>
      cases hsave : d.save name dir before.tree with
      | mk t outcome =>
          cases outcome with
          | done path =>
              refine .saved name path t rfl hsave ?_ ?_ ?_ ?_ <;>
                simp [Deed.after, Deed.kept, output?, record?, Action.perform, hsave]
          | failed causes =>
              refine .unsaved name causes t rfl hsave ?_ ?_ ?_ ?_ <;>
                simp [Deed.after, Deed.kept, output?, record?, Action.perform, hsave]
          | panicked =>
              refine .lost name t rfl hsave ?_ ?_ ?_ ?_ <;>
                simp [Deed.after, Deed.kept, output?, record?, Action.perform, hsave]

/-! ### Reading the list -/

variable {x : Deed}

theorem failed_after (d : Decompiler) (dir : String) (x : Deed) :
    (x.after d dir).failed = x.before.failed + (x.record? d dir).toList.length := by
  cases x.effect d dir <;> rename_i hafter _ _ hrecord <;> rw [hafter, hrecord] <;> rfl

/-- A text that was written can be read. -/
theorem read_text (haction : x.action = .text kind entry) (h : (x.output? d dir).isSome) :
    ∃ text, d.text kind entry = .done text ∧
      (x.after d dir).tree.read (x.progress.paths.of kind) = .ok (Content.ofText text) := by
  cases x.effect d dir with
  | written kind' entry' text t haction' htext hwrite hafter =>
      obtain ⟨rfl, rfl⟩ := Action.text.inj (haction.symm.trans haction')
      exact ⟨text, htext, hafter ▸ Tree.read_write hwrite⟩
  | saved _ _ _ haction' => exact absurd (haction.symm.trans haction') (by simp)
  | _ => simp_all

/-! ### Files -/

/-- Where the file is that a deed wrote. -/
def location? (d : Decompiler) (dir : String) (x : Deed) : Option Location :=
  (x.output? d dir).bind fun path =>
    match (x.after d dir).tree.locate path with
    | .ok (loc, _) => some loc
    | .error _ => none

/-- What a deed has to write. -/
def content? (d : Decompiler) (source : String → Tree → Outcome (List UInt8)) (x : Deed) :
    Option Content :=
  match x.action with
  | .text kind entry =>
      match d.text kind entry with
      | .done text => some (Content.ofText text)
      | _ => none
  | .resource name =>
      match source name x.before.tree with
      | .done data => some (.bytes data)
      | _ => none
  | _ => none

theorem content?_text {source : String → Tree → Outcome (List UInt8)}
    (haction : x.action = .text kind entry) :
    (x.content? d source).isSome = (d.text kind entry).isDone := by
  simp only [content?, haction]
  cases d.text kind entry <;> rfl

theorem content?_resource {source : String → Tree → Outcome (List UInt8)}
    (haction : x.action = .resource name) :
    (x.content? d source).isSome = (source name x.before.tree).isDone := by
  simp only [content?, haction]
  cases source name x.before.tree <;> rfl

/-- The files among which the log is, when a deed appends to it. -/
def logTree (d : Decompiler) (dir : String) (x : Deed) : Tree :=
  match x.action with
  | .resource name => (d.save name dir x.before.tree).1
  | _ => x.before.tree

/-- The log refuses the line of a deed. -/
def LogRefused (d : Decompiler) (dir : String) (x : Deed) : Prop :=
  ∃ line fault, x.record? d dir = some line ∧
    (x.logTree d dir).append (failureLogPath dir) (Text.encode (line ++ "\n")) = .error fault

theorem logRefused_iff : x.LogRefused d dir ↔ (x.record? d dir).any (fun line =>
    !((x.logTree d dir).append (failureLogPath dir) (Text.encode (line ++ "\n"))).isOk) = true := by
  rw [Option.any_eq_true]
  constructor
  · rintro ⟨line, fault, hrecord, hfault⟩
    refine ⟨line, hrecord, ?_⟩
    rw [hfault]
    rfl
  · rintro ⟨line, hrecord, hrefused⟩
    cases happend : (x.logTree d dir).append (failureLogPath dir) (Text.encode (line ++ "\n")) with
    | ok t => simp [happend, Except.isOk, Except.toBool] at hrefused
    | error fault => exact ⟨line, fault, hrecord, happend⟩

instance (d : Decompiler) (dir : String) (x : Deed) : Decidable (x.LogRefused d dir) :=
  decidable_of_iff _ logRefused_iff.symm

/-- The line that a deed puts into the log. -/
def accepted? (d : Decompiler) (dir : String) (x : Deed) : Option String :=
  if x.LogRefused d dir then none else x.record? d dir

theorem accepted?_eq_some : x.accepted? d dir = some line ↔
    x.record? d dir = some line ∧ ¬ x.LogRefused d dir := by
  rw [accepted?]
  split <;> simp_all

/-- Where the log refuses no line, it gets them all. -/
theorem filterMap_accepted? {xs : List Deed} (haccepted : ∀ x ∈ xs, ¬ x.LogRefused d dir) :
    xs.filterMap (accepted? d dir) = xs.filterMap (record? d dir) :=
  List.filterMap_congr fun x hx => if_neg (haccepted x hx)

/-- What a deed does to the files: it writes one, or it logs a line, or it does neither. -/
inductive FileEffect (d : Decompiler) (dir : String)
    (source : String → Tree → Outcome (List UInt8)) (x : Deed) : Prop
  | wrote (path : String) (loc : Location) (content : Content)
      (houtput : x.output? d dir = some path) (hrecord : x.record? d dir = none)
      (hlocation : x.location? d dir = some loc) (hcontent : x.content? d source = some content)
      (hlocate : (x.after d dir).tree.locate path = .ok (loc, .file content))
      (hevolves : Evolves (fun _ => True) (· = loc) x.before.tree (x.after d dir).tree)
  | logged (line : String)
      (houtput : x.output? d dir = none) (hrecord : x.record? d dir = some line)
      (hevolves : Evolves (fun _ => True) (fun _ => False) x.before.tree (x.logTree d dir))
      (hafter : (x.after d dir).tree = appendRecord dir (x.logTree d dir) line)
  | quiet (houtput : x.output? d dir = none) (hrecord : x.record? d dir = none)
      (hevolves : Evolves (fun _ => True) (fun _ => False) x.before.tree (x.after d dir).tree)

theorem location?_of_locate {loc : Location} {node : Node} (houtput : x.output? d dir = some path)
    (hlocate : (x.after d dir).tree.locate path = .ok (loc, node)) :
    x.location? d dir = some loc := by
  rw [location?, houtput, Option.bind_some, hlocate]

theorem evolves_not_saved {found : Prop} (h : t' = t ∨ found ∧ t' = room t path) :
    Evolves (fun _ => True) (fun _ => False) t t' := by
  rcases h with rfl | ⟨-, rfl⟩
  · exact .refl _ _ _
  · exact evolves_room t path

theorem fileEffect {source : String → Tree → Outcome (List UInt8)} (hsave : d.SavesFrom source)
    (dir : String) (x : Deed) : x.FileEffect d dir source := by
  cases x.effect d dir with
  | handed entry _ hafter _ houtput hrecord =>
      exact .quiet houtput hrecord (hafter ▸ .refl _ _ _)
  | written kind entry text t haction htext hwrite hafter _ houtput hrecord =>
      obtain ⟨loc, hlocate, hevolves⟩ := evolves_write hwrite
      have htree : (x.after d dir).tree = t := by rw [hafter]
      exact .wrote _ loc _ houtput hrecord (location?_of_locate houtput (htree ▸ hlocate))
        (by simp only [content?, haction, htext]) (htree ▸ hlocate) (htree ▸ hevolves)
  | refused kind entry text _ _ hafter _ houtput hrecord =>
      exact .quiet houtput hrecord (hafter ▸ evolves_room _ _)
  | failed kind entry causes _ _ hafter _ houtput hrecord =>
      exact .quiet houtput hrecord (hafter ▸ .refl _ _ _)
  | panicked kind entry _ _ hafter _ houtput hrecord =>
      exact .quiet houtput hrecord (hafter ▸ .refl _ _ _)
  | settled entry _ _ hafter _ houtput hrecord =>
      exact .quiet houtput hrecord (hafter ▸ .refl _ _ _)
  | logged entry haction _ hafter _ houtput hrecord =>
      have hlog : x.logTree d dir = x.before.tree := by simp only [logTree, haction]
      exact .logged _ houtput hrecord (hlog ▸ .refl _ _ _) (by rw [hafter, hlog]; rfl)
  | saved name path t haction hsaved hafter _ houtput hrecord =>
      rw [hsave] at hsaved
      have htree : (x.after d dir).tree = t := by rw [hafter]
      obtain ⟨data, hsource, rfl, hwrite⟩ := saveFound_done hsaved
      obtain ⟨loc, hlocate, hevolves⟩ := evolves_write hwrite
      exact .wrote _ loc _ houtput hrecord (location?_of_locate houtput (htree ▸ hlocate))
        (by simp only [content?, haction, hsource]) (htree ▸ hlocate) (htree ▸ hevolves)
  | unsaved name causes t haction hsaved hafter _ houtput hrecord =>
      have hlog : x.logTree d dir = t := by simp only [logTree, haction, hsaved]
      rw [hsave] at hsaved
      refine .logged _ houtput hrecord (hlog ▸ ?_) (by rw [hafter, hlog]; rfl)
      exact evolves_not_saved (saveFound_not_done hsaved (by simp))
  | lost name t haction hsaved hafter _ houtput hrecord =>
      rw [hsave] at hsaved
      exact .quiet houtput hrecord
        (hafter ▸ evolves_not_saved (saveFound_not_done hsaved (by simp)))

/-- A text is written at the path that the strand keeps for it. -/
theorem output?_text (haction : x.action = .text kind entry) (h : x.output? d dir = some path) :
    path = x.progress.paths.of kind := by
  cases x.effect d dir with
  | written kind' entry' _ _ haction' _ _ _ _ houtput =>
      obtain ⟨rfl, rfl⟩ := Action.text.inj (haction.symm.trans haction')
      exact Option.some.inj (h.symm.trans houtput)
  | saved _ _ _ haction' => exact absurd (haction.symm.trans haction') (by simp)
  | _ => simp_all

/-- A resource is written by its name. -/
theorem output?_resource {source : String → Tree → Outcome (List UInt8)}
    (hsave : d.SavesFrom source) (haction : x.action = .resource name)
    (h : x.output? d dir = some path) :
    path = Path.join dir name ∧ ∃ data, source name x.before.tree = .done data := by
  cases x.effect d dir with
  | written _ _ _ _ haction' => exact absurd (haction.symm.trans haction') (by simp)
  | saved name' path' t haction' hsaved _ _ houtput =>
      obtain rfl := Action.resource.inj (haction.symm.trans haction')
      obtain rfl := Option.some.inj (h.symm.trans houtput)
      rw [hsave] at hsaved
      obtain ⟨data, hdata, hpath, -⟩ := saveFound_done hsaved
      exact ⟨hpath, data, hdata⟩
  | _ => simp_all

/-- A file that was written below the output directory is at the names that lead to it. -/
theorem location_below {source : String → Tree → Outcome (List UInt8)} {loc : Location}
    {names : List String} (hsave : d.SavesFrom source) (hdir : x.before.tree.Stands dir loc)
    (houtput : x.output? d dir = some path) (hleads : Path.Leads dir path names)
    (hup : ".." ∉ names) (hnames : names ≠ []) : x.location? d dir = some (loc ++ names) := by
  have hwritten : ∀ {content : Content} {t : Tree}, (x.after d dir).tree = t →
      (room x.before.tree path).write path content = .ok t →
      x.location? d dir = some (loc ++ names) := by
    rintro content _ rfl hwrite
    exact location?_of_locate houtput (write_below hdir hleads hup hnames hwrite).1
  cases x.effect d dir with
  | written kind entry text t _ _ hwrite hafter _ houtput' =>
      obtain rfl := Option.some.inj (houtput.symm.trans houtput')
      exact hwritten (by rw [hafter]) hwrite
  | saved name path' t _ hsaved hafter _ houtput' =>
      obtain rfl := Option.some.inj (houtput.symm.trans houtput')
      rw [hsave] at hsaved
      obtain ⟨data, -, -, hwrite⟩ := saveFound_done hsaved
      exact hwritten (by rw [hafter]) hwrite
  | _ => simp_all

theorem exists_output_of_location {loc : Location} (h : x.location? d dir = some loc) :
    ∃ path, x.output? d dir = some path := by
  rw [location?, Option.bind_eq_some_iff] at h
  obtain ⟨path, houtput, -⟩ := h
  exact ⟨path, houtput⟩

/-! ### Aims -/

/-- The path that a deed writes at, if it writes. -/
def path? (dir : String) (x : Deed) : Option String :=
  match x.action with
  | .text kind _ => some (x.progress.paths.of kind)
  | .resource name => some (Path.join dir name)
  | _ => none

theorem path?_text (dir : String) (haction : x.action = .text kind entry) :
    x.path? dir = some (x.progress.paths.of kind) := by
  rw [path?, haction]

theorem path?_resource (dir : String) (haction : x.action = .resource name) :
    x.path? dir = some (Path.join dir name) := by
  rw [path?, haction]

/-- A deed has something to write, at a path that names lead to from the output directory. -/
structure Aims (d : Decompiler) (dir : String) (source : String → Tree → Outcome (List UInt8))
    (x : Deed) (path : String) (names : List String) : Prop where
  hasContent : (x.content? d source).isSome
  isPath : x.path? dir = some path
  leads : Path.Leads dir path names

/-- Names that never go up lead to the path of whatever a deed has to write. Where there are
none, the path is that of a directory. -/
def AimsBelow (d : Decompiler) (dir : String) (source : String → Tree → Outcome (List UInt8))
    (x : Deed) : Prop :=
  ∀ path, (x.content? d source).isSome → x.path? dir = some path → ∃ names,
    Path.Leads dir path names ∧ ".." ∉ names ∧ (names = [] → Tree.namesDirectory path = true)

/-- The locations of directories on the way to what a deed aims at. -/
def OnAim (d : Decompiler) (dir : String) (source : String → Tree → Outcome (List UInt8))
    (loc : Location) (x : Deed) (l : Location) : Prop :=
  ∃ path names, x.Aims d dir source path names ∧ OnWay loc names.dropLast l

/-- The locations that a deed aims at. -/
def AtAim (d : Decompiler) (dir : String) (source : String → Tree → Outcome (List UInt8))
    (loc : Location) (x : Deed) (l : Location) : Prop :=
  ∃ path names, x.Aims d dir source path names ∧ names ≠ [] ∧ l = loc ++ names

section Aiming

variable {source : String → Tree → Outcome (List UInt8)} {loc : Location}

theorem AimsBelow.evolves_room (haims : x.AimsBelow d dir source)
    (hdir : x.before.tree.Stands dir loc) (hcontent : (x.content? d source).isSome)
    (hpath : x.path? dir = some path) :
    Evolves (x.OnAim d dir source loc) (fun _ => False) x.before.tree
      (room x.before.tree path) := by
  obtain ⟨names, hleads, hup, -⟩ := haims path hcontent hpath
  exact (evolves_room_below hdir hleads hup).mono
    (fun l hl => ⟨path, names, ⟨hcontent, hpath, hleads⟩, hl⟩) fun _ h => h

theorem AimsBelow.evolves_write (haims : x.AimsBelow d dir source)
    (hdir : x.before.tree.Stands dir loc) (hcontent : (x.content? d source).isSome)
    (hpath : x.path? dir = some path)
    (hwrite : (room x.before.tree path).write path content = .ok t) :
    Evolves (x.OnAim d dir source loc) (x.AtAim d dir source loc) x.before.tree t := by
  obtain ⟨names, hleads, hup, hend⟩ := haims path hcontent hpath
  have hnames : names ≠ [] := fun hnil => write_ne_ok (hend hnil) hwrite
  refine (write_below hdir hleads hup hnames hwrite).2.mono
    (fun l hl => ⟨path, names, ⟨hcontent, hpath, hleads⟩, hl⟩) ?_
  rintro l rfl
  exact ⟨path, names, ⟨hcontent, hpath, hleads⟩, hnames, rfl⟩

/-- A resource that was not saved leaves at most the directories on the way to it. -/
theorem AimsBelow.evolves_unsaved (haims : x.AimsBelow d dir source)
    (hdir : x.before.tree.Stands dir loc) (haction : x.action = .resource name)
    (h : t = x.before.tree ∨ (∃ data, source name x.before.tree = .done data) ∧
      t = room x.before.tree (Path.join dir name)) :
    Evolves (x.OnAim d dir source loc) (fun _ => False) x.before.tree t := by
  rcases h with rfl | ⟨⟨data, hdata⟩, rfl⟩
  · exact .refl _ _ _
  · exact haims.evolves_room hdir (by simp [content?, haction, hdata]) (path?_resource dir haction)

/-- A deed that aims below the output directory makes directories on the way there, and writes
there or to the log. -/
theorem evolves_aims (hsave : d.SavesFrom source) (hdir : x.before.tree.Stands dir loc)
    (haims : x.AimsBelow d dir source) :
    Evolves (x.OnAim d dir source loc)
      (fun l => x.AtAim d dir source loc l ∨ (x.record? d dir).isSome ∧ l = logLocation loc)
      x.before.tree (x.after d dir).tree := by
  cases x.effect d dir with
  | written kind entry text t haction htext hwrite hafter =>
      rw [hafter]
      exact (haims.evolves_write hdir (by simp [content?, haction, htext])
        (path?_text dir haction) hwrite).mono (fun _ h => h) fun _ => .inl
  | refused kind entry text haction htext hafter =>
      rw [hafter]
      exact (haims.evolves_room hdir (by simp [content?, haction, htext])
        (path?_text dir haction)).mono (fun _ h => h) fun _ h => absurd h id
  | logged entry _ _ hafter _ _ hrecord =>
      rw [hafter]
      exact (evolves_appendRecord hdir _).mono (fun _ h => absurd h id)
        fun _ h => .inr ⟨by simp [hrecord], h⟩
  | saved name path t haction hsaved hafter =>
      rw [hsave] at hsaved
      obtain ⟨data, hdata, rfl, hwrite⟩ := saveFound_done hsaved
      rw [hafter]
      exact (haims.evolves_write hdir (by simp [content?, haction, hdata])
        (path?_resource dir haction) hwrite).mono (fun _ h => h) fun _ => .inl
  | unsaved name causes t haction hsaved hafter _ _ hrecord =>
      rw [hsave] at hsaved
      have hmade := haims.evolves_unsaved hdir haction (saveFound_not_done hsaved (by simp))
      rw [hafter]
      exact (hmade.mono (fun _ h => h) fun _ h => absurd h id).trans
        ((evolves_appendRecord (hmade.stands hdir) _).mono (fun _ h => absurd h id)
          fun _ h => .inr ⟨by simp [hrecord], h⟩)
  | lost name t haction hsaved hafter =>
      rw [hsave] at hsaved
      rw [hafter]
      exact (haims.evolves_unsaved hdir haction (saveFound_not_done hsaved (by simp))).mono
        (fun _ h => h) fun _ h => absurd h id
  | _ =>
      simp_all only
      exact .refl _ _ _

end Aiming

end Deed

/-! ### Deeds in a row -/

variable {w w' : Workspace} {xs : List Deed} {loc : Location} {dirs files : Location → Prop}

/-- What every deed does to the files of a directory that stands, all of them do. -/
theorem linked_evolves (h : Linked d dir w xs w') (hdir : w.tree.Stands dir loc)
    (hdeed : ∀ x ∈ xs, x.before.tree.Stands dir loc →
      Evolves dirs files x.before.tree (x.after d dir).tree) :
    (∀ x ∈ xs, x.before.tree.Stands dir loc) ∧ Evolves dirs files w.tree w'.tree := by
  induction h with
  | nil w => exact ⟨by simp, .refl _ _ _⟩
  | @cons x xs w' _ ih =>
      have hfirst := hdeed x List.mem_cons_self hdir
      obtain ⟨hall, hrest⟩ := ih (hfirst.stands hdir) fun y hy =>
        hdeed y (List.mem_cons_of_mem x hy)
      refine ⟨fun y hy => ?_, hfirst.trans hrest⟩
      rcases List.mem_cons.mp hy with rfl | hy
      · exact hdir
      · exact hall y hy

end ArchiveScout.Decode
