import ArchiveScout.Proofs.Decode.Deed

/-!
# ArchiveScout.Proofs.Decode.Log

**The files and the log of a run.** The files that a run can change are those that its deeds
wrote and the log. Where no deed wrote a file in place of the log, it ends as it was at the start
with the lines behind it that it did not refuse, in the order of the deeds.
-/

namespace ArchiveScout.Decode

open ArchiveScout.File
open ArchiveScout.File.Tree (Evolves)

variable {d : Decompiler} {dir : String} {w w' : Workspace} {x : Deed} {xs : List Deed}
  {loc : Location} {source : String → Tree → Outcome (List UInt8)}

/-! ### Files -/

/-- A line that is logged changes the log, unless the log refuses it. -/
theorem Deed.evolves_appendRecord {line : String} (hdir : (x.logTree d dir).Stands dir loc)
    (hrecord : x.record? d dir = some line) :
    Evolves (fun _ => False) (fun l => (x.accepted? d dir).isSome ∧ l = logLocation loc)
      (x.logTree d dir) (appendRecord dir (x.logTree d dir) line) := by
  by_cases hrefused : x.LogRefused d dir
  · obtain ⟨line', fault, hrecord', happend⟩ := hrefused
    obtain rfl := Option.some.inj (hrecord.symm.trans hrecord')
    rw [appendRecord, happend]
    exact .refl _ _ _
  · refine (Decode.evolves_appendRecord hdir line).mono (fun _ h => h) ?_
    rintro _ rfl
    exact ⟨by simp [accepted?_eq_some.mpr ⟨hrecord, hrefused⟩], rfl⟩

/-- A deed writes at most its file and the log. -/
theorem Deed.evolves_files (hsave : d.SavesFrom source) (hdir : x.before.tree.Stands dir loc) :
    Evolves (fun _ => True)
      (fun l => x.location? d dir = some l ∨
        (x.accepted? d dir).isSome ∧ l = logLocation loc)
      x.before.tree (x.after d dir).tree := by
  cases x.fileEffect hsave dir with
  | wrote path l content _ _ hlocation _ _ hevolves =>
      refine hevolves.mono (fun _ h => h) ?_
      rintro _ rfl
      exact .inl hlocation
  | logged line _ hrecord hevolves hafter =>
      rw [hafter]
      exact (hevolves.mono (fun _ h => h) fun _ h => absurd h id).trans
        ((evolves_appendRecord (hevolves.stands hdir) hrecord).mono (fun _ h => absurd h id)
          fun _ => .inr)
  | quiet _ _ hevolves => exact hevolves.mono (fun _ h => h) fun _ h => absurd h id

/-- A run writes at most the files of its deeds and the log, and the directory stays. -/
theorem linked_files (h : Linked d dir w xs w') (hsave : d.SavesFrom source)
    (hdir : w.tree.Stands dir loc) :
    (∀ x ∈ xs, x.before.tree.Stands dir loc) ∧
      Evolves (fun _ => True)
        (fun l => (∃ x ∈ xs, x.location? d dir = some l) ∨
          (∃ x ∈ xs, (x.accepted? d dir).isSome) ∧ l = logLocation loc)
        w.tree w'.tree := by
  refine linked_evolves h hdir fun x hx hstands => ?_
  refine (Deed.evolves_files hsave hstands).mono (fun _ h => h) fun l hl => ?_
  exact hl.imp (fun hlocation => ⟨x, hx, hlocation⟩) fun ⟨hrecord, hlog⟩ => ⟨⟨x, hx, hrecord⟩, hlog⟩

/-! ### The log -/

/-- What the log holds, with lines appended to it. -/
def logged (content : Option Content) (lines : List String) : Option Content :=
  lines.foldl (fun content line => some (Tree.appended (Text.encode (line ++ "\n")) content))
    content

/-- The bytes of lines, each with its end. -/
def linesBytes (lines : List String) : List UInt8 :=
  lines.flatMap fun line => Text.encode (line ++ "\n")

/-- Lines come behind what the log held. -/
theorem logged_some (content : Content) (lines : List String) :
    logged (some content) lines = some (content.append (linesBytes lines)) := by
  induction lines generalizing content with
  | nil => cases content <;> simp [logged, linesBytes, Content.append]
  | cons line lines ih =>
      have hrest := ih (content.append (Text.encode (line ++ "\n")))
      rw [Content.append_append] at hrest
      exact hrest

/-- A new log holds its lines and nothing else, and without lines there is none. -/
theorem logged_none (lines : List String) : logged none lines =
    if lines = [] then none else some (.bytes (linesBytes lines)) := by
  cases lines with
  | nil => rfl
  | cons line lines =>
      rw [if_neg (by simp)]
      exact logged_some (.bytes (Text.encode (line ++ "\n"))) lines

/-- A line that is not refused is appended to the log. -/
theorem Deed.get?_log (hsave : d.SavesFrom source) (hdir : x.before.tree.Stands dir loc)
    {line : String} (haccepted : x.accepted? d dir = some line) :
    (x.after d dir).tree.get? (logLocation loc) =
      some (.file (Tree.appended (Text.encode (line ++ "\n"))
        (x.before.tree.file? (logLocation loc)))) := by
  obtain ⟨hrecord, haccepted⟩ := accepted?_eq_some.mp haccepted
  cases x.fileEffect hsave dir with
  | logged line' _ hrecord' hevolves hafter =>
      obtain rfl := Option.some.inj (hrecord.symm.trans hrecord')
      obtain ⟨t, happend⟩ : ∃ t, (x.logTree d dir).append (failureLogPath dir)
          (Text.encode (line ++ "\n")) = .ok t := by
        cases happend : (x.logTree d dir).append (failureLogPath dir)
            (Text.encode (line ++ "\n")) with
        | ok t => exact ⟨t, rfl⟩
        | error fault => exact absurd ⟨line, fault, hrecord, happend⟩ haccepted
      obtain ⟨l, htarget, ht⟩ := Tree.append_eq_ok happend
      obtain rfl := Tree.fileTarget_of_leads (hevolves.stands hdir) (leads_failureLogPath dir)
        (by simp) (by decide) htarget
      have hafter' : (x.after d dir).tree = t := by rw [hafter, appendRecord, happend]
      rw [hafter', ht, ← hevolves.file?_eq id]
      exact Tree.get?_put_self _ _ (by simp)
  | _ => simp_all

/-- Behind a deed there are the files from before, the one that it wrote, and the log if it got a
line. -/
theorem Deed.hasFile_after (hsave : d.SavesFrom source) (hdir : x.before.tree.Stands dir loc)
    (l : Location) :
    (x.after d dir).tree.HasFile l ↔ x.before.tree.HasFile l ∨ x.location? d dir = some l ∨
      (x.accepted? d dir).isSome ∧ l = logLocation loc := by
  have hevolves := Deed.evolves_files hsave hdir
  constructor
  · rintro ⟨content, hcontent⟩
    exact (hevolves.was_file hcontent).imp_left fun hbefore => ⟨content, hbefore⟩
  · rintro (hbefore | hlocation | ⟨haccepted, rfl⟩)
    · exact hevolves.hasFile hbefore
    · obtain ⟨path, houtput⟩ := Deed.exists_output_of_location hlocation
      cases x.fileEffect hsave dir with
      | wrote path l' content _ _ hlocation' _ hlocate =>
          obtain rfl := Option.some.inj (hlocation.symm.trans hlocation')
          exact ⟨content, (Tree.locate_eq_ok hlocate).2.2.1⟩
      | logged _ hnone => exact absurd (houtput.symm.trans hnone) (by simp)
      | quiet hnone => exact absurd (houtput.symm.trans hnone) (by simp)
    · obtain ⟨line, hline⟩ := Option.isSome_iff_exists.mp haccepted
      exact ⟨_, Deed.get?_log hsave hdir hline⟩

/-- Behind a run there are the files from before, those that its deeds wrote, and the log if it got
a line. -/
theorem linked_hasFile (h : Linked d dir w xs w') (hsave : d.SavesFrom source)
    (hdir : w.tree.Stands dir loc) (l : Location) :
    w'.tree.HasFile l ↔ w.tree.HasFile l ∨ (∃ x ∈ xs, x.location? d dir = some l) ∨
      (∃ x ∈ xs, (x.accepted? d dir).isSome) ∧ l = logLocation loc := by
  induction h with
  | nil => simp
  | @cons x xs w' _ ih =>
      rw [ih ((Deed.evolves_files hsave hdir).stands hdir), Deed.hasFile_after hsave hdir l]
      simp only [List.exists_mem_cons_iff, or_and_right, or_assoc, or_left_comm]

/-- The log at the end of a run. -/
theorem linked_log (h : Linked d dir w xs w') (hsave : d.SavesFrom source)
    (hdir : w.tree.Stands dir loc)
    (hfree : ∀ x ∈ xs, x.location? d dir ≠ some (logLocation loc)) :
    w'.tree.file? (logLocation loc) =
      logged (w.tree.file? (logLocation loc)) (xs.filterMap (Deed.accepted? d dir)) := by
  induction h with
  | nil => rfl
  | @cons x xs w' _ ih =>
      have hevolves := Deed.evolves_files hsave hdir
      rw [ih (hevolves.stands hdir) fun y hy => hfree y (List.mem_cons_of_mem x hy)]
      cases haccepted : x.accepted? d dir with
      | none =>
          rw [List.filterMap_cons_none haccepted, hevolves.file?_eq]
          rintro (hlocation | ⟨hsome, -⟩)
          · exact hfree x List.mem_cons_self hlocation
          · simp [haccepted] at hsome
      | some line =>
          rw [List.filterMap_cons_some haccepted,
            Tree.file?_eq_some.mpr (Deed.get?_log hsave hdir haccepted)]
          rfl

end ArchiveScout.Decode
