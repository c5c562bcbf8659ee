import ArchiveScout.Proofs.Decode.Deed
import ArchiveScout.Proofs.Decode.Pass

/-!
# ArchiveScout.Proofs.Decode.Strand

**The deeds of one strand.** The deeds for several actions fall into those for the first ones
and those for the rest, unless an action panics on the way. So the strand of a batch falls
into a piece for each class: paths are handed out, the texts are written at these paths, and
the class is settled.
-/

namespace ArchiveScout.Decode

open ArchiveScout.Archive (ClassEntry)
open ArchiveScout.File

variable {d : Decompiler} {dir : String} {behind front back todo : Task} {x : Deed}
  {xs : List Deed} {progress kept : Progress} {ending : Option Progress}

namespace Thread

/-- The first deed of a strand, and what comes behind it. -/
theorem first {action : Action} (h : Thread d dir behind progress (action :: todo) xs ending) :
    ∃ x ys, xs = x :: ys ∧ x.action = action ∧ x.progress = progress ∧ x.rest = todo ++ behind ∧
      ((∃ kept, x.kept d dir = some kept ∧ Thread d dir behind kept todo ys ending) ∨
        (x.kept d dir = none ∧ ys = [] ∧ ending = none)) := by
  cases h with
  | cons hrest hkept h => exact ⟨_, _, rfl, rfl, rfl, hrest, .inl ⟨_, hkept, h⟩⟩
  | panic hrest hkept => exact ⟨_, _, rfl, rfl, rfl, hrest, .inr ⟨hkept, rfl, rfl⟩⟩

/-- A strand comes through some actions and goes on with the next ones, or it panics. -/
theorem split (h : Thread d dir behind progress (front ++ back) xs ending) :
    (∃ kept ys zs, xs = ys ++ zs ∧ Thread d dir (back ++ behind) progress front ys (some kept) ∧
      Thread d dir behind kept back zs ending) ∨
    (ending = none ∧ Thread d dir (back ++ behind) progress front xs none) := by
  induction front generalizing progress xs with
  | nil => exact .inl ⟨progress, [], xs, rfl, .nil progress, h⟩
  | cons action front ih =>
      rw [List.cons_append] at h
      cases h with
      | cons hrest hkept h =>
          rw [List.append_assoc] at hrest
          rcases ih h with ⟨kept, ys, zs, rfl, hfront, hback⟩ | ⟨rfl, hfront⟩
          · exact .inl ⟨kept, _ :: ys, zs, rfl, .cons hrest hkept hfront, hback⟩
          · exact .inr ⟨rfl, .cons hrest hkept hfront⟩
      | panic hrest hkept =>
          rw [List.append_assoc] at hrest
          exact .inr ⟨rfl, .panic hrest hkept⟩

/-- The deeds of a strand are for its actions in turn. -/
theorem action_prefix (h : Thread d dir behind progress todo xs ending) :
    xs.map (·.action) <+: todo := by
  induction h with
  | nil => exact List.prefix_rfl
  | cons _ _ _ ih => exact (List.prefix_cons_inj _).mpr ih
  | panic => exact List.prefix_append [_] _

theorem action_mem (h : Thread d dir behind progress todo xs ending) :
    ∀ x ∈ xs, x.action ∈ todo :=
  fun _ hx => h.action_prefix.subset (List.mem_map_of_mem hx)

/-- A strand that panicked did so in one of its deeds. -/
theorem exists_panic (h : Thread d dir behind progress todo xs none) :
    ∃ x ∈ xs, x.kept d dir = none := by
  generalize hending : (none : Option Progress) = ending at h
  induction h with
  | nil => exact absurd hending (by simp)
  | cons _ _ _ ih =>
      obtain ⟨x, hx, hnone⟩ := ih hending
      exact ⟨x, List.mem_cons_of_mem _ hx, hnone⟩
  | panic _ hkept => exact ⟨_, List.mem_cons_self, hkept⟩

/-- Where no deed panics a strand comes through. -/
theorem comes_through (h : Thread d dir behind progress todo xs ending)
    (hno : ∀ x : Deed, x.action ∈ todo → x.kept d dir ≠ none) : ∃ kept, ending = some kept := by
  cases ending with
  | some kept => exact ⟨kept, rfl⟩
  | none =>
      obtain ⟨x, hx, hnone⟩ := h.exists_panic
      exact absurd hnone (hno x (h.action_mem x hx))

/-- A strand that comes through has a deed for every action. -/
theorem map_action (h : Thread d dir behind progress todo xs (some kept)) :
    xs.map (·.action) = todo := by
  generalize hending : some kept = ending at h
  induction h with
  | nil => rfl
  | cons _ _ _ ih => rw [List.map_cons, ih hending]
  | panic => exact absurd hending (by simp)

/-- A strand of a single action has a single deed. -/
theorem single {action : Action} (h : Thread d dir behind progress [action] xs ending) :
    ∃ x, xs = [x] ∧ x.action = action ∧ x.progress = progress ∧ x.rest = behind ∧
      x.kept d dir = ending := by
  obtain ⟨x, ys, rfl, haction, hprogress, hrest, ⟨kept, hkept, h⟩ | ⟨hkept, rfl, rfl⟩⟩ := h.first
  · cases h
    exact ⟨x, rfl, haction, hprogress, hrest, hkept⟩
  · exact ⟨x, rfl, haction, hprogress, hrest, hkept⟩

end Thread

/-! ### A class -/

/-- Which actions panic in every workspace. -/
theorem Deed.kept_eq_none_of_text {kind : Kind} {entry : ClassEntry}
    (haction : x.action = .text kind entry) :
    x.kept d dir = none ↔ d.text kind entry = .panicked := by
  cases x.effect d dir <;> simp_all

theorem Deed.kept_settle {entry : ClassEntry} (haction : x.action = .settle entry) :
    x.kept d dir = some x.progress := by
  cases x.effect d dir <;> simp_all

/-- Behind a text the strand keeps the paths, and it is sound if it was so and the text was
written. -/
theorem Deed.kept_text {kind : Kind} {entry : ClassEntry} (haction : x.action = .text kind entry)
    (hkept : x.kept d dir = some kept) :
    kept.paths = x.progress.paths ∧
      (kept.sound = true ↔ x.progress.sound = true ∧ (x.output? d dir).isSome) := by
  cases x.effect d dir <;> simp_all <;> subst hkept <;> simp

/-- The deeds for the texts of a class. -/
theorem Thread.texts {entry : ClassEntry} {kinds : List Kind}
    (h : Thread d dir behind progress (kinds.map (.text · entry)) xs ending) :
    (∀ x ∈ xs, x.progress.paths = progress.paths) ∧
      ∀ kept, ending = some kept → kept.paths = progress.paths ∧
        (kept.sound = true ↔ progress.sound = true ∧ ∀ x ∈ xs, (x.output? d dir).isSome) := by
  induction kinds generalizing progress xs with
  | nil =>
      cases h
      refine ⟨by simp, ?_⟩
      rintro _ ⟨⟩
      simp
  | cons kind kinds ih =>
      rw [List.map_cons] at h
      obtain ⟨x, ys, rfl, haction, rfl, -, ⟨kept, hkept, h⟩ | ⟨-, rfl, rfl⟩⟩ := h.first
      · obtain ⟨hpaths, hsound⟩ := Deed.kept_text haction hkept
        obtain ⟨hall, hend⟩ := ih h
        refine ⟨fun y hy => ?_, fun last hlast => ?_⟩
        · rcases List.mem_cons.mp hy with rfl | hy
          · rfl
          · exact (hall y hy).trans hpaths
        · obtain ⟨hlastPaths, hlastSound⟩ := hend last hlast
          refine ⟨hlastPaths.trans hpaths, ?_⟩
          rw [hlastSound, hsound, List.forall_mem_cons, and_assoc]
      · exact ⟨by simp, by simp⟩

/-- A piece of a strand for one class: paths are handed out by `first`, and come with the
deeds behind it. -/
structure Piece (d : Decompiler) (dir : String) (job : Job) (behind : Task) (entry : ClassEntry)
    (first : Deed) (xs : List Deed) (ending : Option Progress) : Prop where
  action : first.action = .reserve entry
  rest : first.rest = job.kinds.map (.text · entry) ++ [.settle entry] ++ behind
  thread : Thread d dir behind
    { paths := (first.before.resolver.resolve first.before.tree entry).1 }
    (job.kinds.map (.text · entry) ++ [.settle entry]) xs ending

theorem Thread.piece {job : Job} {entry : ClassEntry}
    (h : Thread d dir behind progress (classActions job entry) xs ending) :
    ∃ first ys, xs = first :: ys ∧ Piece d dir job behind entry first ys ending := by
  obtain ⟨x, ys, rfl, haction, -, hrest, hnext⟩ := h.first
  have hkept : x.kept d dir =
      some { paths := (x.before.resolver.resolve x.before.tree entry).1 } := by
    cases x.effect d dir <;> simp_all
  rcases hnext with ⟨kept, hkept', h⟩ | ⟨hkept', -⟩
  · obtain rfl := Option.some.inj (hkept.symm.trans hkept')
    exact ⟨x, ys, rfl, haction, hrest, h⟩
  · exact absurd (hkept.symm.trans hkept') (by simp)

/-- The deed that settles a class comes last, behind one for each text, if none panicked. -/
theorem Piece.settled {job : Job} {entry : ClassEntry} {first : Deed} {kept : Progress}
    (h : Piece d dir job behind entry first xs (some kept)) :
    ∃ ys x, xs = ys ++ [x] ∧ x.action = .settle entry ∧ x.rest = behind ∧
      ys.map (·.action) = job.kinds.map (.text · entry) ∧
      (x.progress.sound = true ↔ ∀ y ∈ ys, (y.output? d dir).isSome) := by
  rcases h.thread.split with ⟨middle, ys, zs, rfl, htexts, hsettle⟩ | ⟨hnone, -⟩
  · obtain ⟨x, rfl, haction, rfl, hrest, -⟩ := hsettle.single
    obtain ⟨-, hend⟩ := htexts.texts
    refine ⟨ys, x, rfl, haction, hrest, htexts.map_action, ?_⟩
    rw [(hend _ rfl).2]
    simp
  · exact absurd hnone (by simp)

namespace Piece

variable {job : Job} {entry : ClassEntry} {first : Deed}

/-- A class that is settled is so last, and its texts were all tried. -/
theorem settled_of_mem (h : Piece d dir job behind entry first xs ending) (hx : x ∈ xs)
    (haction : x.action = .settle entry) : ∃ ys, xs = ys ++ [x] ∧
      ys.map (·.action) = job.kinds.map (.text · entry) ∧
      (x.progress.sound = true ↔ ∀ y ∈ ys, (y.output? d dir).isSome) := by
  obtain ⟨kept, rfl⟩ : ∃ kept, ending = some kept := by
    rcases h.thread.split with ⟨middle, ys, zs, rfl, -, hsettle⟩ | ⟨-, htexts⟩
    · obtain ⟨y, -, hsettled, -, -, hkept⟩ := hsettle.single
      exact ⟨y.progress, hkept.symm.trans (Deed.kept_settle hsettled)⟩
    · have hmem := htexts.action_mem x hx
      rw [haction, List.mem_map] at hmem
      obtain ⟨kind, -, hkind⟩ := hmem
      exact absurd hkind (by simp)
  obtain ⟨ys, y, rfl, hsettled, -, hactions, hsound⟩ := h.settled
  rcases List.mem_append.mp hx with hx | hx
  · have hmem := List.mem_map_of_mem (f := (·.action)) hx
    rw [hactions, haction, List.mem_map] at hmem
    obtain ⟨kind, -, hkind⟩ := hmem
    exact absurd hkind (by simp)
  · obtain rfl := List.mem_singleton.mp hx
    exact ⟨ys, rfl, hactions, hsound⟩

/-- What is done for a class after its paths were handed out. -/
theorem mem_tail (h : Piece d dir job behind entry first xs ending) (hx : x ∈ first :: xs)
    (hno : x.action ≠ .reserve entry) : x ∈ xs := by
  rcases List.mem_cons.mp hx with rfl | hx
  · exact absurd h.action hno
  · exact hx

/-- The paths that come with a piece. -/
theorem handed (h : Piece d dir job behind entry first xs ending) :
    first.handed? = some (first.before.resolver.resolve first.before.tree entry).1 := by
  rw [Deed.handed?, h.action]

theorem action_mem (h : Piece d dir job behind entry first xs ending) :
    ∀ x ∈ xs, (∃ kind ∈ job.kinds, x.action = .text kind entry) ∨ x.action = .settle entry := by
  intro x hx
  have hmem := h.thread.action_mem x hx
  rw [List.mem_append, List.mem_map, List.mem_singleton] at hmem
  exact hmem.imp_left fun ⟨kind, hkind, haction⟩ => ⟨kind, hkind, haction.symm⟩

/-- The paths that were handed out stay with the whole piece. -/
theorem paths (h : Piece d dir job behind entry first xs ending) :
    ∀ x ∈ xs, first.handed? = some x.progress.paths := by
  rw [h.handed]
  rcases h.thread.split with ⟨middle, ys, zs, rfl, htexts, hsettle⟩ | ⟨-, htexts⟩
  · obtain ⟨x, rfl, -, rfl, -⟩ := hsettle.single
    obtain ⟨hall, hend⟩ := htexts.texts
    intro y hy
    rcases List.mem_append.mp hy with hy | hy
    · rw [hall y hy]
    · obtain rfl := List.mem_singleton.mp hy
      rw [(hend _ rfl).1]
  · intro y hy
    rw [htexts.texts.1 y hy]

/-- What is done for a class comes behind the deed that hands out its paths. -/
theorem handed_before {us vs : List Deed} (h : Piece d dir job behind entry first xs ending)
    (heq : first :: xs = us ++ x :: vs) (hno : ∀ entry, x.action ≠ .reserve entry) :
    first ∈ us ∧ first.handed? = some x.progress.paths ∧
      ((∃ kind ∈ job.kinds, x.action = .text kind entry) ∨ x.action = .settle entry) := by
  cases us with
  | nil =>
      obtain ⟨rfl, -⟩ := List.cons.inj heq
      exact absurd h.action (hno entry)
  | cons u us =>
      obtain ⟨rfl, rfl⟩ := List.cons.inj heq
      have hx : x ∈ us ++ x :: vs := by simp
      exact ⟨List.mem_cons_self, h.paths x hx, h.action_mem x hx⟩

end Piece

/-! ### A batch -/

theorem Deed.kept_ne_none {job : Job} {entry : ClassEntry}
    (haction : x.action ∈ classActions job entry)
    (hno : ∀ kind ∈ job.kinds, d.text kind entry ≠ .panicked) : x.kept d dir ≠ none := by
  rw [classActions, List.mem_cons, List.mem_append, List.mem_map, List.mem_singleton] at haction
  rcases haction with haction | ⟨kind, hkind, haction⟩ | haction
  · cases x.effect d dir <;> simp_all
  · exact fun hnone => hno kind hkind ((Deed.kept_eq_none_of_text haction.symm).mp hnone)
  · rw [Deed.kept_settle haction]
    simp

/-- The piece of a class in the strand of a batch, if no text of a class before it panics. -/
theorem Thread.exists_piece {job : Job} {entry : ClassEntry} {before after : List ClassEntry}
    (h : Thread d dir [] progress ((before ++ entry :: after).flatMap (classActions job)) xs ending)
    (hno : ∀ c ∈ before, ∀ kind ∈ job.kinds, d.text kind c ≠ .panicked) :
    ∃ ys first zs ws ending', xs = ys ++ (first :: zs ++ ws) ∧
      Piece d dir job (after.flatMap (classActions job)) entry first zs ending' := by
  rw [List.flatMap_append, List.flatMap_cons] at h
  rcases h.split with ⟨kept, ys, zs, rfl, -, hrest⟩ | ⟨-, hfront⟩
  · rcases hrest.split with ⟨kept', zs, ws, rfl, hclass, -⟩ | ⟨-, hclass⟩
    · rw [List.append_nil] at hclass
      obtain ⟨first, zs, rfl, hpiece⟩ := hclass.piece
      exact ⟨ys, first, zs, ws, _, rfl, hpiece⟩
    · rw [List.append_nil] at hclass
      obtain ⟨first, zs, rfl, hpiece⟩ := hclass.piece
      exact ⟨ys, first, zs, [], _, by rw [List.append_nil], hpiece⟩
  · -- The strand panicked before the class, so a text there did.
    obtain ⟨x, hx, hnone⟩ := hfront.exists_panic
    obtain ⟨c, hc, haction⟩ := List.mem_flatMap.mp (hfront.action_mem x hx)
    exact absurd hnone (Deed.kept_ne_none haction (hno c hc))

/-- Every deed of a batch is in the piece of one of its classes. -/
theorem Thread.mem_piece {job : Job} {entries : List ClassEntry}
    (h : Thread d dir behind progress (entries.flatMap (classActions job)) xs ending) :
    ∀ x ∈ xs, ∃ entry ∈ entries, ∃ behind' first ys ending',
      Piece d dir job behind' entry first ys ending' ∧ x ∈ first :: ys ∧ first :: ys ⊆ xs := by
  induction entries generalizing progress xs with
  | nil =>
      cases h
      simp
  | cons entry entries ih =>
      rw [List.flatMap_cons] at h
      rcases h.split with ⟨kept, ys, zs, rfl, hclass, hrest⟩ | ⟨-, hclass⟩
      · obtain ⟨first, ys, rfl, hpiece⟩ := hclass.piece
        intro x hx
        rcases List.mem_append.mp hx with hx | hx
        · exact ⟨entry, List.mem_cons_self, _, first, ys, _, hpiece, hx,
            List.subset_append_left _ _⟩
        · obtain ⟨c, hc, behind', first', ys', ending', hpiece', hmem, hsub⟩ := ih hrest x hx
          exact ⟨c, List.mem_cons_of_mem _ hc, behind', first', ys', ending', hpiece', hmem,
            fun y hy => List.mem_append_right _ (hsub hy)⟩
      · obtain ⟨first, ys, rfl, hpiece⟩ := hclass.piece
        exact fun x hx => ⟨entry, List.mem_cons_self, _, first, ys, _, hpiece, hx, fun _ h => h⟩

/-- What is done for the classes of a batch comes behind the deeds that hand out their paths. -/
theorem Thread.handed_before {job : Job} {entries : List ClassEntry} {us vs : List Deed}
    (h : Thread d dir behind progress (entries.flatMap (classActions job)) (us ++ x :: vs) ending)
    (hno : ∀ entry, x.action ≠ .reserve entry) :
    ∃ first ∈ us, ∃ entry ∈ entries, first.action = .reserve entry ∧
      first.handed? = some x.progress.paths ∧
      ((∃ kind ∈ job.kinds, x.action = .text kind entry) ∨ x.action = .settle entry) := by
  induction entries generalizing progress us with
  | nil =>
      generalize hxs : us ++ x :: vs = xs at h
      cases h
      simp at hxs
  | cons entry entries ih =>
      rw [List.flatMap_cons] at h
      rcases h.split with ⟨kept, ys, zs, heq, hclass, hrest⟩ | ⟨-, hclass⟩
      · rcases List.append_eq_append_iff.mp heq.symm with ⟨as, rfl, rfl⟩ | ⟨bs, rfl, hbs⟩
        · obtain ⟨first, hfirst, c, hc, hfound⟩ := ih hrest
          exact ⟨first, List.mem_append_right _ hfirst, c, List.mem_cons_of_mem _ hc, hfound⟩
        · cases bs with
          | nil =>
              -- The deed would be the first one behind this class, which hands out paths.
              rw [List.nil_append] at hbs
              rw [← hbs] at hrest
              have hfirst : Thread d dir behind kept (entries.flatMap (classActions job))
                  ([] ++ x :: vs) ending := hrest
              obtain ⟨first, hfirst, -⟩ := ih hfirst
              exact absurd hfirst List.not_mem_nil
          | cons b bs =>
              obtain ⟨rfl, -⟩ := List.cons.inj hbs
              obtain ⟨first, ys, hys, hpiece⟩ := hclass.piece
              obtain ⟨hfirst, hfound⟩ := hpiece.handed_before hys.symm hno
              exact ⟨first, hfirst, entry, List.mem_cons_self, hpiece.action, hfound⟩
      · obtain ⟨first, ys, hys, hpiece⟩ := hclass.piece
        obtain ⟨hfirst, hfound⟩ := hpiece.handed_before hys.symm hno
        exact ⟨first, hfirst, entry, List.mem_cons_self, hpiece.action, hfound⟩

end ArchiveScout.Decode
