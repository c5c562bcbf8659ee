import ArchiveScout.Decode.Pass
import Mathlib.Data.List.Perm.Basic

/-!
# ArchiveScout.Proofs.Decode.Pass

**What is done in a pass, whatever the order.** An order of the numbers of strands says which one
moves on next; a strand that has ended, or that is not there, lets its turn pass. The deeds in an
order are looked at in two ways. `Linked` follows the workspace from deed to deed, `Thread` follows
one strand from action to action and knows nothing of the workspaces in between. `trace_run` says
that a run of all strands to their ends gives both; what holds for all orders is proved from them.
-/

namespace ArchiveScout.Decode

variable {d : Decompiler} {dir : String} {w w' : Workspace} {p : Pass} {i : Nat}

namespace Pass

/-- A strand moves on. -/
def step (d : Decompiler) (dir : String) (p : Pass) (i : Nat) : Pass :=
  match p.next? i with
  | some x => p.afterDeed d dir x
  | none => p

/-- Strands move on in an order. -/
def run (d : Decompiler) (dir : String) (p : Pass) (order : List Nat) : Pass :=
  order.foldl (step d dir) p

/-- What is done in an order. -/
def deeds (d : Decompiler) (dir : String) (p : Pass) : List Nat → List Deed
  | [] => []
  | i :: order => (p.next? i).toList ++ (p.step d dir i).deeds d dir order

end Pass

/-- Deeds of which each is done in the workspace that the one before left behind. -/
inductive Linked (d : Decompiler) (dir : String) : Workspace → List Deed → Workspace → Prop
  | nil (w : Workspace) : Linked d dir w [] w
  | cons {x : Deed} {xs : List Deed} {w' : Workspace} (h : Linked d dir (x.after d dir) xs w') :
      Linked d dir x.before (x :: xs) w'

/-- The deeds of a strand for some actions, with further actions behind them. At the end is
what the strand keeps; `none` when an action panicked, after which there are no deeds. -/
inductive Thread (d : Decompiler) (dir : String) (behind : Task) :
    Progress → Task → List Deed → Option Progress → Prop
  | nil (progress : Progress) : Thread d dir behind progress [] [] (some progress)
  | cons {x : Deed} {todo : Task} {xs : List Deed} {kept : Progress} {ending : Option Progress}
      (hrest : x.rest = todo ++ behind) (hkept : x.kept d dir = some kept)
      (h : Thread d dir behind kept todo xs ending) :
      Thread d dir behind x.progress (x.action :: todo) (x :: xs) ending
  | panic {x : Deed} {todo : Task} (hrest : x.rest = todo ++ behind) (hkept : x.kept d dir = none) :
      Thread d dir behind x.progress (x.action :: todo) [x] none

/-- What was done when tasks ran to their ends. -/
structure Trace (d : Decompiler) (dir : String) (tasks : List Task) (w : Workspace)
    (xs : List Deed) (w' : Workspace) : Prop where
  linked : Linked d dir w xs w'
  thread : ∀ i task, tasks[i]? = some task →
    ∃ ending, Thread d dir [] {} task (xs.filter (·.place = i)) ending
  place : ∀ x ∈ xs, x.place < tasks.length

/-- Without tasks there is nothing to do. -/
theorem Trace.eq_of_nil {xs : List Deed} (h : Trace d dir [] w xs w') : w' = w := by
  have hlinked := h.linked
  obtain rfl : xs = [] :=
    List.eq_nil_iff_forall_not_mem.mpr fun x hx => absurd (h.place x hx) (Nat.not_lt_zero _)
  cases hlinked
  rfl

/-- What was done before a deed, and what was done behind it. -/
theorem Linked.split {x : Deed} {xs ys : List Deed} (h : Linked d dir w (xs ++ x :: ys) w') :
    Linked d dir w xs x.before ∧ Linked d dir (x.after d dir) ys w' := by
  induction xs generalizing w with
  | nil =>
      cases h with
      | cons h => exact ⟨.nil _, h⟩
  | cons y xs ih =>
      cases h with
      | cons h =>
          obtain ⟨hfront, hback⟩ := ih h
          exact ⟨.cons hfront, hback⟩

/-! ### One step -/

theorem Pass.next?_eq_some {x : Deed} (h : p.next? i = some x) :
    x.place = i ∧ x.before = p.space ∧
      p.strands[i]? = some ⟨x.action :: x.rest, x.progress⟩ := by
  rw [next?] at h
  split at h
  · rename_i action rest progress hstrand
    obtain rfl := Option.some.inj h
    exact ⟨rfl, rfl, hstrand⟩
  · exact absurd h (by simp)

theorem Pass.step_of_next?_none (h : p.next? i = none) : p.step d dir i = p := by
  rw [step, h]

theorem Pass.step_of_next?_some {x : Deed} (h : p.next? i = some x) :
    p.step d dir i = p.afterDeed d dir x := by
  rw [step, h]

theorem Pass.length_step (p : Pass) (i : Nat) :
    (p.step d dir i).strands.length = p.strands.length := by
  cases h : p.next? i with
  | none => rw [step_of_next?_none h]
  | some x => simp [step_of_next?_some h, afterDeed]

/-- The strand that moved is behind its deed, and all others are where they were. -/
theorem Pass.strands_afterDeed (d : Decompiler) (dir : String) {x : Deed}
    (h : p.next? i = some x) (j : Nat) :
    (p.afterDeed d dir x).strands[j]? =
      if j = i then some (x.strand d dir) else p.strands[j]? := by
  obtain ⟨rfl, -, hstrand⟩ := next?_eq_some h
  obtain ⟨hlt, -⟩ := List.getElem?_eq_some_iff.mp hstrand
  rw [afterDeed, List.getElem?_set]
  by_cases hj : j = x.place
  · simp [hj, hlt]
  · simp [hj, Ne.symm hj]

theorem Pass.next?_isSome {action : Action} {rest : Task} {progress : Progress}
    (h : p.strands[i]? = some ⟨action :: rest, progress⟩) : (p.next? i).isSome := by
  simp [next?, h]

/-- A turn is lost only on a strand with nothing left to do. -/
theorem Pass.todo_of_next?_none {s : Strand} (hnext : p.next? i = none)
    (h : p.strands[i]? = some s) : s.todo = [] := by
  cases htodo : s.todo with
  | nil => rfl
  | cons action rest =>
      have hstrand : p.strands[i]? = some ⟨action :: rest, s.progress⟩ := by rw [h, ← htodo]
      exact absurd hnext (Option.isSome_iff_ne_none.mp (next?_isSome hstrand))

/-- A turn takes an action off its strand if one is left, and none off the others. -/
theorem Pass.exists_step (d : Decompiler) (dir : String) {s : Strand} (h : p.strands[i]? = some s)
    (j : Nat) : ∃ s', (p.step d dir j).strands[i]? = some s' ∧
      s'.todo.length ≤ s.todo.length - if j = i then 1 else 0 := by
  cases hnext : p.next? j with
  | none =>
      rw [step_of_next?_none hnext]
      refine ⟨s, h, ?_⟩
      by_cases hj : j = i
      · subst hj
        simp [todo_of_next?_none hnext h]
      · simp [hj]
  | some x =>
      obtain ⟨rfl, -, hstrand⟩ := next?_eq_some hnext
      rw [step_of_next?_some hnext, strands_afterDeed d dir hnext]
      by_cases hi : i = x.place
      · subst hi
        obtain rfl : ⟨x.action :: x.rest, x.progress⟩ = s := Option.some.inj (hstrand ▸ h)
        refine ⟨_, if_pos rfl, ?_⟩
        rw [Deed.strand]
        split <;> simp
      · rw [if_neg hi]
        exact ⟨s, h, by simp [Ne.symm hi]⟩

/-! ### Whole runs -/

/-- The workspaces of a run hang together. -/
theorem linked_deeds (p : Pass) (order : List Nat) :
    Linked d dir p.space (p.deeds d dir order) (p.run d dir order).space := by
  induction order generalizing p with
  | nil => exact .nil p.space
  | cons i order ih =>
      rw [Pass.deeds, Pass.run, List.foldl_cons]
      cases h : p.next? i with
      | none =>
          rw [Pass.step_of_next?_none h]
          exact ih p
      | some x =>
          obtain ⟨-, hbefore, -⟩ := Pass.next?_eq_some h
          have hrest := ih (p.step d dir i)
          rw [Pass.step_of_next?_some h] at hrest ⊢
          exact hbefore ▸ .cons hrest

theorem place_lt_of_mem_deeds (p : Pass) (order : List Nat) :
    ∀ x ∈ p.deeds d dir order, x.place < p.strands.length := by
  induction order generalizing p with
  | nil => simp [Pass.deeds]
  | cons i order ih =>
      intro x hx
      rw [Pass.deeds, List.mem_append] at hx
      rcases hx with hx | hx
      · obtain ⟨rfl, -, hstrand⟩ := Pass.next?_eq_some (Option.mem_toList.mp hx)
        exact (List.getElem?_eq_some_iff.mp hstrand).1
      · exact Pass.length_step p i ▸ ih (p.step d dir i) x hx

theorem run_of_done {progress : Progress} (order : List Nat)
    (h : p.strands[i]? = some ⟨[], progress⟩) :
    (p.deeds d dir order).filter (·.place = i) = [] := by
  -- A strand at its end has no next deed, and the deeds of others leave it as it is.
  induction order generalizing p with
  | nil => rfl
  | cons j order ih =>
      rw [Pass.deeds]
      cases hnext : p.next? j with
      | none =>
          rw [Pass.step_of_next?_none hnext]
          exact ih h
      | some x =>
          obtain ⟨rfl, -, hstrand⟩ := Pass.next?_eq_some hnext
          have hne : x.place ≠ i := by
            rintro rfl
            rw [hstrand] at h
            exact absurd h (by simp)
          have hrest := ih (p := p.step d dir x.place) (by
            rw [Pass.step_of_next?_some hnext, Pass.strands_afterDeed d dir hnext,
              if_neg (Ne.symm hne)]
            exact h)
          simp [hne, hrest]

/-- The deeds of a strand in a run that brings it to its end. -/
theorem thread_deeds {s : Strand} {order : List Nat} (h : p.strands[i]? = some s)
    (hend : ∀ s', (p.run d dir order).strands[i]? = some s' → s'.todo = []) :
    ∃ ending, Thread d dir [] s.progress s.todo ((p.deeds d dir order).filter (·.place = i))
      ending := by
  induction order generalizing p s with
  | nil =>
      have hdone : s.todo = [] := hend s h
      rw [hdone]
      exact ⟨_, .nil s.progress⟩
  | cons j order ih =>
      rw [Pass.deeds]
      rw [Pass.run, List.foldl_cons] at hend
      cases hnext : p.next? j with
      | none =>
          rw [Pass.step_of_next?_none hnext] at hend ⊢
          exact ih h hend
      | some x =>
          obtain ⟨rfl, -, hstrand⟩ := Pass.next?_eq_some hnext
          have hset := Pass.strands_afterDeed d dir hnext i
          rw [Pass.step_of_next?_some hnext] at hend ⊢
          by_cases hi : i = x.place
          · subst hi
            rw [if_pos rfl] at hset
            obtain rfl : ⟨x.action :: x.rest, x.progress⟩ = s := Option.some.inj (hstrand ▸ h)
            rw [Option.toList_some, List.singleton_append, List.filter_cons_of_pos (by simp)]
            rw [Deed.strand] at hset
            cases hkept : x.kept d dir with
            | some kept =>
                rw [hkept] at hset
                obtain ⟨ending, hrest⟩ := ih hset hend
                exact ⟨ending, .cons (List.append_nil _).symm hkept hrest⟩
            | none =>
                -- Behind a panic there is nothing left to do, so this deed was the last one.
                rw [hkept] at hset
                rw [run_of_done order hset]
                exact ⟨none, .panic (List.append_nil _).symm hkept⟩
          · rw [if_neg hi] at hset
            rw [Option.toList_some, List.singleton_append,
              List.filter_cons_of_neg (by simpa using Ne.symm hi)]
            exact ih (hset.trans h) hend

/-- A run of all strands to their ends leaves a trace, in every order. -/
theorem trace_run (w : Workspace) (tasks : List Task) (order : List Nat)
    (hend : ∀ s ∈ ((Pass.start w tasks).run d dir order).strands, s.todo = []) :
    Trace d dir tasks w ((Pass.start w tasks).deeds d dir order)
      ((Pass.start w tasks).run d dir order).space := by
  refine ⟨linked_deeds (Pass.start w tasks) order, fun i task htask => ?_, fun x hx => ?_⟩
  · have hstart : (Pass.start w tasks).strands[i]? = some { todo := task } := by
      simp [Pass.start, htask]
    exact thread_deeds hstart fun s' hs' => hend s' (List.mem_of_getElem? hs')
  · simpa [Pass.start] using place_lt_of_mem_deeds _ _ x hx

end ArchiveScout.Decode
