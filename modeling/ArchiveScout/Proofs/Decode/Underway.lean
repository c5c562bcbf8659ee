import ArchiveScout.Decode.Decoder
import ArchiveScout.Proofs.Decode.Pass

/-!
# ArchiveScout.Proofs.Decode.Underway

**What happens while the tasks of a pass are awaited.** Workers take turns, the gate is turned and
lines come, in any order. `Turn` lists all that a turn of a worker can come to, and
`Underway.Stepped` all that any event can; what is not the turn of a worker turns at most the gate.

What every event preserves is in `Awaited`: each task is in front of the gate, behind it or over,
and one that is over has nothing left to do. With the gate open each turn brings its task nearer to
its end, so after enough of them the wait is complete (`Awaited.complete_of_open`). A pass that is
not complete then stands at a closed gate; one that is complete has run all of its tasks to their
ends.
-/

namespace ArchiveScout.Decode

/-! ### Pools -/

namespace Pool

variable {τ : Type} {p : Pool τ}

/-- A pool in which nothing waits and nothing runs. -/
structure Idle (p : Pool τ) : Prop where
  dispatched : p.dispatched = 0
  completed : p.completed = 0
  queued : p.queued = []
  running : p.running = []
  ended : p.ended = []

/-- The gate has no part in this. -/
theorem Idle.gate (h : p.Idle) (paused : Bool) : Idle { p with paused } :=
  ⟨h.dispatched, h.completed, h.queued, h.running, h.ended⟩

theorem foldl_dispatch (p : Pool τ) (tasks : List τ) : tasks.foldl dispatch p =
    { p with dispatched := p.dispatched + tasks.length, queued := p.queued ++ tasks } := by
  induction tasks generalizing p with
  | nil => simp
  | cons task tasks ih =>
      rw [List.foldl_cons, ih]
      simp [dispatch, announce, spawn, Nat.add_assoc, Nat.add_comm 1]

theorem exists_turn (p : Pool τ) (turn : GateTurn) : ∃ paused, p.turn turn = { p with paused } := by
  cases turn <;> exact ⟨_, rfl⟩

end Pool

/-! ### Turns of workers -/

variable {d : Decompiler} {dir : String} {pool : Pool Nat} {p : Pass} {i j : Nat}
  {tasks : List Task}

/-- All that a turn of a worker can come to. -/
inductive Turn (d : Decompiler) (dir : String) (pool : Pool Nat) (p : Pass) (i : Nat) :
    Pool Nat × Pass → Prop
  | passed (hqueued : i ∈ pool.queued) (hopen : pool.isOpen = true) :
      Turn d dir pool p i
        ({ pool with queued := pool.queued.erase i, running := pool.running ++ [i] }, p)
  | held (hqueued : i ∈ pool.queued) (hclosed : pool.isOpen = false) : Turn d dir pool p i (pool, p)
  | moved (x : Deed) (hqueued : i ∉ pool.queued) (hrunning : i ∈ pool.running)
      (hnext : p.next? i = some x) : Turn d dir pool p i (pool, p.afterDeed d dir x)
  | ended (hqueued : i ∉ pool.queued) (hrunning : i ∈ pool.running) (hnext : p.next? i = none) :
      Turn d dir pool p i
        ({ pool with
            running := pool.running.erase i, ended := pool.ended ++ [i]
            completed := pool.completed + 1 }, p)
  | missed (hqueued : i ∉ pool.queued) (hrunning : i ∉ pool.running) : Turn d dir pool p i (pool, p)

theorem turn_cases (d : Decompiler) (dir : String) (pool : Pool Nat) (p : Pass) (i : Nat) :
    Turn d dir pool p i (p.turn d dir pool i) := by
  rw [Pass.turn]
  by_cases hqueued : i ∈ pool.queued
  · rw [if_pos hqueued, Pool.pass?, List.getElem?_idxOf hqueued, List.eraseIdx_idxOf_eq_erase]
    cases hopen : pool.isOpen with
    | true => exact .passed hqueued hopen
    | false => exact .held hqueued hopen
  · rw [if_neg hqueued]
    by_cases hrunning : i ∈ pool.running
    · rw [if_pos hrunning]
      cases hnext : p.next? i with
      | some x => exact .moved x hqueued hrunning hnext
      | none =>
          rw [Pool.finish?, List.getElem?_idxOf hrunning, List.eraseIdx_idxOf_eq_erase]
          exact .ended hqueued hrunning hnext
    · rw [if_neg hrunning]
      exact .missed hqueued hrunning

/-- What holds while some tasks are awaited. -/
structure Awaited (tasks : List Task) (pool : Pool Nat) (p : Pass) : Prop where
  dispatched : pool.dispatched = tasks.length
  completed : pool.completed = pool.ended.length
  places : (pool.queued ++ (pool.running ++ pool.ended)).Perm (List.range tasks.length)
  strands : p.strands.length = tasks.length
  short : ∀ (i : Nat) (task : Task), tasks[i]? = some task →
    ∃ s : Strand, p.strands[i]? = some s ∧ s.todo.length ≤ task.length
  ended : ∀ i ∈ pool.ended, ∀ s : Strand, p.strands[i]? = some s → s.todo = []

namespace Awaited

theorem start (hidle : pool.Idle) (space : Workspace) (tasks : List Task) :
    Awaited tasks ((List.range tasks.length).foldl Pool.dispatch pool) (.start space tasks) := by
  rw [Pool.foldl_dispatch]
  refine ⟨?_, ?_, ?_, by simp [Pass.start], ?_, ?_⟩
  · simp [hidle.dispatched]
  · simp [hidle.completed, hidle.ended]
  · simp [hidle.queued, hidle.running, hidle.ended]
  · intro i task htask
    exact ⟨{ todo := task }, by simp [Pass.start, htask], Nat.le_refl _⟩
  · simp [hidle.ended]

theorem nodup (h : Awaited tasks pool p) :
    pool.queued.Nodup ∧ (∀ i ∈ pool.queued, i ∉ pool.running ∧ i ∉ pool.ended) ∧
      pool.running.Nodup ∧ ∀ i ∈ pool.running, i ∉ pool.ended := by
  have hall := h.places.nodup_iff.mpr List.nodup_range
  obtain ⟨hqueued, hbehind, hapart⟩ := List.nodup_append.mp hall
  obtain ⟨hrunning, -, hapart'⟩ := List.nodup_append.mp hbehind
  refine ⟨hqueued, fun i hi => ⟨fun hmem => ?_, fun hmem => ?_⟩, hrunning, fun i hi hmem => ?_⟩
  · exact hapart i hi i (List.mem_append_left _ hmem) rfl
  · exact hapart i hi i (List.mem_append_right _ hmem) rfl
  · exact hapart' i hi i hmem rfl

/-- A deed of a task that is not over. -/
theorem afterDeed (h : Awaited tasks pool p) {x : Deed} (hnext : p.next? i = some x)
    (hi : i ∉ pool.ended) (d : Decompiler) (dir : String) :
    Awaited tasks pool (p.afterDeed d dir x) := by
  have hstep : p.step d dir i = p.afterDeed d dir x := Pass.step_of_next?_some hnext
  refine { h with strands := ?_, short := ?_, ended := ?_ }
  · rw [← hstep, Pass.length_step, h.strands]
  · intro j task htask
    obtain ⟨s, hs, hle⟩ := h.short j task htask
    obtain ⟨s', hs', hle'⟩ := Pass.exists_step d dir hs i
    exact ⟨s', hstep ▸ hs', by omega⟩
  · intro j hj s hs
    have hne : j ≠ i := fun heq => hi (heq ▸ hj)
    rw [Pass.strands_afterDeed d dir hnext, if_neg hne] at hs
    exact h.ended j hj s hs

/-- Every turn of a worker preserves what holds. -/
theorem turn (h : Awaited tasks pool p) {result : Pool Nat × Pass}
    (hturn : Turn d dir pool p i result) : Awaited tasks result.1 result.2 := by
  cases hturn with
  | passed hqueued =>
      refine { h with places := List.Perm.trans ?_ h.places }
      dsimp only
      rw [List.append_assoc, List.singleton_append]
      have hback : (pool.queued.erase i ++ (pool.running ++ i :: pool.ended)).Perm
          (i :: (pool.queued.erase i ++ (pool.running ++ pool.ended))) :=
        (List.perm_middle.append_left _).trans List.perm_middle
      exact hback.trans ((List.perm_cons_erase hqueued).symm.append_right _)
  | held => exact h
  | moved x _ hrunning hnext => exact h.afterDeed hnext (h.nodup.2.2.2 i hrunning) d dir
  | ended _ hrunning hnext =>
      refine { h with completed := ?_, places := List.Perm.trans ?_ h.places, ended := ?_ }
      · simp [h.completed]
      · dsimp only
        refine List.Perm.append_left _ ?_
        rw [← List.append_assoc]
        exact (List.perm_append_singleton _ _).trans
          ((List.perm_cons_erase hrunning).symm.append_right pool.ended)
      · intro j hj s hs
        rcases List.mem_append.mp hj with hj | hj
        · exact h.ended j hj s hs
        · obtain rfl := List.mem_singleton.mp hj
          exact Pass.todo_of_next?_none hnext hs
  | missed => exact h

theorem gate (h : Awaited tasks pool p) (paused : Bool) : Awaited tasks { pool with paused } p :=
  { h with }

/-- A complete wait has all tasks behind it. -/
theorem of_complete (h : Awaited tasks pool p) (hcomplete : pool.isComplete = true) :
    pool.queued = [] ∧ pool.running = [] ∧ pool.completed = tasks.length ∧
      ∀ s ∈ p.strands, s.todo = [] := by
  have hle : tasks.length ≤ pool.ended.length := by
    simpa [Pool.isComplete, h.dispatched, h.completed] using hcomplete
  have hlength := h.places.length_eq
  simp only [List.length_append, List.length_range] at hlength
  have hqueued : pool.queued = [] := List.eq_nil_of_length_eq_zero (by omega)
  have hrunning : pool.running = [] := List.eq_nil_of_length_eq_zero (by omega)
  have hplaces := h.places
  rw [hqueued, hrunning, List.nil_append, List.nil_append] at hplaces
  refine ⟨hqueued, hrunning, by rw [h.completed]; omega, fun s hs => ?_⟩
  obtain ⟨i, hi⟩ := List.mem_iff_getElem?.mp hs
  obtain ⟨hlt, -⟩ := List.getElem?_eq_some_iff.mp hi
  refine h.ended i (hplaces.mem_iff.mpr ?_) s hi
  rwa [List.mem_range, ← h.strands]

/-- The pool behind a complete wait is as before. -/
theorem idle_reset (h : Awaited tasks pool p) (hcomplete : pool.isComplete = true) :
    pool.reset.Idle := by
  obtain ⟨hqueued, hrunning, -, -⟩ := h.of_complete hcomplete
  exact ⟨rfl, rfl, hqueued, hrunning, rfl⟩

theorem idle_of_nil (h : Awaited [] pool p) : pool.Idle := by
  have hplaces := h.places.eq_nil
  simp only [List.append_eq_nil_iff] at hplaces
  obtain ⟨hqueued, hrunning, hended⟩ := hplaces
  exact ⟨h.dispatched, by rw [h.completed, hended]; rfl, hqueued, hrunning, hended⟩

end Awaited

/-! ### Coming to an end -/

/-- How many actions a task has left. -/
def Pass.actionsLeft (p : Pass) (i : Nat) : Nat := p.strands[i]?.elim 0 (·.todo.length)

/-- How many turns a task needs to its end, if the gate lets it pass. -/
def Pass.turnsLeft (pool : Pool Nat) (p : Pass) (i : Nat) : Nat :=
  if i ∈ pool.queued then p.actionsLeft i + 2
  else if i ∈ pool.running then p.actionsLeft i + 1
  else 0

theorem Pass.actionsLeft_afterDeed (d : Decompiler) (dir : String) {x : Deed}
    (hnext : p.next? j = some x) (i : Nat) :
    (p.afterDeed d dir x).actionsLeft i ≤ p.actionsLeft i - if j = i then 1 else 0 := by
  have hstep : p.step d dir j = p.afterDeed d dir x := step_of_next?_some hnext
  unfold actionsLeft
  cases hs : p.strands[i]? with
  | some s =>
      obtain ⟨s', hs', hle⟩ := Pass.exists_step d dir hs j
      rw [← hstep, hs']
      exact hle
  | none =>
      have hlength : (p.step d dir j).strands.length = p.strands.length := length_step p j
      have hnone : (p.afterDeed d dir x).strands[i]? = none := by
        rw [← hstep]
        rw [List.getElem?_eq_none_iff] at hs ⊢
        omega
      rw [hnone]
      exact Nat.zero_le _

/-- With the gate open a turn brings its task nearer to its end, and no other one further away. -/
theorem Awaited.turnsLeft_le (h : Awaited tasks pool p) (hopen : pool.isOpen = true)
    {result : Pool Nat × Pass} (hturn : Turn d dir pool p j result) (i : Nat) :
    Pass.turnsLeft result.1 result.2 i ≤ Pass.turnsLeft pool p i - if j = i then 1 else 0 := by
  obtain ⟨hqueues, hbehind, hruns, -⟩ := h.nodup
  cases hturn with
  | passed hqueued =>
      by_cases hj : j = i
      · subst hj
        have hleft : j ∉ pool.queued.erase j := hqueues.not_mem_erase
        simp [Pass.turnsLeft, hqueued, hleft]
      · have hqueue : i ∈ pool.queued.erase j ↔ i ∈ pool.queued :=
          List.mem_erase_of_ne (Ne.symm hj)
        simp [Pass.turnsLeft, hj, hqueue, Ne.symm hj]
  | held _ hclosed => exact absurd (hopen.symm.trans hclosed) (by simp)
  | moved x hqueued hrunning hnext =>
      have hle := Pass.actionsLeft_afterDeed d dir hnext i
      by_cases hj : j = i
      · subst hj
        have hsome : 0 < p.actionsLeft j := by
          rw [Pass.actionsLeft, (Pass.next?_eq_some hnext).2.2]
          simp
        simp only [if_true] at hle
        simp only [Pass.turnsLeft, hqueued, hrunning, if_true, if_false]
        omega
      · simp only [hj, if_false, Nat.sub_zero] at hle ⊢
        unfold Pass.turnsLeft
        split
        · omega
        · split
          · omega
          · exact Nat.le_refl _
  | ended hqueued hrunning =>
      by_cases hj : j = i
      · subst hj
        have hleft : j ∉ pool.running.erase j := hruns.not_mem_erase
        simp [Pass.turnsLeft, hqueued, hleft]
      · have hrun : i ∈ pool.running.erase j ↔ i ∈ pool.running :=
          List.mem_erase_of_ne (Ne.symm hj)
        simp [Pass.turnsLeft, hj, hrun]
  | missed hqueued hrunning =>
      by_cases hj : j = i
      · subst hj
        simp [Pass.turnsLeft, hqueued, hrunning]
      · simp [hj]

theorem isOpen_of_turn {result : Pool Nat × Pass} (hturn : Turn d dir pool p i result) :
    result.1.isOpen = pool.isOpen := by
  cases hturn <;> rfl

theorem Awaited.turnsLeft_le_length (h : Awaited tasks pool p) {task : Task}
    (htask : tasks[i]? = some task) : Pass.turnsLeft pool p i ≤ task.length + 2 := by
  obtain ⟨s, hs, hle⟩ := h.short i task htask
  have hactions : p.actionsLeft i = s.todo.length := by rw [Pass.actionsLeft, hs]; rfl
  rw [Pass.turnsLeft, hactions]
  split
  · omega
  · split <;> omega

/-- A wait in which no task needs a further turn is complete. -/
theorem Awaited.isComplete_of_turnsLeft (h : Awaited tasks pool p)
    (hnone : ∀ i < tasks.length, Pass.turnsLeft pool p i = 0) : pool.isComplete = true := by
  have hlt : ∀ i, i ∈ pool.queued ++ (pool.running ++ pool.ended) → i < tasks.length :=
    fun i hi => List.mem_range.mp (h.places.mem_iff.mp hi)
  have hqueued : pool.queued = [] := by
    refine List.eq_nil_iff_forall_not_mem.mpr fun i hi => ?_
    have hleft := hnone i (hlt i (List.mem_append_left _ hi))
    rw [Pass.turnsLeft, if_pos hi] at hleft
    omega
  have hrunning : pool.running = [] := by
    refine List.eq_nil_iff_forall_not_mem.mpr fun i hi => ?_
    have hleft := hnone i (hlt i (List.mem_append_right _ (List.mem_append_left _ hi)))
    rw [Pass.turnsLeft, if_neg (by simp [hqueued]), if_pos hi] at hleft
    omega
  have hlength := h.places.length_eq
  simp only [hqueued, hrunning, List.length_append, List.length_range, List.length_nil] at hlength
  rw [Pool.isComplete, decide_eq_true_iff, h.dispatched, h.completed]
  omega

/-! ### Events -/

namespace Decoder

/-- Those who hear lines turn at most the gate. -/
theorem exists_hear (dec : Decoder) (w : World) (heard : List Nat) :
    (∃ paused, (dec.hear w heard).1 = { dec with pool := { dec.pool with paused } }) ∧
      (dec.hear w heard).2.tree = w.tree := by
  induction heard generalizing dec w with
  | nil => exact ⟨⟨dec.pool.paused, rfl⟩, rfl⟩
  | cons _ heard ih =>
      obtain ⟨⟨paused, hdec⟩, htree⟩ := ih (dec.hearLine w).1 (dec.hearLine w).2
      exact ⟨⟨paused, hdec⟩, htree⟩

end Decoder

namespace Underway

variable {u : Underway} {e : Event} {events : List Event}

/-- All that an event can come to: a turn of a worker, or at most a turn of the gate. -/
inductive Stepped (d : Decompiler) (dir : String) (u : Underway) : Event → Underway → Prop
  | worked (i : Nat) {pool : Pool Nat} {pass : Pass}
      (hturn : Turn d dir u.decoder.pool u.pass i (pool, pass)) :
      Stepped d dir u (.work i) { u with decoder := { u.decoder with pool }, pass }
  | turned {e : Event} (paused : Bool) {world : World} (he : ∀ i, e ≠ .work i)
      (htree : world.tree = u.world.tree) :
      Stepped d dir u e
        { u with decoder := { u.decoder with pool := { u.decoder.pool with paused } }, world }

theorem stepped (d : Decompiler) (dir : String) (u : Underway) (e : Event) :
    Stepped d dir u e (u.step d dir e) := by
  cases e with
  | work i => exact .worked i (turn_cases d dir u.decoder.pool u.pass i)
  | gate turn =>
      obtain ⟨paused, hpool⟩ := u.decoder.pool.exists_turn turn
      rw [step, Decoder.turnGate, hpool]
      exact .turned paused (by simp) rfl
  | line text =>
      obtain ⟨⟨paused, hdec⟩, htree⟩ := Decoder.exists_hear u.decoder
        { u.world with input := (u.world.input.feed text).1 } (u.world.input.feed text).2.heard
      rw [step, Decoder.hearInput]
      dsimp only
      rw [hdec]
      exact .turned paused (by simp) htree

/-- The strands that move on in an event. -/
def moves (u : Underway) : Event → List Nat
  | .work i => if i ∉ u.decoder.pool.queued ∧ i ∈ u.decoder.pool.running then [i] else []
  | _ => []

/-- The order in which strands move on while things happen. -/
def order (d : Decompiler) (dir : String) (u : Underway) : List Event → List Nat
  | [] => []
  | e :: events => u.moves e ++ (u.step d dir e).order d dir events

theorem run_cons (e : Event) (events : List Event) :
    u.run d dir (e :: events) = (u.step d dir e).run d dir events := rfl

theorem run_append (u : Underway) (events more : List Event) :
    u.run d dir (events ++ more) = (u.run d dir events).run d dir more :=
  List.foldl_append

/-- What an event does to the strands. -/
theorem pass_step (u : Underway) (e : Event) :
    (u.step d dir e).pass = u.pass.run d dir (u.moves e) := by
  have hstepped := stepped d dir u e
  generalize u.step d dir e = u' at hstepped ⊢
  cases hstepped with
  | worked i hturn =>
      rw [moves]
      cases hturn with
      | passed hqueued => rw [if_neg (by simp [hqueued])]; rfl
      | held hqueued => rw [if_neg (by simp [hqueued])]; rfl
      | moved x hqueued hrunning hnext =>
          rw [if_pos ⟨hqueued, hrunning⟩]
          exact (Pass.step_of_next?_some hnext).symm
      | ended hqueued hrunning hnext =>
          rw [if_pos ⟨hqueued, hrunning⟩]
          exact (Pass.step_of_next?_none hnext).symm
      | missed _ hrunning => rw [if_neg (by simp [hrunning])]; rfl
  | turned paused he =>
      cases e with
      | work i => exact absurd rfl (he i)
      | gate turn => rfl
      | line text => rfl

theorem pass_run (u : Underway) (events : List Event) :
    (u.run d dir events).pass = u.pass.run d dir (u.order d dir events) := by
  induction events generalizing u with
  | nil => rfl
  | cons e events ih =>
      rw [run_cons, ih, pass_step, order, Pass.run, Pass.run, Pass.run, List.foldl_append]

/-- What all events leave as it is. -/
structure Kept (u u' : Underway) : Prop where
  job : u'.decoder.job = u.decoder.job
  pauseSupport : u'.decoder.pool.pauseSupport = u.decoder.pool.pauseSupport
  dispatched : u'.decoder.pool.dispatched = u.decoder.pool.dispatched
  tree : u'.world.tree = u.world.tree

theorem kept_step (u : Underway) (e : Event) : u.Kept (u.step d dir e) := by
  have hstepped := stepped d dir u e
  generalize u.step d dir e = u' at hstepped ⊢
  cases hstepped with
  | worked i hturn => cases hturn <;> exact ⟨rfl, rfl, rfl, rfl⟩
  | turned paused he htree => exact ⟨rfl, rfl, rfl, htree⟩

theorem kept_run (u : Underway) (events : List Event) : u.Kept (u.run d dir events) := by
  induction events generalizing u with
  | nil => exact ⟨rfl, rfl, rfl, rfl⟩
  | cons e events ih =>
      have hfirst : u.Kept (u.step d dir e) := kept_step u e
      have hrest := ih (u.step d dir e)
      exact ⟨hrest.job.trans hfirst.job, hrest.pauseSupport.trans hfirst.pauseSupport,
        hrest.dispatched.trans hfirst.dispatched, hrest.tree.trans hfirst.tree⟩

theorem awaited_step (h : Awaited tasks u.decoder.pool u.pass) (e : Event) :
    Awaited tasks (u.step d dir e).decoder.pool (u.step d dir e).pass := by
  have hstepped := stepped d dir u e
  generalize u.step d dir e = u' at hstepped ⊢
  cases hstepped with
  | worked i hturn => exact h.turn hturn
  | turned paused => exact h.gate paused

theorem awaited_run (h : Awaited tasks u.decoder.pool u.pass) (events : List Event) :
    Awaited tasks (u.run d dir events).decoder.pool (u.run d dir events).pass := by
  induction events generalizing u with
  | nil => exact h
  | cons e events ih => exact ih (awaited_step h e)

/-- Turns of workers leave an open gate open, and bring their tasks nearer to their ends. -/
theorem run_work (h : Awaited tasks u.decoder.pool u.pass) (hopen : u.decoder.pool.isOpen = true)
    (turns : List Nat) (i : Nat) :
    (u.run d dir (turns.map .work)).decoder.pool.isOpen = true ∧
      Pass.turnsLeft (u.run d dir (turns.map .work)).decoder.pool
        (u.run d dir (turns.map .work)).pass i ≤
          Pass.turnsLeft u.decoder.pool u.pass i - turns.count i := by
  induction turns generalizing u with
  | nil => exact ⟨hopen, Nat.le_refl _⟩
  | cons j turns ih =>
      have hturn := turn_cases d dir u.decoder.pool u.pass j
      have hopen' : (u.step d dir (.work j)).decoder.pool.isOpen = true :=
        (isOpen_of_turn hturn).trans hopen
      have hfirst := h.turnsLeft_le hopen hturn i
      obtain ⟨hgate, hle⟩ := ih (awaited_step h (.work j)) hopen'
      rw [List.map_cons, run_cons]
      refine ⟨hgate, Nat.le_trans hle ?_⟩
      change Pass.turnsLeft (u.step d dir (.work j)).decoder.pool (u.step d dir (.work j)).pass i ≤
        _ at hfirst
      by_cases hj : j = i
      · rw [if_pos hj] at hfirst
        rw [hj, List.count_cons_self]
        rw [hj] at hfirst
        omega
      · rw [if_neg hj] at hfirst
        rw [List.count_cons_of_ne hj]
        omega

/-- The last turns are turns of workers, and enough of them for each task. -/
theorem exists_lastTurns (tasks : List Task) : ∃ turns : List Nat,
    lastTurns tasks = turns.map .work ∧
      ∀ (i : Nat) (task : Task), tasks[i]? = some task → task.length + 2 ≤ turns.count i := by
  refine ⟨_, rfl, fun i task htask => ?_⟩
  have hmem : (task, i) ∈ tasks.zipIdx := List.mem_zipIdx_iff_getElem?.mpr htask
  rw [List.flatMap_def]
  refine Nat.le_trans (Nat.le_of_eq List.count_replicate_self.symm) (List.Sublist.count_le i ?_)
  exact List.sublist_flatten_of_mem (List.mem_map.mpr ⟨(task, i), hmem, rfl⟩)

/-- Where the gate is open, the last turns bring all tasks to their ends. -/
theorem complete_of_open (h : Awaited tasks u.decoder.pool u.pass)
    (hopen : u.decoder.pool.isOpen = true) :
    (u.run d dir (lastTurns tasks)).decoder.pool.isComplete = true := by
  refine (awaited_run h _).isComplete_of_turnsLeft fun i hi => ?_
  have htask := List.getElem?_eq_getElem hi
  have hleft := h.turnsLeft_le_length htask
  obtain ⟨turns, hturns, henough⟩ := exists_lastTurns tasks
  have hcount := henough i _ htask
  have hle : Pass.turnsLeft (u.run d dir (turns.map .work)).decoder.pool
      (u.run d dir (turns.map .work)).pass i ≤ _ := (run_work h hopen turns i).2
  rw [hturns]
  omega

/-- The gate stays as it is while only workers take turns. -/
theorem isOpen_lastTurns (u : Underway) :
    (u.run d dir (lastTurns tasks)).decoder.pool.isOpen = u.decoder.pool.isOpen := by
  obtain ⟨turns, hturns, -⟩ := exists_lastTurns tasks
  rw [hturns]
  clear hturns
  induction turns generalizing u with
  | nil => rfl
  | cons j turns ih =>
      rw [List.map_cons, run_cons, ih]
      exact isOpen_of_turn (turn_cases d dir u.decoder.pool u.pass j)

end Underway

end ArchiveScout.Decode
