import ArchiveScout.Decode.Pool
import Mathlib.Data.List.Nodup
import Mathlib.Data.List.Perm.Subperm

/-!
# ArchiveScout.Proofs.Decode.Barrier

**Waiting for a pool is a barrier.** A `Session` is a pool in the hands of one controlling thread,
which dispatches tasks and waits for them, batch after batch, while workers take tasks through the
gate, bring them to their ends and count them, and while anybody turns the gate. All of these are
events, and they come in any order in which each is possible; there may be any number of workers.
A dispatch counts its task before the workers have it, a poll reads the two counters one after the
other, and behind the last poll they are set back one after the other; each of these is an event of
its own.

What every event preserves is in `Session.Sound`: every task that was given is queued or has begun,
every one that has begun still runs or has been counted, and only tasks that are over are counted.
The counters go together except between the two stores of the reset, where nothing is dispatched any
more and all tasks of the batch are still counted; in the middle of a dispatch one of them is ahead.
-/

namespace ArchiveScout.Decode.Pool

/-- How a task ends. -/
inductive Ending where
  | returned
  | panicked
deriving DecidableEq, Repr

/-- What the controlling thread does. -/
inductive Control where
  /-- It is not in a wait. -/
  | dispatching
  /-- It has counted a task as dispatched, and is about to hand it to the workers. -/
  | announced
  /-- It waits, and is about to poll. -/
  | polling
  /-- It is in a poll and has read how many tasks were dispatched. -/
  | counted (total : Nat)
  /-- Its last poll has shown that all tasks have ended. -/
  | complete
  /-- It has set back how many tasks were dispatched, and is about to set back how many have
  ended. -/
  | cleared
deriving DecidableEq, Repr

/-- How many tasks are counted as dispatched that the workers have not been given. -/
def Control.ahead : Control → Nat
  | .announced => 1
  | _ => 0

/-- Whether it is in a wait. -/
def Control.waits : Control → Bool
  | .dispatching | .announced => false
  | _ => true

/-- Whether a wait has polls before it. -/
def Control.isPolling : Control → Bool
  | .polling | .counted _ => true
  | _ => false

/-- Whether a wait has its last poll behind it. -/
def Control.isOver : Control → Bool
  | .complete | .cleared => true
  | _ => false

/-- A pool in use. Tasks are numbers in the order in which they are given to the pool. -/
structure Session where
  pool : Pool Nat
  control : Control := .dispatching
  /-- How many tasks were given to the pool, in all batches. -/
  given : Nat := 0
  /-- The tasks that have passed the gate. -/
  begun : List Nat := []
  /-- The tasks that have come to their ends. -/
  stopped : List (Nat × Ending) := []
  /-- What the polls of the last wait have shown. -/
  shown : List (Nat × Nat) := []
deriving DecidableEq, Repr

/-- What can happen next. -/
inductive Event where
  /-- The controlling thread counts a task as dispatched. -/
  | announce
  /-- The controlling thread hands the task to the workers. -/
  | spawn
  /-- The controlling thread starts to wait. -/
  | await
  /-- A worker takes the task at a place of the queue through the gate. -/
  | pass (i : Nat)
  /-- A task that runs ends. -/
  | stop (task : Nat) (ending : Ending)
  /-- The worker of the task at a place of those that run counts it. -/
  | count (i : Nat)
  /-- The controlling thread reads how many tasks were dispatched. -/
  | readTotal
  /-- The controlling thread reads how many tasks have ended, and shows it. -/
  | readCompleted
  /-- The controlling thread sets back how many tasks were dispatched. -/
  | clearDispatched
  /-- The controlling thread sets back how many tasks have ended, and returns from the wait. -/
  | clearCompleted
  | pause
  | resume
  | toggle
deriving DecidableEq, Repr

namespace Session

/-- A pool that has not been used. -/
def new (pauseSupport : Bool) : Session := { pool := { pauseSupport } }

/-- The tasks that have come to their ends. -/
def finished (s : Session) : List Nat := s.stopped.map Prod.fst

/-- The controlling thread shows what it has read, and polls again unless that is all. -/
def poll (s : Session) (total : Nat) : Session :=
  { s with
    shown := s.shown ++ [(s.pool.completed, total)]
    control := if total ≤ s.pool.completed then .complete else .polling }

/-- What an event does; `none` where it is not possible. -/
def step? (s : Session) : Event → Option Session
  | .announce =>
      if s.control = .dispatching then
        some { s with control := .announced, pool := s.pool.announce }
      else none
  | .spawn =>
      if s.control = .announced then
        some { s with
          control := .dispatching, pool := s.pool.spawn s.given, given := s.given + 1 }
      else none
  | .await =>
      if s.control = .dispatching then some { s with control := .polling, shown := [] } else none
  | .pass i =>
      match s.pool.queued[i]?, s.pool.pass? i with
      | some task, some pool => some { s with pool, begun := s.begun ++ [task] }
      | _, _ => none
  | .stop task ending =>
      if task ∈ s.pool.running ∧ task ∉ s.finished then
        some { s with stopped := s.stopped ++ [(task, ending)] }
      else none
  | .count i =>
      match s.pool.running[i]?, s.pool.finish? i with
      | some task, some pool => if task ∈ s.finished then some { s with pool } else none
      | _, _ => none
  | .readTotal =>
      if s.control = .polling then some { s with control := .counted s.pool.dispatched } else none
  | .readCompleted =>
      match s.control with
      | .counted total => some (s.poll total)
      | _ => none
  | .clearDispatched =>
      if s.control = .complete then
        some { s with control := .cleared, pool := s.pool.clearDispatched }
      else none
  | .clearCompleted =>
      if s.control = .cleared then
        some { s with control := .dispatching, pool := s.pool.clearCompleted }
      else none
  | .pause => some { s with pool := s.pool.pause }
  | .resume => some { s with pool := s.pool.resume }
  | .toggle => some { s with pool := s.pool.toggle }

/-- What events do one after another. -/
def run? (s : Session) : List Event → Option Session
  | [] => some s
  | event :: events => (s.step? event).bind (·.run? events)

end Session

/-- Polls of a wait that was not complete yet, with so many tasks to wait for: what they show never
goes back, and the number of tasks stays the same. -/
structure Polls (total : Nat) (shown : List (Nat × Nat)) : Prop where
  constant : ∀ seen ∈ shown, seen.2 = total
  behind : ∀ seen ∈ shown, seen.1 < total
  sorted : shown.Pairwise fun seen seen' => seen.1 ≤ seen'.1

/-- One poll more that shows less than all, and no less than the polls before. -/
theorem Polls.concat {total completed : Nat} {shown : List (Nat × Nat)} (h : Polls total shown)
    (hseen : ∀ seen ∈ shown, seen.1 ≤ completed) (hless : completed < total) :
    Polls total (shown ++ [(completed, total)]) := by
  refine ⟨?_, ?_, ?_⟩
  · intro seen hmem
    rcases List.mem_append.mp hmem with hmem | hmem
    · exact h.constant seen hmem
    · rw [List.mem_singleton.mp hmem]
  · intro seen hmem
    rcases List.mem_append.mp hmem with hmem | hmem
    · exact h.behind seen hmem
    · rw [List.mem_singleton.mp hmem]
      exact hless
  · refine List.pairwise_append.mpr ⟨h.sorted, List.pairwise_singleton _ _, ?_⟩
    intro seen hmem last hlast
    rw [List.mem_singleton.mp hlast]
    exact hseen seen hmem

namespace Session

variable {s s' : Session} {event : Event} {support : Bool} {first i task total : Nat}
  {ending : Ending} {events : List Event}

/-! ### What an event does -/

theorem pass_eq_some (h : s.step? (.pass i) = some s') : s.pool.isOpen = true ∧
    ∃ task, s.pool.queued[i]? = some task ∧ s' = { s with
      pool := { s.pool with
        queued := s.pool.queued.eraseIdx i, running := s.pool.running ++ [task] }
      begun := s.begun ++ [task] } := by
  simp only [step?, Pool.pass?] at h
  cases hopen : s.pool.isOpen with
  | false => simp [hopen] at h
  | true =>
      cases htask : s.pool.queued[i]? with
      | none => simp [htask] at h
      | some task =>
          simp only [hopen, htask, Bool.not_true, Bool.false_eq_true, if_false,
            Option.map_some, Option.some.injEq] at h
          exact ⟨rfl, task, rfl, h.symm⟩

theorem count_eq_some (h : s.step? (.count i) = some s') :
    ∃ task, s.pool.running[i]? = some task ∧ task ∈ s.finished ∧ s' = { s with
      pool := { s.pool with
        running := s.pool.running.eraseIdx i, ended := s.pool.ended ++ [task]
        completed := s.pool.completed + 1 } } := by
  simp only [step?, Pool.finish?] at h
  cases htask : s.pool.running[i]? with
  | none => simp [htask] at h
  | some task =>
      simp only [htask, Option.map_some, Option.ite_none_right_eq_some] at h
      exact ⟨task, rfl, h.1, (Option.some.inj h.2).symm⟩

theorem readCompleted_eq_some (h : s.step? .readCompleted = some s') :
    ∃ total, s.control = .counted total ∧ s' = s.poll total := by
  simp only [step?] at h
  cases hcontrol : s.control with
  | counted total =>
      rw [hcontrol] at h
      exact ⟨total, rfl, (Option.some.inj h).symm⟩
  | _ => simp [hcontrol] at h

/-! ### What holds between events -/

/-- What holds between any two events, where `first` tasks were given before the
current batch. -/
structure Sound (s : Session) (support : Bool) (first : Nat) : Prop where
  support : s.pool.pauseSupport = support
  waiting : (s.pool.queued ++ s.begun).Perm (List.range s.given)
  passed : (s.pool.running ++ (List.range first ++ s.pool.ended)).Perm s.begun
  completed : s.pool.completed = s.pool.ended.length
  finished_nodup : s.finished.Nodup
  finished_begun : s.finished ⊆ s.begun
  counted : List.range first ++ s.pool.ended ⊆ s.finished
  given : s.control ≠ .cleared → first + s.pool.dispatched = s.given + s.control.ahead
  cleared : s.control = .cleared → s.pool.dispatched = 0
  total : ∀ total, s.control = .counted total → total = s.pool.dispatched
  polls : s.control.isPolling = true → Polls s.pool.dispatched s.shown
  seen : s.control.isPolling = true → ∀ seen ∈ s.shown, seen.1 ≤ s.pool.completed
  /-- Behind the last poll there is nothing that a worker could do. -/
  idle : s.control.isOver = true → s.pool.queued = [] ∧ s.pool.running = []
  last : s.control.isOver = true → ∃ polls,
    s.shown = polls ++ [(s.pool.completed, s.pool.completed)] ∧ Polls s.pool.completed polls

theorem sound_new (pauseSupport : Bool) : (new pauseSupport).Sound pauseSupport 0 := by
  constructor <;> simp [new, finished, Control.ahead, Control.isPolling, Control.isOver]

/-- An entry of a list is moved to the end of another one. -/
theorem perm_moved {xs : List Nat} (htask : xs[i]? = some task) (ys : List Nat) :
    (xs.eraseIdx i ++ (ys ++ [task])).Perm (xs ++ ys) := by
  obtain ⟨hi, rfl⟩ := List.getElem?_eq_some_iff.mp htask
  calc (xs.eraseIdx i ++ (ys ++ [xs[i]])).Perm (xs.eraseIdx i ++ xs[i] :: ys) :=
        List.Perm.append_left _ (List.perm_append_singleton xs[i] ys)
    _ |>.Perm (xs[i] :: xs.eraseIdx i ++ ys) := List.perm_middle
    _ |>.Perm (xs ++ ys) := (List.getElem_cons_eraseIdx_perm hi).append_right ys

namespace Sound

/-- All tasks of the batch are about to be queued, are queued, run or have ended. -/
theorem dispatched_eq (h : s.Sound support first) (hcontrol : s.control ≠ .cleared) :
    s.pool.dispatched = s.control.ahead + s.pool.queued.length + s.pool.running.length +
      s.pool.completed := by
  have hwaiting := h.waiting.length_eq
  have hpassed := h.passed.length_eq
  have hgiven := h.given hcontrol
  simp only [List.length_append, List.length_range] at hwaiting hpassed
  rw [h.completed]
  omega

/-- Outside of a dispatch, no task is counted that the workers have not been given. -/
theorem given_eq (h : s.Sound support first) (hcontrol : s.control ≠ .cleared)
    (hahead : s.control.ahead = 0) : first + s.pool.dispatched = s.given := by
  rw [h.given hcontrol, hahead, Nat.add_zero]

theorem begun_nodup (h : s.Sound support first) : s.begun.Nodup :=
  (List.nodup_append.mp (h.waiting.nodup_iff.mpr List.nodup_range)).2.1

theorem not_isOver_of_queued (h : s.Sound support first) (htask : s.pool.queued[i]? = some task) :
    s.control.isOver ≠ true := by
  intro hover
  rw [(h.idle hover).1] at htask
  exact absurd htask (by simp)

theorem not_isOver_of_running (h : s.Sound support first) (htask : task ∈ s.pool.running) :
    s.control.isOver ≠ true := by
  intro hover
  rw [(h.idle hover).2] at htask
  exact absurd htask List.not_mem_nil

theorem announce (h : s.Sound support first) (hcontrol : s.control = .dispatching) :
    Sound { s with control := .announced, pool := s.pool.announce } support first := by
  have hgiven := h.given_eq (by simp [hcontrol]) (by rw [hcontrol]; rfl)
  refine { h with
    given := fun _ => ?given, cleared := ?cleared, total := ?counts, polls := ?polls
    seen := ?seen, idle := ?idle, last := ?last }
  case given =>
    show first + (s.pool.dispatched + 1) = s.given + 1
    omega
  all_goals simp [Control.isPolling, Control.isOver]

theorem spawn (h : s.Sound support first) (hcontrol : s.control = .announced) :
    Sound { s with
      control := .dispatching, pool := s.pool.spawn s.given, given := s.given + 1 }
      support first := by
  have hgiven : first + s.pool.dispatched = s.given + 1 := by
    simpa [hcontrol, Control.ahead] using h.given (by simp [hcontrol])
  refine { h with
    waiting := ?waiting, given := fun _ => hgiven, cleared := ?cleared, total := ?counts
    polls := ?polls, seen := ?seen, idle := ?idle, last := ?last }
  case waiting =>
    show ((s.pool.queued ++ [s.given]) ++ s.begun).Perm (List.range (s.given + 1))
    rw [List.range_succ, List.append_assoc]
    refine (List.Perm.append_left _ List.perm_append_comm).trans ?_
    rw [← List.append_assoc]
    exact h.waiting.append_right _
  all_goals simp [Control.isPolling, Control.isOver]

theorem await (h : s.Sound support first) (hcontrol : s.control = .dispatching) :
    Sound { s with control := .polling, shown := [] } support first := by
  have hgiven := h.given_eq (by simp [hcontrol]) (by rw [hcontrol]; rfl)
  refine { h with
    given := fun _ => hgiven, cleared := ?_, total := ?_
    polls := fun _ => ⟨by simp, by simp, List.Pairwise.nil⟩, seen := ?_, idle := ?_, last := ?_ }
  all_goals simp [Control.isOver]

theorem pass (h : s.Sound support first) (htask : s.pool.queued[i]? = some task) :
    Sound { s with
      pool := { s.pool with
        queued := s.pool.queued.eraseIdx i, running := s.pool.running ++ [task] }
      begun := s.begun ++ [task] } support first := by
  refine { h with waiting := ?_, passed := ?_, finished_begun := ?_, idle := ?_ }
  · exact (perm_moved htask s.begun).trans h.waiting
  · show (s.pool.running ++ [task] ++ (List.range first ++ s.pool.ended)).Perm (s.begun ++ [task])
    refine List.Perm.trans ?_ (h.passed.append_right [task])
    rw [List.append_assoc, List.append_assoc]
    exact List.Perm.append_left _ List.perm_append_comm
  · exact fun task htask => List.mem_append_left _ (h.finished_begun htask)
  · exact fun hover => absurd hover (h.not_isOver_of_queued htask)

theorem stop (h : s.Sound support first) (htask : task ∈ s.pool.running)
    (hnew : task ∉ s.finished) :
    Sound { s with stopped := s.stopped ++ [(task, ending)] } support first := by
  have hfinished : finished { s with stopped := s.stopped ++ [(task, ending)] } =
      s.finished ++ [task] := by
    simp [finished]
  have hbegun : task ∈ s.begun := h.passed.subset (List.mem_append_left _ htask)
  refine { h with finished_nodup := ?_, finished_begun := ?_, counted := ?_ }
  · rw [hfinished]
    exact h.finished_nodup.append (List.nodup_singleton task) (by simpa using hnew)
  · rw [hfinished]
    exact List.append_subset.mpr ⟨h.finished_begun, by simpa using hbegun⟩
  · rw [hfinished]
    exact fun other hother => List.mem_append_left _ (h.counted hother)

theorem count (h : s.Sound support first) (htask : s.pool.running[i]? = some task)
    (hstopped : task ∈ s.finished) :
    Sound { s with
      pool := { s.pool with
        running := s.pool.running.eraseIdx i, ended := s.pool.ended ++ [task]
        completed := s.pool.completed + 1 } } support first := by
  have hopen := h.not_isOver_of_running (List.mem_of_getElem? htask)
  refine { h with passed := ?_, completed := ?_, counted := ?_, seen := ?_, idle := ?_, last := ?_ }
  · have hmoved := perm_moved htask (List.range first ++ s.pool.ended)
    rw [List.append_assoc] at hmoved
    exact hmoved.trans h.passed
  · simp [h.completed]
  · show List.range first ++ (s.pool.ended ++ [task]) ⊆ s.finished
    rw [← List.append_assoc]
    exact List.append_subset.mpr ⟨h.counted, by simpa using hstopped⟩
  · intro hwait seen hseen
    have hle := h.seen hwait seen hseen
    show seen.1 ≤ s.pool.completed + 1
    omega
  · exact fun hover => absurd hover hopen
  · exact fun hover => absurd hover hopen

/-- The gate has no part in this. -/
theorem gate (h : s.Sound support first) (paused : Bool) :
    Sound { s with pool := { s.pool with paused } } support first :=
  { h with }

theorem readTotal (h : s.Sound support first) (hcontrol : s.control = .polling) :
    Sound { s with control := .counted s.pool.dispatched } support first := by
  have hwait : s.control.isPolling = true := by rw [hcontrol]; rfl
  have hgiven := h.given_eq (by simp [hcontrol]) (by rw [hcontrol]; rfl)
  refine { h with
    given := fun _ => hgiven, cleared := ?_
    total := fun total htotal => (Control.counted.inj htotal).symm
    polls := fun _ => h.polls hwait, seen := fun _ => h.seen hwait, idle := ?_, last := ?_ }
  all_goals simp [Control.isOver]

/-- At a poll that shows all, nothing is queued and nothing runs. -/
theorem idle_of_complete (h : s.Sound support first) (hcontrol : s.control = .counted total)
    (hcomplete : total ≤ s.pool.completed) :
    s.pool.queued = [] ∧ s.pool.running = [] ∧ s.pool.completed = total := by
  obtain rfl := h.total total hcontrol
  have hdispatched := h.dispatched_eq (by simp [hcontrol])
  refine ⟨List.eq_nil_of_length_eq_zero (by omega), List.eq_nil_of_length_eq_zero (by omega), ?_⟩
  omega

/-- A poll shows all and is the last one, or shows less and is followed by another one. -/
theorem poll (h : s.Sound support first) (hcontrol : s.control = .counted total) :
    (s.poll total).Sound support first := by
  have hwait : s.control.isPolling = true := by rw [hcontrol]; rfl
  have hgiven := h.given_eq (by simp [hcontrol]) (by rw [hcontrol]; rfl)
  have htotal := h.total total hcontrol
  have hpolls := h.polls hwait
  have hseen := h.seen hwait
  rw [Session.poll]
  by_cases hcomplete : total ≤ s.pool.completed
  · obtain ⟨hqueued, hrunning, hall⟩ := h.idle_of_complete hcontrol hcomplete
    rw [if_pos hcomplete]
    have hlast : s.shown ++ [(s.pool.completed, total)] =
        s.shown ++ [(s.pool.completed, s.pool.completed)] := by rw [hall]
    have hbefore : Polls s.pool.completed s.shown := by rwa [hall, htotal]
    refine { h with
      given := fun _ => ?_, cleared := ?_, total := ?_, polls := ?_, seen := ?_
      idle := fun _ => ⟨hqueued, hrunning⟩, last := fun _ => ⟨s.shown, hlast, hbefore⟩ }
    · exact hgiven
    all_goals simp [Control.isPolling]
  · rw [if_neg hcomplete]
    refine { h with
      given := fun _ => hgiven, cleared := ?cleared, total := ?counts, polls := fun _ => ?polls
      seen := fun _ => ?seen, idle := ?idle, last := ?last }
    case polls =>
      rw [htotal] at hcomplete ⊢
      exact hpolls.concat hseen (Nat.lt_of_not_le hcomplete)
    case seen =>
      intro seen hmem
      rcases List.mem_append.mp hmem with hmem | hmem
      · exact hseen seen hmem
      · obtain rfl := List.mem_singleton.mp hmem
        exact Nat.le_refl _
    all_goals simp [Control.isOver]

/-- Behind the last poll every task has begun, and is over. -/
theorem perm_of_isOver (h : s.Sound support first) (hover : s.control.isOver = true) :
    s.begun.Perm (List.range s.given) ∧ s.finished.Perm (List.range s.given) := by
  obtain ⟨hqueued, hrunning⟩ := h.idle hover
  have hbegun := h.waiting
  have hpassed := h.passed
  rw [hqueued, List.nil_append] at hbegun
  rw [hrunning, List.nil_append] at hpassed
  -- Nobody is over but those that have begun, and all of these were counted.
  have hsame : s.finished.Perm s.begun := by
    refine (List.perm_ext_iff_of_nodup h.finished_nodup h.begun_nodup).mpr fun task => ?_
    exact ⟨fun hmem => h.finished_begun hmem, fun hmem => h.counted (hpassed.mem_iff.mpr hmem)⟩
  exact ⟨hbegun, hsame.trans hbegun⟩

theorem clearDispatched (h : s.Sound support first) (hcontrol : s.control = .complete) :
    Sound { s with control := .cleared, pool := s.pool.clearDispatched } support first := by
  have hover : s.control.isOver = true := by rw [hcontrol]; rfl
  have hidle := h.idle hover
  have hlast := h.last hover
  refine { h with
    given := ?_, cleared := fun _ => rfl, total := ?_, polls := ?_, seen := ?_
    idle := fun _ => hidle, last := fun _ => hlast }
  all_goals simp [Control.isPolling]

/-- The next batch starts like the first one. -/
theorem clearCompleted (h : s.Sound support first) (hcontrol : s.control = .cleared) :
    Sound { s with control := .dispatching, pool := s.pool.clearCompleted } support s.given := by
  have hover : s.control.isOver = true := by rw [hcontrol]; rfl
  obtain ⟨-, hrunning⟩ := h.idle hover
  obtain ⟨hbegun, hfinished⟩ := h.perm_of_isOver hover
  have hdispatched := h.cleared hcontrol
  refine { h with
    passed := ?passed, completed := rfl, counted := ?counted, given := fun _ => ?given
    cleared := ?cleared, total := ?counts, polls := ?polls, seen := ?seen, idle := ?idle
    last := ?last }
  case passed =>
    show (s.pool.running ++ (List.range s.given ++ [])).Perm s.begun
    rw [hrunning, List.nil_append, List.append_nil]
    exact hbegun.symm
  case counted =>
    show List.range s.given ++ [] ⊆ s.finished
    rw [List.append_nil]
    exact hfinished.symm.subset
  case given =>
    show s.given + s.pool.dispatched = s.given
    rw [hdispatched, Nat.add_zero]
  all_goals simp [Control.isPolling, Control.isOver]

end Sound

/-! ### Runs -/

/-- Every event preserves what holds between events. -/
theorem sound_step (h : s.Sound support first) (hstep : s.step? event = some s') :
    ∃ first', s'.Sound support first' := by
  cases event with
  | announce =>
      obtain ⟨hcontrol, hsome⟩ := Option.ite_none_right_eq_some.mp hstep
      obtain rfl := Option.some.inj hsome
      exact ⟨first, h.announce hcontrol⟩
  | spawn =>
      obtain ⟨hcontrol, hsome⟩ := Option.ite_none_right_eq_some.mp hstep
      obtain rfl := Option.some.inj hsome
      exact ⟨first, h.spawn hcontrol⟩
  | await =>
      obtain ⟨hcontrol, hsome⟩ := Option.ite_none_right_eq_some.mp hstep
      obtain rfl := Option.some.inj hsome
      exact ⟨first, h.await hcontrol⟩
  | pass i =>
      obtain ⟨-, task, htask, rfl⟩ := pass_eq_some hstep
      exact ⟨first, h.pass htask⟩
  | stop task ending =>
      obtain ⟨⟨htask, hnew⟩, hsome⟩ := Option.ite_none_right_eq_some.mp hstep
      obtain rfl := Option.some.inj hsome
      exact ⟨first, h.stop htask hnew⟩
  | count i =>
      obtain ⟨task, htask, hstopped, rfl⟩ := count_eq_some hstep
      exact ⟨first, h.count htask hstopped⟩
  | readTotal =>
      obtain ⟨hcontrol, hsome⟩ := Option.ite_none_right_eq_some.mp hstep
      obtain rfl := Option.some.inj hsome
      exact ⟨first, h.readTotal hcontrol⟩
  | readCompleted =>
      obtain ⟨total, hcontrol, rfl⟩ := readCompleted_eq_some hstep
      exact ⟨first, h.poll hcontrol⟩
  | clearDispatched =>
      obtain ⟨hcontrol, hsome⟩ := Option.ite_none_right_eq_some.mp hstep
      obtain rfl := Option.some.inj hsome
      exact ⟨first, h.clearDispatched hcontrol⟩
  | clearCompleted =>
      obtain ⟨hcontrol, hsome⟩ := Option.ite_none_right_eq_some.mp hstep
      obtain rfl := Option.some.inj hsome
      exact ⟨s.given, h.clearCompleted hcontrol⟩
  | pause =>
      obtain rfl := Option.some.inj hstep
      rw [Pool.pause]
      split
      · exact ⟨first, h.gate true⟩
      · exact ⟨first, h⟩
  | resume =>
      obtain rfl := Option.some.inj hstep
      exact ⟨first, h.gate false⟩
  | toggle =>
      obtain rfl := Option.some.inj hstep
      exact ⟨first, h.gate !s.pool.paused⟩

theorem sound_run (h : s.Sound support first) (hrun : s.run? events = some s') :
    ∃ first', s'.Sound support first' := by
  induction events generalizing s first with
  | nil =>
      obtain rfl := Option.some.inj hrun
      exact ⟨first, h⟩
  | cons event events ih =>
      rw [run?, Option.bind_eq_some_iff] at hrun
      obtain ⟨next, hstep, hrest⟩ := hrun
      obtain ⟨first', hnext⟩ := sound_step h hstep
      exact ih hnext hrest

/-- There is no other way out of a wait. -/
theorem returns_by_clear (hstep : s.step? event = some s') (hwait : s.control.waits = true)
    (hreturn : s'.control.waits = false) : event = .clearCompleted := by
  cases event with
  | clearCompleted => rfl
  | readCompleted =>
      obtain ⟨total, -, rfl⟩ := readCompleted_eq_some hstep
      rw [poll] at hreturn
      dsimp only at hreturn
      split at hreturn <;> exact absurd hreturn (by simp [Control.waits])
  | pass i =>
      obtain ⟨-, task, -, rfl⟩ := pass_eq_some hstep
      exact absurd (hwait.symm.trans hreturn) (by simp)
  | count i =>
      obtain ⟨task, -, -, rfl⟩ := count_eq_some hstep
      exact absurd (hwait.symm.trans hreturn) (by simp)
  | pause | resume | toggle =>
      obtain rfl := Option.some.inj hstep
      exact absurd (hwait.symm.trans hreturn) (by simp)
  | announce | spawn | await | stop | readTotal | clearDispatched =>
      obtain ⟨hcontrol, hsome⟩ := Option.ite_none_right_eq_some.mp hstep
      obtain rfl := Option.some.inj hsome
      simp_all [Control.waits]

/-- What a wait has come to when it returns: its last poll and no earlier one has shown all of its
tasks, every task that was ever given has run to its end exactly once, and the pool is as new but
for its gate. -/
structure Returned (s : Session) (pauseSupport paused : Bool) : Prop where
  begun : s.begun.Perm (List.range s.given)
  finished : s.finished.Perm (List.range s.given)
  pool : s.pool = { pauseSupport, paused }
  shown : ∃ polls total, s.shown = polls ++ [(total, total)] ∧ Polls total polls

/-- A wait returns with the second store of its reset. -/
theorem returned_of_clear (h : s.Sound support first)
    (hstep : s.step? .clearCompleted = some s') : s'.Returned support s.pool.paused := by
  obtain ⟨hcontrol, hsome⟩ := Option.ite_none_right_eq_some.mp hstep
  obtain rfl := Option.some.inj hsome
  have hover : s.control.isOver = true := by rw [hcontrol]; rfl
  obtain ⟨hqueued, hrunning⟩ := h.idle hover
  obtain ⟨hbegun, hfinished⟩ := h.perm_of_isOver hover
  obtain ⟨polls, hshown, hpolls⟩ := h.last hover
  refine ⟨hbegun, hfinished, ?_, polls, _, hshown, hpolls⟩
  simp only [Pool.clearCompleted, hqueued, hrunning, h.support, h.cleared hcontrol]

/-- Whatever the workers and the controlling thread do, and whoever turns the gate: outside of the
reset at the end of a wait never have more tasks been counted than dispatched, and between its two
stores all tasks are over and nothing is dispatched; every task begins at most once and ends at most
once, after it has begun; with pause support no task begins while the gate is paused; what the polls
of a wait show never goes back and stays below the same total up to the last poll, which shows that
all are counted; and when a wait returns, every task that was given has run to its end exactly
once, and the pool is as new but for its gate. -/
theorem wait_is_exact_barrier (pauseSupport : Bool) (events : List Event) (s : Session)
    (hrun : (new pauseSupport).run? events = some s) :
    (s.control ≠ .cleared → s.pool.completed ≤ s.pool.dispatched) ∧
    (s.control = .cleared → s.pool.dispatched = 0 ∧ s.pool.queued = [] ∧ s.pool.running = [] ∧
      s.finished.Perm (List.range s.given)) ∧
    (s.begun.Nodup ∧ s.begun ⊆ List.range s.given ∧ s.finished.Nodup ∧ s.finished ⊆ s.begun) ∧
    (∀ i s', s.step? (.pass i) = some s' → pauseSupport = true → s.pool.paused = false) ∧
    (s.control.isPolling = true → ∃ total, Polls total s.shown) ∧
    (s.control.isOver = true → ∃ polls,
      s.shown = polls ++ [(s.pool.completed, s.pool.completed)] ∧ Polls s.pool.completed polls) ∧
    (∀ event s', s.step? event = some s' → s.control.waits = true → s'.control.waits = false →
      event = .clearCompleted ∧ s'.Returned pauseSupport s.pool.paused) := by
  obtain ⟨first, h⟩ := sound_run (sound_new pauseSupport) hrun
  refine ⟨?_, ?_, ⟨h.begun_nodup, ?_, h.finished_nodup, h.finished_begun⟩, ?_, ?_, h.last, ?_⟩
  · intro hcontrol
    have hdispatched := h.dispatched_eq hcontrol
    omega
  · intro hcontrol
    have hover : s.control.isOver = true := by rw [hcontrol]; rfl
    exact ⟨h.cleared hcontrol, (h.idle hover).1, (h.idle hover).2, (h.perm_of_isOver hover).2⟩
  · exact fun task htask => h.waiting.subset (List.mem_append_right _ htask)
  · intro i s' hstep hsupport
    obtain ⟨hopen, -⟩ := pass_eq_some hstep
    simpa [isOpen, h.support, hsupport] using hopen
  · exact fun hwait => ⟨_, h.polls hwait⟩
  · intro event s' hstep hwait hreturn
    obtain rfl := returns_by_clear hstep hwait hreturn
    exact ⟨rfl, returned_of_clear h hstep⟩

/-- A batch of two tasks, of which one panics, while the gate is paused and resumed, and then a
batch of one task. -/
def twoBatches : List Event :=
  [.pause, .announce, .spawn, .announce, .toggle, .pass 0, .spawn, .await, .readTotal, .pass 0,
    .readCompleted, .stop 1 .panicked, .count 1, .pause, .readTotal, .readCompleted, .resume,
    .stop 0 .returned, .readTotal, .count 0, .readCompleted, .clearDispatched, .clearCompleted,
    .announce, .spawn, .pass 0, .await, .stop 2 .returned, .count 0, .readTotal, .readCompleted,
    .clearDispatched]

/-- What they come to, in the reset of the second wait. -/
def secondWait : Session where
  pool := { pauseSupport := true, completed := 1, ended := [2] }
  control := .cleared
  given := 3
  begun := [0, 1, 2]
  stopped := [(1, .panicked), (0, .returned), (2, .returned)]
  shown := [(1, 1)]

/-- The second wait returns with all three tasks over, and a pool as new. -/
theorem two_batches_are_waited_for :
    (new true).run? twoBatches = some secondWait ∧
      ∃ s', secondWait.step? .clearCompleted = some s' ∧ s'.finished.Perm [0, 1, 2] ∧
        s'.Returned true false := by
  have hrun : (new true).run? twoBatches = some secondWait := by decide +kernel
  obtain ⟨-, -, -, -, -, -, hreturn⟩ := wait_is_exact_barrier true twoBatches secondWait hrun
  obtain ⟨-, hreturned⟩ := hreturn .clearCompleted _ rfl (by decide) rfl
  exact ⟨hrun, _, rfl, hreturned.finished, hreturned⟩

/-- Between the two stores of its reset a wait has set back how many tasks were dispatched, but not
yet how many have ended. -/
theorem more_completed_than_dispatched :
    ∃ events s, (new true).run? events = some s ∧ ¬ s.pool.completed ≤ s.pool.dispatched :=
  ⟨twoBatches, secondWait, by decide +kernel, by decide⟩

/-! ### Waiting at once -/

theorem run?_append (s : Session) (events more : List Event) :
    s.run? (events ++ more) = (s.run? events).bind (·.run? more) := by
  induction events generalizing s with
  | nil => rfl
  | cons event events ih =>
      rw [List.cons_append, run?, run?, Option.bind_assoc]
      exact Option.bind_congr fun next _ => ih next

/-- All tasks in front of an open gate can pass it. -/
theorem exists_pass_all (s : Session) (hopen : s.pool.isOpen = true) : ∃ events begun,
    s.run? events = some { s with
      begun
      pool := { s.pool with queued := [], running := s.pool.running ++ s.pool.queued } } := by
  induction hqueued : s.pool.queued generalizing s with
  | nil =>
      refine ⟨[], s.begun, ?_⟩
      rw [run?, List.append_nil, ← hqueued]
  | cons task queued ih =>
      have hfirst : s.step? (.pass 0) = some { s with
          pool := { s.pool with queued := queued, running := s.pool.running ++ [task] }
          begun := s.begun ++ [task] } := by
        simp [step?, Pool.pass?, hopen, hqueued]
      obtain ⟨events, begun, hrest⟩ := ih { s with
        pool := { s.pool with queued := queued, running := s.pool.running ++ [task] }
        begun := s.begun ++ [task] } hopen rfl
      refine ⟨.pass 0 :: events, begun, ?_⟩
      rw [run?, hfirst, Option.bind_some, hrest, List.append_assoc, List.singleton_append]

/-- A task that runs can be counted at once, after it has ended if it has not yet. -/
theorem exists_count (s : Session) {running : List Nat}
    (hrunning : s.pool.running = task :: running) : ∃ events stopped,
    s.run? events = some { s with
      stopped, pool := { s.pool with
        running := running, ended := s.pool.ended ++ [task]
        completed := s.pool.completed + 1 } } := by
  by_cases hstopped : task ∈ s.finished
  · refine ⟨[.count 0], s.stopped, ?_⟩
    simp [run?, step?, Pool.finish?, hrunning, hstopped]
  · refine ⟨[.stop task .returned, .count 0], s.stopped ++ [(task, .returned)], ?_⟩
    have hstop : s.step? (.stop task .returned) =
        some { s with stopped := s.stopped ++ [(task, .returned)] } := by
      simp [step?, hrunning, hstopped]
    rw [run?, hstop, Option.bind_some]
    simp [run?, step?, Pool.finish?, hrunning, finished]

/-- All tasks that run can end and be counted. -/
theorem exists_count_all (s : Session) : ∃ events stopped, s.run? events = some { s with
    stopped, pool := { s.pool with
      running := [], ended := s.pool.ended ++ s.pool.running
      completed := s.pool.completed + s.pool.running.length } } := by
  induction hrunning : s.pool.running generalizing s with
  | nil =>
      refine ⟨[], s.stopped, ?_⟩
      rw [run?, List.append_nil, List.length_nil, Nat.add_zero, ← hrunning]
  | cons task running ih =>
      obtain ⟨events, stopped, hfirst⟩ := s.exists_count hrunning
      obtain ⟨more, stopped', hrest⟩ := ih { s with
        stopped, pool := { s.pool with
          running := running, ended := s.pool.ended ++ [task]
          completed := s.pool.completed + 1 } } rfl
      refine ⟨events ++ more, stopped', ?_⟩
      rw [run?_append, hfirst, Option.bind_some, hrest, List.append_assoc, List.singleton_append,
        List.length_cons, Nat.add_assoc, Nat.add_comm 1]

/-- All steps that the workers can take are taken in a run. -/
theorem exists_settle (s : Session) : ∃ events begun stopped,
    s.run? events = some { s with begun, stopped, pool := s.pool.settle } := by
  cases hopen : s.pool.isOpen with
  | false =>
      obtain ⟨events, stopped, hrun⟩ := s.exists_count_all
      refine ⟨events, s.begun, stopped, ?_⟩
      rw [hrun]
      simp [settle, hopen]
  | true =>
      obtain ⟨events, begun, hpass⟩ := s.exists_pass_all hopen
      obtain ⟨more, stopped, hcount⟩ := exists_count_all { s with
        begun, pool := { s.pool with queued := [], running := s.pool.running ++ s.pool.queued } }
      refine ⟨events ++ more, begun, stopped, ?_⟩
      rw [run?_append, hpass, Option.bind_some, hcount]
      simp [settle, hopen, Nat.add_assoc]

/-- What waiting comes to that is over at once is what a run comes to, with a single poll. -/
theorem wait?_is_run {progress : Nat × Nat} {ended : List Nat} {pool : Pool Nat}
    (hcontrol : s.control = .dispatching) (hwait : s.pool.wait? = some (progress, ended, pool)) :
    ∃ events s', s.run? (.await :: events) = some s' ∧ s'.control = .dispatching ∧
      s'.pool = pool ∧ s'.shown = [progress] := by
  obtain ⟨events, begun, stopped, hsettle⟩ :=
    exists_settle { s with control := .polling, shown := [] }
  rw [wait?] at hwait
  split at hwait
  · rename_i hcomplete
    obtain ⟨rfl, rfl, rfl⟩ := by simpa using hwait
    have hall : s.pool.settle.dispatched ≤ s.pool.settle.completed := by
      simpa [isComplete] using hcomplete
    have hpolls : run? { s with
          control := .polling, shown := [], begun, stopped, pool := s.pool.settle }
        [.readTotal, .readCompleted, .clearDispatched, .clearCompleted] = some { s with
          control := .dispatching, shown := [s.pool.settle.progress], begun, stopped
          pool := s.pool.settle.reset } := by
      simp [run?, step?, poll, hall, Pool.progress, Pool.reset]
    refine ⟨events ++ [.readTotal, .readCompleted, .clearDispatched, .clearCompleted], _,
      Eq.trans ?_ hpolls, rfl, rfl, rfl⟩
    rw [run?, step?, if_pos hcontrol, Option.bind_some, run?_append, hsettle, Option.bind_some]
  · exact absurd hwait (by simp)

end Session

end ArchiveScout.Decode.Pool
