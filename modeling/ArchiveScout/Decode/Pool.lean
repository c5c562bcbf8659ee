/-!
# ArchiveScout.Decode.Pool

**A pool of workers with a gate.** Tasks are dispatched, pass the gate when a worker
takes them, and end; two counters say how many were dispatched and how many have
ended. A paused gate lets no further task pass, while those that have passed run on;
a pool without pause support does not look at its gate. Waiting polls the counters
until they agree, and then sets them to zero, one after the other.

Each operation is one step, but for a dispatch and a reset, which are two; and the steps
of the workers may come at any time, also between these two. `settle` takes all steps that
the workers can take.
-/

namespace ArchiveScout.Decode

/-- What becomes of a gate. -/
inductive GateTurn where
  | pause
  | resume
  | toggle
deriving DecidableEq, Repr

/-- A pool; `τ` are the tasks. -/
structure Pool (τ : Type) where
  pauseSupport : Bool
  paused : Bool := false
  dispatched : Nat := 0
  completed : Nat := 0
  /-- Tasks in front of the gate. -/
  queued : List τ := []
  /-- Tasks that have passed the gate. -/
  running : List τ := []
  /-- Tasks that have ended since the last completed wait, in the order of their ends. -/
  ended : List τ := []
deriving DecidableEq, Repr

namespace Pool

variable {τ : Type}

/-- One more task is counted as dispatched. -/
def announce (p : Pool τ) : Pool τ := { p with dispatched := p.dispatched + 1 }

/-- A task is handed to the workers. -/
def spawn (p : Pool τ) (task : τ) : Pool τ := { p with queued := p.queued ++ [task] }

/-- A task is counted, and then handed to the workers. -/
def dispatch (p : Pool τ) (task : τ) : Pool τ := p.announce.spawn task

/-- Whether tasks may pass the gate. -/
def isOpen (p : Pool τ) : Bool := !(p.pauseSupport && p.paused)

/-- A worker takes the task at a place of the queue through the gate. -/
def pass? (p : Pool τ) (i : Nat) : Option (Pool τ) :=
  if !p.isOpen then none
  else p.queued[i]?.map fun task =>
    { p with queued := p.queued.eraseIdx i, running := p.running ++ [task] }

/-- The task at a place of those that run ends, in whatever way. -/
def finish? (p : Pool τ) (i : Nat) : Option (Pool τ) :=
  p.running[i]?.map fun task =>
    { p with
      running := p.running.eraseIdx i
      ended := p.ended ++ [task]
      completed := p.completed + 1 }

/-- Whether tasks were dispatched since the last completed wait. -/
def hasPending (p : Pool τ) : Bool := 0 < p.dispatched

/-- What a poll of the counters shows: how many tasks have ended, of how many. -/
def progress (p : Pool τ) : Nat × Nat := (p.completed, p.dispatched)

/-- Whether a wait completes at this poll. -/
def isComplete (p : Pool τ) : Bool := p.dispatched ≤ p.completed

/-- The first thing that a completed wait sets back. -/
def clearDispatched (p : Pool τ) : Pool τ := { p with dispatched := 0 }

/-- The second thing that a completed wait sets back. -/
def clearCompleted (p : Pool τ) : Pool τ := { p with completed := 0, ended := [] }

/-- The counters after a completed wait. -/
def reset (p : Pool τ) : Pool τ := p.clearDispatched.clearCompleted

/-- Pauses; without pause support nothing happens. -/
def pause (p : Pool τ) : Pool τ := if p.pauseSupport then { p with paused := true } else p

/-- Resumes. -/
def resume (p : Pool τ) : Pool τ := { p with paused := false }

/-- Turns the gate the other way, also without pause support. -/
def toggle (p : Pool τ) : Pool τ := { p with paused := !p.paused }

/-- Whoever holds the gate turns it, also without pause support. -/
def turn (p : Pool τ) : GateTurn → Pool τ
  | .pause => { p with paused := true }
  | .resume => p.resume
  | .toggle => p.toggle

/-- All tasks that can run have run, in the order in which they were dispatched. -/
def settle (p : Pool τ) : Pool τ :=
  let passing := if p.isOpen then p.queued else []
  { p with
    queued := if p.isOpen then [] else p.queued
    running := []
    ended := p.ended ++ p.running ++ passing
    completed := p.completed + p.running.length + passing.length }

/-- Waits for all tasks: the last progress, the tasks in the order of their ends, and
the pool after it; `none` when the wait does not come to an end. -/
def wait? (p : Pool τ) : Option ((Nat × Nat) × List τ × Pool τ) :=
  let p := p.settle
  if p.isComplete then some (p.progress, p.ended, p.reset) else none

end Pool

end ArchiveScout.Decode
