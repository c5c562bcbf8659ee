import ArchiveScout.Decode.Pool
import ArchiveScout.Decode.Task

/-!
# ArchiveScout.Decode.Pass

**The tasks of a pass under way.** Every task is a strand: the actions it has left, and
what it keeps for the class that it is writing. The pool knows tasks by the numbers of
their strands. Workers take them through the gate, move them on one action at a time, and
count them when they have ended. However many workers there are, and whenever they are
held up, what they do are such turns one after another.
-/

namespace ArchiveScout.Decode

/-- A task under way. -/
structure Strand where
  todo : Task
  progress : Progress := {}

/-- The tasks under way, and what they share. -/
structure Pass where
  space : Workspace
  strands : List Strand

/-- An action that is done: by which strand, in which workspace, and what the strand has
left behind it. -/
structure Deed where
  place : Nat
  action : Action
  rest : Task
  before : Workspace
  progress : Progress

namespace Deed

/-- The workspace behind a deed. -/
def after (d : Decompiler) (dir : String) (x : Deed) : Workspace :=
  (x.action.perform d dir x.before x.progress).1

/-- What the strand keeps behind a deed; `none` when the action panicked. -/
def kept (d : Decompiler) (dir : String) (x : Deed) : Option Progress :=
  (x.action.perform d dir x.before x.progress).2

/-- The strand behind a deed. One that panicked has nothing left to do. -/
def strand (d : Decompiler) (dir : String) (x : Deed) : Strand :=
  match x.kept d dir with
  | some progress => ⟨x.rest, progress⟩
  | none => ⟨[], x.progress⟩

end Deed

namespace Pass

/-- The tasks before their first actions. -/
def start (space : Workspace) (tasks : List Task) : Pass :=
  { space, strands := tasks.map fun task => { todo := task } }

/-- What a strand does next. -/
def next? (p : Pass) (i : Nat) : Option Deed :=
  match p.strands[i]? with
  | some ⟨action :: rest, progress⟩ => some ⟨i, action, rest, p.space, progress⟩
  | _ => none

/-- The pass behind a deed. -/
def afterDeed (d : Decompiler) (dir : String) (p : Pass) (x : Deed) : Pass :=
  { space := x.after d dir, strands := p.strands.set x.place (x.strand d dir) }

/-- A worker turns to a task of a pool. In front of the gate the task passes it, if the
gate is open; behind the gate it moves on by an action, and ends when it has none left. A
task that has ended, or that is not there, lets its turn pass. -/
def turn (d : Decompiler) (dir : String) (pool : Pool Nat) (p : Pass) (i : Nat) :
    Pool Nat × Pass :=
  if i ∈ pool.queued then ((pool.pass? (pool.queued.idxOf i)).getD pool, p)
  else if i ∈ pool.running then
    match p.next? i with
    | some x => (pool, p.afterDeed d dir x)
    | none => ((pool.finish? (pool.running.idxOf i)).getD pool, p)
  else (pool, p)

end Pass

end ArchiveScout.Decode
