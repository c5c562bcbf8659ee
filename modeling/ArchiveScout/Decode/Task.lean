import ArchiveScout.Decode.Decompiler
import ArchiveScout.Decode.FailureLog
import ArchiveScout.Decode.OutputPaths
import ArchiveScout.Decode.Selection

/-!
# ArchiveScout.Decode.Task

**The tasks of a decode pass.** A task writes the classes of one batch, or one
resource. It is a list of actions; each action is done as a whole, and between two of
them the actions of other tasks may come. All tasks share a workspace: the tree of
files, the output paths that have been handed out, and the number of failures.
-/

namespace ArchiveScout.Decode

open ArchiveScout.Archive (ClassEntry)
open ArchiveScout.File (Content Tree)

/-- What is to be decoded, and how. -/
structure Job where
  outputRoot : String
  sourceFilter : SourceFilter := .all
  resourceFilter : ResourceFilter := {}
  flatten : Bool := false
  renameClasses : Bool := true
  threads : Nat := 1
  pauseEnabled : Bool := false
  java : Bool := true
  smali : Bool := false
  resources : Bool := false
deriving DecidableEq, Repr

/-- What a job needs from an archive. -/
def Job.openOptions (job : Job) : OpenOptions :=
  { renameClasses := job.renameClasses
    includeSource := job.java || job.smali
    includeResources := job.resources }

/-- The kinds of text that a job wants of each class, in the order in which they are
written. -/
def Job.kinds (job : Job) : List Kind :=
  (if job.java then [.java] else []) ++ (if job.smali then [.smali] else [])

/-- A step of a task. -/
inductive Action where
  /-- Output paths are handed out for a class. -/
  | reserve (entry : ClassEntry)
  /-- A text of a class is written. -/
  | text (kind : Kind) (entry : ClassEntry)
  /-- The class is logged if one of its outputs failed. -/
  | settle (entry : ClassEntry)
  /-- A resource is saved, or logged. -/
  | resource (name : String)
deriving DecidableEq, Repr

/-- The actions for one class. -/
def classActions (job : Job) (entry : ClassEntry) : List Action :=
  .reserve entry :: (job.kinds.map (.text · entry) ++ [.settle entry])

/-- A task. -/
abbrev Task := List Action

/-- The task for the classes of a batch that are selected, if there are any. -/
def batchTask? (job : Job) (batch : List ClassEntry) : Option Task :=
  let eligible := batch.filter (isEligible job.sourceFilter)
  if eligible.isEmpty then none else some (eligible.flatMap (classActions job))

/-- The task for a resource, if it is selected. -/
def resourceTask? (job : Job) (name : String) : Option Task :=
  if job.resourceFilter.accepts name then some [.resource name] else none

/-- The tasks of a pass, in the order in which they are dispatched. -/
def tasksOf (job : Job) (d : Decompiler) : List Task :=
  d.batches.filterMap (batchTask? job) ++ d.resources.filterMap (resourceTask? job)

/-- What all tasks of a pass share. -/
structure Workspace where
  tree : Tree
  resolver : PathResolver
  failed : Nat := 0

/-- What a task keeps for the class that it is writing: the output paths, and whether
all went well so far. -/
structure Progress where
  paths : OutputPaths := ⟨"", ""⟩
  sound : Bool := true

/-- One line more in the log, and one failure more. -/
def Workspace.fail (w : Workspace) (dir line : String) : Workspace :=
  { w with tree := appendRecord dir w.tree line, failed := w.failed + 1 }

/-- A text of a class. -/
def Decompiler.text (d : Decompiler) : Kind → ClassEntry → Outcome String
  | .java => d.java
  | .smali => d.smali

/-- Writes the text that a request gave. `none` when the request panicked. -/
def writeText (w : Workspace) (p : Progress) (path : String) :
    Outcome String → Workspace × Option Progress
  | .panicked => (w, none)
  | .failed _ => (w, some { p with sound := false })
  | .done text =>
    match writeBelow w.tree path (Content.ofText text) "Failed to write" with
    | (tree, .done _) => ({ w with tree }, some p)
    | (tree, _) => ({ w with tree }, some { p with sound := false })

/-- Does one action. `none` when it panicked, which ends its task. -/
def Action.perform (d : Decompiler) (dir : String) (w : Workspace) (p : Progress) :
    Action → Workspace × Option Progress
  | .reserve entry =>
    let (paths, resolver) := w.resolver.resolve w.tree entry
    ({ w with resolver }, some { paths })
  | .text kind entry => writeText w p (p.paths.of kind) (d.text kind entry)
  | .settle entry =>
    if p.sound then (w, some p) else (w.fail dir (classRecord entry), some p)
  | .resource name =>
    match d.save name dir w.tree with
    | (tree, .done _) => ({ w with tree }, some p)
    | (tree, .failed _) => ({ w with tree }.fail dir (resourceRecord name), some p)
    | (tree, .panicked) => ({ w with tree }, none)

end ArchiveScout.Decode
