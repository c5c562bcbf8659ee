import ArchiveScout.Archive.Catalog
import ArchiveScout.Decode.Toolbox

/-!
# ArchiveScout.Decode.Decompiler

**What a decode pass asks of an opened archive**: its classes in batches, its
resources, the two texts of a class, and the saving of a resource. Each request ends
in one of three ways; a request that panics takes its task with it.

`openJar` opens archives of classes: every top-level class is a batch of its own, the
texts come from tools, and a resource is only saved under a name that stays inside the
output directory.
-/

namespace ArchiveScout.Decode

open ArchiveScout.Archive (ClassEntry ReadError catalog groupClasses readMember)
open ArchiveScout.File (Component Content Path.components Path.join Path.parent? Tree)

/-- How a request ends. -/
inductive Outcome (α : Type) where
  | done (value : α)
  /-- The request failed, for causes from the outermost to the innermost. -/
  | failed (causes : List String)
  | panicked
deriving DecidableEq, Repr

/-- The outcome of a request that does not panic. -/
def Outcome.ofExcept {ε α : Type} (chain : ε → List String) : Except ε α → Outcome α
  | .ok value => .done value
  | .error e => .failed (chain e)

/-- An opened archive. -/
structure Decompiler where
  batches : List (List ClassEntry)
  resources : List String
  java : ClassEntry → Outcome String
  smali : ClassEntry → Outcome String
  /-- Saves a resource below a directory and gives its path. What was made on the way
  stays when saving fails. -/
  save : (name dir : String) → Tree → Tree × Outcome String

/-- What a decode pass needs from an archive. -/
structure OpenOptions where
  renameClasses : Bool := false
  includeSource : Bool := false
  includeResources : Bool := false
deriving DecidableEq, Repr

/-- Writes a file after the directories that it is in. -/
def writeBelow (t : Tree) (path : String) (content : Content) (failure : String) :
    Tree × Outcome String :=
  let (t, fault) := match Path.parent? path with
    | some dir => match t.makeDirectories dir with
      | (t, some fault) => (t, some [s!"Failed to create directory: {dir}", fault.message])
      | (t, none) => (t, none)
    | none => (t, none)
  match fault with
  | some causes => (t, .failed causes)
  | none =>
    match t.write path content with
    | .ok t => (t, .done path)
    | .error fault => (t, .failed [s!"{failure}: {path}", fault.message])

/-- Whether every component of a path is an ordinary name. -/
def isContained (path : String) : Bool :=
  (Path.components path).all fun
    | .name _ => true
    | _ => false

/-- Saves a member of an archive below a directory. -/
def saveMember (archive name dir : String) (t : Tree) : Tree × Outcome String :=
  if !isContained name then
    (t, .failed [s!"Refusing to write resource outside output: {name}"])
  else match readMember t archive name with
    | .error e => (t, .failed e.chain)
    | .ok data => writeBelow t (Path.join dir name) (.bytes data) "Failed to write resource"

/-- The source text of a class; blank text counts as a failure. -/
def sourceText (tools : Toolbox) (cfr : Cfr) (archive : String) (entry : ClassEntry) :
    Except ToolError String := do
  let text ← tools.decompile cfr archive entry.fullName
  if Text.isAllBlank text then .error (.noOutput entry.fullName) else return text

/-- Opens an archive of classes. -/
def openJar (tools : Toolbox) (cfr : Cfr) (archive : String) (options : OpenOptions)
    (t : Tree) : Except ReadError Decompiler := do
  let listed ← catalog t archive
  let cfr := { cfr with rename := options.renameClasses }
  return {
    batches := if options.includeSource then (groupClasses listed.classes).map ([·]) else []
    resources := if options.includeResources then listed.resources else []
    java := fun entry => .ofExcept ToolError.chain (sourceText tools cfr archive entry)
    smali := fun entry =>
      .ofExcept ToolError.chain (tools.disassemble archive entry.fullName)
    save := saveMember archive }

end ArchiveScout.Decode
