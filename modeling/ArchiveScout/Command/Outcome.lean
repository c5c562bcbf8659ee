import ArchiveScout.Command.Check
import ArchiveScout.Decode.Decoder
import ArchiveScout.File.Scan
import ArchiveScout.Text.Document

/-!
# ArchiveScout.Command.Outcome

**How a command ends.** A command that runs ends in an outcome, which can be written as
a document. Everything that ends it before is a `RunError`, which knows its circumstances
from the outermost to the cause.
-/

namespace ArchiveScout.Command

open ArchiveScout.Decode (Report)
open ArchiveScout.File (Fault)
open ArchiveScout.Query (QueryError)
open ArchiveScout.Search (SearchOutcome StateError)
open ArchiveScout.Text (Document)

/-- The result of a command. -/
inductive Outcome where
  | search (searches : List SearchOutcome) (generated : List Report)
  | decode (reports : List Report)
  | notImplemented (name : Name)
deriving DecidableEq, Repr

/-- A field for an error, if there is one. -/
def errorField (error : Option String) : List (String × Document) :=
  match error with
  | some text => [("error", .text text)]
  | none => []

/-- The result of searching an archive. -/
def searchDocument (o : SearchOutcome) : Document :=
  .record ([("file", .text o.file), ("results", .texts o.results)] ++ errorField o.error)

/-- The report of a decode pass. -/
def reportDocument (r : Report) : Document :=
  .record ([("archive", .text r.archive), ("output_dir", .optionalText r.outputDir),
    ("state", .text r.state.word), ("dispatched", .number r.dispatched),
    ("failed", .number r.failed)] ++ errorField r.error)

/-- An outcome as a document. -/
def Outcome.document : Outcome → Document
  | .search searches generated =>
    .record [("command", .text "search"), ("searches", .list (searches.map searchDocument)),
      ("generated", .list (generated.map reportDocument))]
  | .decode reports =>
    .record [("command", .text "decode"), ("reports", .list (reports.map reportDocument))]
  | .notImplemented name =>
    .record [("command", .text "not_implemented"), ("name", .text name.word),
      ("description", .text name.description)]

/-- Why there is no decompiler. -/
inductive CfrError where
  | noDataDirectory
  | creating (dir : String) (fault : Fault)
  | noDownloader
  | download
deriving DecidableEq, Repr

/-- The wording of an error, from the outermost circumstance to the cause. -/
def CfrError.chain : CfrError → List String
  | .noDataDirectory => ["Failed to resolve data directory"]
  | .creating dir fault => [s!"Failed to create directory: {dir}", fault.message]
  | .noDownloader =>
    ["Failed to execute curl (ensure curl is installed, or use --cfr to specify cfr.jar)",
      Fault.notFound.message]
  | .download => ["Failed to download CFR. You can use --cfr to specify local cfr.jar"]

/-- Why a command has no outcome. -/
inductive RunError where
  | usage (e : UsageError)
  | query (e : QueryError)
  | session (e : StateError)
  | missingInput (input : String)
  | cfr (e : CfrError)
  | pool (reason : String)
deriving DecidableEq, Repr

/-- The wording of an error, from the outermost circumstance to the cause. -/
def RunError.chain : RunError → List String
  | .usage e => [e.message]
  | .query e => [e.message]
  | .session e => [e.message]
  | .missingInput input => [File.missingInput input]
  | .cfr e => e.chain
  | .pool reason => ["Failed to build worker pool", reason]

end ArchiveScout.Command
