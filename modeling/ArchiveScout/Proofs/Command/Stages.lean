import ArchiveScout.Proofs.Command.Check
import ArchiveScout.Proofs.Command.Run
import ArchiveScout.Proofs.Query.Criteria
import Mathlib.Data.List.Forall2

/-!
# ArchiveScout.Proofs.Command.Stages

**What comes before the first archive.** A command goes through stages that can fail: its checks,
its query, its files, and for decoding the decompiler and the workers. `Stops` names the first one
that fails, with what has changed until then. Behind the stages nothing fails any more: whatever
becomes of an archive stands in its outcome or its report, and the next one follows.
-/

namespace ArchiveScout.Command

open ArchiveScout.Console (Prompt)
open ArchiveScout.Decode (Decoder Decompiler Event Provider Report World archiveName jarProvider)
open ArchiveScout.File (Tree)
open ArchiveScout.Query (AdvancedQuery QueryError QuerySpec bind_eq_error)
open ArchiveScout.Search (Request SearchOutcome Session)
open Run

variable {s : Services} {t : Tree} {w w' : World} {e : RunError} {archive : String}
  {files archives : List String}

/-! ### Searches -/

namespace SearchOptions

variable {o : SearchOptions} {new : Session} {request : Request} {generator : Option Generator}
  {found : SearchOutcome} {searches : List SearchOutcome} {generated : List Report}

/-- The first part of what is asked that cannot be read, and why. -/
inductive Unreadable (o : SearchOptions) : QueryError → Prop
  | query {e : QueryError} (hquery : QuerySpec.build o.query = .error e) : Unreadable o e
  | classes {spec : QuerySpec} {e : QueryError} (hquery : QuerySpec.build o.query = .ok spec)
      (hclasses : AdvancedQuery.parse .classes o.classAdvanced = .error e) : Unreadable o e
  | methods {spec : QuerySpec} {classAdvanced : AdvancedQuery} {e : QueryError}
      (hquery : QuerySpec.build o.query = .ok spec)
      (hclasses : AdvancedQuery.parse .classes o.classAdvanced = .ok classAdvanced)
      (hmethods : AdvancedQuery.parse .methods o.methodAdvanced = .error e) : Unreadable o e

/-- The first stage of a search that fails, and why. -/
inductive Stops (o : SearchOptions) (t : Tree) : RunError → Prop
  | checks {e : UsageError} (hcheck : o.check = .error e) : Stops o t (.usage e)
  | request {e : QueryError} (hcheck : o.check = .ok ()) (hunreadable : o.Unreadable e) :
      Stops o t (.query e)
  | files {request : Request} {input : String} (hcheck : o.check = .ok ())
      (hrequest : o.request = .ok request)
      (hfiles : File.expandInputs t o.files = .error input) : Stops o t (.missingInput input)

end SearchOptions

/-! ### Decoding -/

namespace DecodeOptions

variable {o : DecodeOptions} {jar : String}

/-- The first stage of decoding that fails, why, and what the world is then. -/
inductive Stops (s : Services) (o : DecodeOptions) (w : World) : RunError → World → Prop
  | checks {e : UsageError} (hcheck : o.check = .error e) : Stops s o w (.usage e) w
  | files {input : String} (hcheck : o.check = .ok ())
      (hfiles : File.expandInputs w.tree o.files = .error input) :
      Stops s o w (.missingInput input) w
  | decompiler {archives : List String} {t : Tree} {e : CfrError} (hcheck : o.check = .ok ())
      (hfiles : File.expandInputs w.tree o.files = .ok archives)
      (hjar : s.cfr.resolve w.tree = (t, .error e)) : Stops s o w (.cfr e) { w with tree := t }
  | workers {archives : List String} {t : Tree} {jar reason : String} (hcheck : o.check = .ok ())
      (hfiles : File.expandInputs w.tree o.files = .ok archives)
      (hjar : s.cfr.resolve w.tree = (t, .ok jar))
      (hworkers : s.startWorkers (max (decodeJob s o).threads 1) = .error reason) :
      Stops s o w (.pool reason) { w with tree := t }

end DecodeOptions

end ArchiveScout.Command
