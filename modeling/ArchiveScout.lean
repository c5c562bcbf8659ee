import ArchiveScout.Main
import ArchiveScout.Proofs.Decode.Handout
import ArchiveScout.Proofs.Decode.Overwriting
import ArchiveScout.Proofs.Decode.Scheduling
import ArchiveScout.Proofs.Archive.ClassEntry
import ArchiveScout.Proofs.Decode.Hierarchy
import ArchiveScout.Proofs.Console.Routing
import ArchiveScout.Proofs.Decode.Barrier
import ArchiveScout.Proofs.Console.Delivery
import ArchiveScout.Proofs.Console.Prompt
import ArchiveScout.Proofs.Decode.Conflict
import ArchiveScout.Proofs.Decode.Report
import ArchiveScout.Proofs.Decode.Merging
import ArchiveScout.Proofs.Decode.Coverage
import ArchiveScout.Proofs.Search.NameSearch
import ArchiveScout.Proofs.Search.Package
import ArchiveScout.Proofs.Archive.TypeName
import ArchiveScout.Proofs.Command.Accepted
import ArchiveScout.Proofs.Search.Session
import ArchiveScout.Proofs.Command.Generation
import ArchiveScout.Proofs.Query.Resources
import ArchiveScout.Proofs.Search.Lifecycle
import ArchiveScout.Proofs.Search.Specialization
import ArchiveScout.Proofs.Command.Stages
import ArchiveScout.Proofs.Number.Numeral
import ArchiveScout.Proofs.Number.Literal
import ArchiveScout.Proofs.Number.Rounding
import ArchiveScout.Proofs.Number.Display
import ArchiveScout.Proofs.Query.Modifiers
import ArchiveScout.Proofs.Query.Advanced
import ArchiveScout.Proofs.Decode.Selection
import ArchiveScout.Proofs.Decode.Saving
import ArchiveScout.Proofs.Archive.Reading
import ArchiveScout.Proofs.Regex.Match
import ArchiveScout.Proofs.Regex.Local
import ArchiveScout.Proofs.Regex.Escape
import ArchiveScout.Proofs.Regex.Bracket
import ArchiveScout.Proofs.Regex.Token
import ArchiveScout.Proofs.Regex.Reading
import ArchiveScout.Proofs.Query.ClassPattern
import ArchiveScout.Proofs.Archive.Folding
import ArchiveScout.Proofs.File.Scan
