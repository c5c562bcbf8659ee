import ArchiveScout.Command.Invocation
import ArchiveScout.Search.Session

/-!
# ArchiveScout.Command.Check

**Options that do not fit together.** Each command has a list of checks in a fixed
order; the first one that finds fault gives the error. No archive is touched before
all of them have passed.
-/

namespace ArchiveScout.Command

open ArchiveScout.Query (ReferenceTypes)
open ArchiveScout.Text (endsWith splitOn)

/-- Why options are refused. -/
inductive UsageError where
  | noOutput
  | noFiles
  | searchMode
  | noQuery
  | classesAndNames
  | referenceTypes
  | noReferences
  | noReferenceTypes
  | noResourceNames
  | noResourceClass
  | resourceNames
  | poolTypes
  | decodeMode
deriving DecidableEq, Repr

/-- The wording of an error. -/
def UsageError.message : UsageError → String
  | .noOutput => "Invalid output directory name"
  | .noFiles => "Please provide input files"
  | .searchMode => "Please enter correct search mode"
  | .noQuery => "Please provide a search query"
  | .classesAndNames =>
    "(--cls, --classes) cannot be used together with (--cnm, --cls-names)"
  | .referenceTypes => "Please enter correct reference types"
  | .noReferences => "Please provide references [--ref, --references]"
  | .noReferenceTypes => "Please provide reference types [--rt, --ref-type]"
  | .noResourceNames => "[--res, --res-name] Please provide resource names"
  | .noResourceClass => "[--res, --res-name] Please provide the R class as first value"
  | .resourceNames => "[--res, --res-name] Please enter correct resource names"
  | .poolTypes => "[--pool, --print-pool] Please enter correct pool types"
  | .decodeMode => "Please enter correct decode mode"

/-- The first error whose check finds fault. -/
def firstFault : List (Bool × UsageError) → Except UsageError Unit
  | [] => .ok ()
  | (atFault, e) :: checks => if atFault then .error e else firstFault checks

/-- Whether letters stand for reference types. -/
def areReferenceTypes (letters : String) : Bool := (ReferenceTypes.parse letters.toList).isOk

/-- Whether a name is that of a resource class. -/
def isResourceClass (name : String) : Bool := name == "R" || endsWith ".R" name

/-- Whether an entry is a kind and a name with one colon between and no point. -/
def isResourceEntry (entry : String) : Bool :=
  !entry.toList.contains '.' && (splitOn ':' entry.toList).length == 2

namespace SearchOptions

/-- What is searched for, if the mode is one. -/
def mode? (o : SearchOptions) : Option Search.Mode :=
  if o.mode = "c" then some .classes else if o.mode = "m" then some .methods else none

/-- The advanced query of the mode. -/
def advanced (o : SearchOptions) : String :=
  if o.mode = "c" then o.classAdvanced else o.methodAdvanced

/-- Whether any list is given that makes a query. Packages alone do not. -/
def hasList (o : SearchOptions) : Bool :=
  !(o.query.classes.isEmpty && o.query.classNames.isEmpty && o.query.sources.isEmpty &&
    o.query.resourceNames.isEmpty && o.query.numbers.isEmpty &&
    o.query.annotationTypes.isEmpty && o.query.annotationValues.isEmpty)

/-- Whether anything is asked. -/
def asks (o : SearchOptions) : Bool :=
  o.hasList || !o.query.refTypes.isEmpty || !o.query.classRegex.isEmpty || !o.advanced.isEmpty

/-- Whether any reference is asked for. -/
def hasReferences (o : SearchOptions) : Bool :=
  !(o.query.references.isEmpty && o.query.signatures.isEmpty && o.query.refRegex.isEmpty)

/-- The checks of the names of resources. -/
def resourceFaults : List String → List (Bool × UsageError)
  | [] => []
  | [first] => [(isResourceClass first, .noResourceNames), (true, .noResourceClass)]
  | _ :: entries => [(!entries.all isResourceEntry, .resourceNames)]

/-- The checks of a search. -/
def faults (o : SearchOptions) : List (Bool × UsageError) :=
  [(o.output.isEmpty, .noOutput),
    (o.files.isEmpty, .noFiles),
    (o.mode?.isNone, .searchMode),
    (!o.asks, .noQuery),
    (!o.query.classes.isEmpty && !o.query.classNames.isEmpty, .classesAndNames),
    (!areReferenceTypes o.query.refTypes, .referenceTypes),
    (!o.query.refTypes.isEmpty && !o.hasReferences, .noReferences),
    (o.query.refTypes.isEmpty && o.hasReferences, .noReferenceTypes)] ++
  resourceFaults o.query.resourceNames ++
  [(!areReferenceTypes o.printPool, .poolTypes)]

/-- Checks the options of a search. -/
def check (o : SearchOptions) : Except UsageError Unit := firstFault o.faults

end SearchOptions

namespace DecodeOptions

/-- Whether the letters of a mode are right. -/
def isMode (mode : String) : Bool :=
  !mode.isEmpty && mode.toList.all fun c => ['j', 's', 'r'].contains c

/-- The checks of decoding. -/
def faults (o : DecodeOptions) : List (Bool × UsageError) :=
  [(o.files.isEmpty, .noFiles),
    (o.output.isEmpty, .noOutput),
    (!isMode o.mode, .decodeMode)]

/-- Checks the options of decoding. -/
def check (o : DecodeOptions) : Except UsageError Unit := firstFault o.faults

end DecodeOptions

/-- Checks the options of a command. -/
def Operation.check : Operation → Except UsageError Unit
  | .search o => o.check
  | .decode o => o.check
  | .mapver _ | .batch _ => .ok ()

end ArchiveScout.Command
