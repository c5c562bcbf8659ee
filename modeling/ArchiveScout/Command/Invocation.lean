import ArchiveScout.Command.Arguments
import ArchiveScout.Command.Name
import ArchiveScout.Query.Spec

/-!
# ArchiveScout.Command.Invocation

**What a command line asks for.** One structure per command holds the values of its
options, and `Invocation` the command with the options that stand in front of it.
`Invocation.ofArguments` reads a command line; an option that is not given has its
default.
-/

namespace ArchiveScout.Command

open ArchiveScout.Query (QueryArgs)

/-- How the result is shown. -/
inductive OutputFormat where
  | text
  | json
deriving DecidableEq, Repr

/-- The word for a format. -/
def OutputFormat.word : OutputFormat → String
  | .text => "text"
  | .json => "json"

/-- The directory for output when none is named. -/
def defaultOutput : String := "class-explorer-out"

/-- The options of a search. -/
structure SearchOptions where
  files : List String := []
  /-- `c` for classes and `m` for methods. -/
  mode : String := "c"
  query : QueryArgs := {}
  limit : Int := -1
  printPool : String := ""
  genSources : Bool := false
  output : String := defaultOutput
  classAdvanced : String := ""
  methodAdvanced : String := ""
deriving DecidableEq, Repr

/-- The options of decoding. -/
structure DecodeOptions where
  files : List String := []
  /-- Letters: `j` for java, `s` for smali, `r` for resources. -/
  mode : String := "j"
  classes : List String := []
  packages : List String := []
  resources : List String := []
  jobs : Option Nat := none
  disableRename : Bool := false
  enablePause : Bool := false
  flat : Bool := false
  output : String := defaultOutput
deriving DecidableEq, Repr

/-- The options of mapping classes between versions. -/
structure MapOptions where
  source : String := ""
  classes : List String := []
  targets : List String := []
deriving DecidableEq, Repr

/-- The options of a batch of searches. -/
structure BatchOptions where
  files : List String := []
  file : String := ""
  queries : List String := []
deriving DecidableEq, Repr

/-- A command with its options. -/
inductive Operation where
  | search (options : SearchOptions)
  | decode (options : DecodeOptions)
  | mapver (options : MapOptions)
  | batch (options : BatchOptions)
deriving DecidableEq, Repr

/-- What a command line asks for. -/
structure Invocation where
  cfr : Option String := none
  format : OutputFormat := .text
  verbose : Bool := false
  command : Operation
deriving DecidableEq, Repr

/-! ### Rules -/

/-- A word in front of the options of a command. -/
inductive TopWord where
  | help
  | command (name : Name)
deriving DecidableEq, Repr

/-- What a word in front of the options of a command stands for. -/
def TopWord.ofWord? (text : String) : Option TopWord :=
  if text = "help" then some .help else (Name.ofWord? text).map .command

/-- The options in front of a command. -/
def topGrammar : Grammar TopWord where
  rules := [
    { key := "cfr", names := ["cfr"], kind := .path },
    { key := "format", names := ["format"], kind := .word ["text", "json"] },
    .flag "verbose" ["verbose"] (some 'v'),
    helpRule,
    { key := "version", names := ["version"], letter := some 'V', arity := .version }]
  operands := .command TopWord.ofWord?

/-- The rule for the output directory. -/
def outputRule : Rule := .single "output" ["output"] (some 'o')

/-- The rule for the letters of a mode. -/
def modeRule : Rule := .single "mode" ["mode"] (some 'm')

/-- The options of a search. -/
def searchGrammar : Grammar Empty where
  rules := [
    modeRule,
    .list "packages" ["packages", "pkg"] none,
    .list "classes" ["classes", "cls"] none,
    .list "class_names" ["cls-names", "cnm"] none,
    .single "class_regex" ["cls-regex", "clx"] none,
    .single "ref_type" ["ref-type", "rt"] none,
    .list "references" ["references", "ref"] none,
    .single "ref_regex" ["ref-regex", "rfx"] none,
    .list "signatures" ["signatures", "sig"] none,
    .list "sources" ["sources", "src"] none,
    { Rule.list "numbers" ["numbers", "num"] none with negative := true },
    .list "res_names" ["res-name", "res"] none,
    .list "annot_types" ["annot-type", "ann"] none,
    .list "annot_values" ["annot-value", "anv"] none,
    .flag "synthetic" ["synthetic"] none,
    { Rule.single "limit" ["limit"] (some 'l') with kind := .integer, negative := true },
    .single "print_pool" ["print-pool", "pool"] none,
    .flag "gen_sources" ["gen-sources", "gen"] none,
    outputRule,
    .single "class_advanced" ["class-advanced", "cdv"] none,
    .single "method_advanced" ["method-advanced", "mdv"] none,
    helpRule]
  operands := .files

/-- The options of decoding. -/
def decodeGrammar : Grammar Empty where
  rules := [
    modeRule,
    .list "classes" ["classes", "cls"] none,
    .list "packages" ["packages", "pkg"] none,
    .list "resources" ["resources", "res"] none,
    { Rule.single "jobs" ["jobs"] (some 'j') with kind := .count },
    .flag "disable_rename" ["disable-rename", "dren"] none,
    .flag "enable_pause" ["enable-pause", "eps"] none,
    .flag "flat" ["flat"] none,
    outputRule,
    helpRule]
  operands := .files

/-- The options of mapping classes. -/
def mapGrammar : Grammar Empty where
  rules := [
    .single "source" ["source"] (some 's'),
    .list "classes" ["classes"] (some 'c'),
    .list "target" ["target"] (some 't'),
    helpRule]
  operands := .none

/-- The options of a batch. -/
def batchGrammar : Grammar Empty where
  rules := [
    .single "file" ["file"] (some 'f'),
    .list "queries" ["queries"] (some 'q'),
    helpRule]
  operands := .files

/-! ### Options out of what has been read -/

/-- The options of a search. -/
def SearchOptions.ofReading (r : Reading) : SearchOptions where
  files := r.values "files"
  mode := (r.value? "mode").getD "c"
  query := {
    packages := r.values "packages"
    classes := r.values "classes"
    classNames := r.values "class_names"
    classRegex := r.text "class_regex"
    refTypes := r.text "ref_type"
    references := r.values "references"
    refRegex := r.text "ref_regex"
    signatures := r.values "signatures"
    sources := r.values "sources"
    numbers := r.values "numbers"
    resourceNames := r.values "res_names"
    annotationTypes := r.values "annot_types"
    annotationValues := r.values "annot_values"
    synthetic := r.has "synthetic" }
  limit := ((r.value? "limit").bind integer?).getD (-1)
  printPool := r.text "print_pool"
  genSources := r.has "gen_sources"
  output := (r.value? "output").getD defaultOutput
  classAdvanced := r.text "class_advanced"
  methodAdvanced := r.text "method_advanced"

/-- The options of decoding. -/
def DecodeOptions.ofReading (r : Reading) : DecodeOptions where
  files := r.values "files"
  mode := (r.value? "mode").getD "j"
  classes := r.values "classes"
  packages := r.values "packages"
  resources := r.values "resources"
  jobs := (r.value? "jobs").bind count?
  disableRename := r.has "disable_rename"
  enablePause := r.has "enable_pause"
  flat := r.has "flat"
  output := (r.value? "output").getD defaultOutput

/-- The options of mapping classes. -/
def MapOptions.ofReading (r : Reading) : MapOptions where
  source := r.text "source"
  classes := r.values "classes"
  targets := r.values "target"

/-- The options of a batch. -/
def BatchOptions.ofReading (r : Reading) : BatchOptions where
  files := r.values "files"
  file := r.text "file"
  queries := r.values "queries"

/-- Reads the arguments behind the name of a command. -/
def Operation.ofArguments (name : Name) (arguments : List String) :
    Except Rejection Operation :=
  match name with
  | .search => do return .search (.ofReading (← searchGrammar.read arguments))
  | .decode => do return .decode (.ofReading (← decodeGrammar.read arguments))
  | .mapver => do return .mapver (.ofReading (← mapGrammar.read arguments))
  | .batch => do return .batch (.ofReading (← batchGrammar.read arguments))

/-- What asking for help on some words leads to: help on everything or on one command,
and no command has commands of its own. -/
def helpOn : List String → Rejection
  | [] => .help
  | word :: words =>
    match TopWord.ofWord? word, words with
    | none, _ => .unknownCommand word
    | some _, [] => .help
    | some _, next :: _ => .unknownCommand next

namespace Invocation

/-- A command with the options in front of it. -/
def ofReading (r : Reading) (command : Operation) : Invocation where
  cfr := r.value? "cfr"
  format := if r.value? "format" = some "json" then .json else .text
  verbose := r.has "verbose"
  command

/-- Reads a command line, without the name of the program. The options in front of the
command are settled last. -/
def ofArguments (arguments : List String) : Except Rejection Invocation := do
  match ← topGrammar.readFrom {} arguments with
  | (_, some (.help, words)) => throw (helpOn words)
  | (r, some (.command name, rest)) =>
    let command ← Operation.ofArguments name rest
    return ofReading (← r.settlePending) command
  | (r, none) =>
    let r ← r.settlePending
    throw (if r.settled.isEmpty then .nothing else .noCommand)

end Invocation

end ArchiveScout.Command
