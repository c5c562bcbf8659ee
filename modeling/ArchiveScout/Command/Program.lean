import ArchiveScout.Command.Run

/-!
# ArchiveScout.Command.Program

**The program as a function** from its arguments, environment, files and input to its
output, exit code and files. Lines for people go to the output and questions to the
error output; when the result is written as a document, the document has the output for
itself and the lines join the questions.
-/

namespace ArchiveScout.Command

open ArchiveScout.Console (Entry LineInput Transcript)
open ArchiveScout.Decode (Toolbox World)
open ArchiveScout.File (Tree)

/-- The name and version of the program. -/
def versionText : String := "class-explorer 0.0.1-beta\n"

/-- The help: the commands and what they do. -/
def helpText : String :=
  "Search and decompile classes inside jar, apk, dex and aar archives\n\n" ++
    "Usage: class-explorer [--cfr FILE] [--format text|json] COMMAND ...\n\nCommands:\n" ++
    String.join (Name.all.map fun name =>
      s!"  {name.word}, {name.letter}  {name.description}\n") ++
    "  help       Print this message\n"

/-- What the program finds around it. -/
structure Environment where
  /-- The path of the decompiler in the environment. -/
  cfrJar : Option String := none
  /-- The data directory of the user. -/
  dataDirectory : Option String := none
  /-- The downloader. -/
  download : List String → Tree → Option (Tree × Bool) := fun _ _ => none
  tools : Toolbox
  parallelism : Nat := 1

/-- How the program ends. -/
structure Ending where
  code : Nat
  stdout : String
  stderr : String
  tree : Tree

/-- An entry as it appears on a stream. -/
def entryText : Entry → String
  | .line text => text ++ "\n"
  | .question text => text

/-- The entries that are for the output when it holds text. -/
def isLine : Entry → Bool
  | .line _ => true
  | .question _ => false

/-- The entries as they appear on one stream. -/
def entriesText (entries : List Entry) : String := String.join (entries.map entryText)

/-- What has been shown, on the output and on the error output. -/
def streams (format : OutputFormat) (shown : Transcript) : String × String :=
  match format with
  | .text =>
    (entriesText (shown.entries.filter isLine),
      entriesText (shown.entries.filter fun e => !isLine e))
  | .json => ("", entriesText shown.entries)

/-- The causes of an error, numbered if there are several. -/
def causesText : List String → String
  | [] => ""
  | [cause] => s!"\n\nCaused by:\n    {cause}"
  | causes =>
    "\n\nCaused by:" ++ String.join (causes.zipIdx.map fun (cause, i) => s!"\n    {i}: {cause}")

/-- An error with its causes. -/
def errorText : List String → String
  | [] => ""
  | message :: causes => s!"Error: {message}{causesText causes}\n"

/-- What an outcome adds to the output. -/
def outcomeText (format : OutputFormat) (outcome : Outcome) : String :=
  match format, outcome with
  | .json, outcome => outcome.document.render ++ "\n"
  | .text, .notImplemented name =>
    s!"'{name.word}' ({name.description}) is not implemented yet\n"
  | .text, _ => ""

/-- The ending for a command line that is refused. -/
def refuse (tree : Tree) : Rejection → Ending
  | .version => ⟨0, versionText, "", tree⟩
  | .help => ⟨0, helpText, "", tree⟩
  | .nothing => ⟨2, "", helpText, tree⟩
  | rejection => ⟨2, "", s!"error: {rejection.message}\n", tree⟩

/-- What the commands work with. -/
def Environment.services (env : Environment) (option : Option String) : Services where
  engine := Search.nameEngine
  prompt := .console
  tools := env.tools
  cfr := {
    option
    environment := env.cfrJar
    dataDirectory := env.dataDirectory
    download := env.download }
  parallelism := env.parallelism

/-- Runs what a command line asks for. -/
def Invocation.run (i : Invocation) (env : Environment) (tree : Tree) (input : LineInput) :
    Ending :=
  let (result, w) := i.command.runIn (env.services i.cfr) { tree, input }
  let (stdout, stderr) := streams i.format w.shown
  match result with
  | .ok outcome => ⟨0, stdout ++ outcomeText i.format outcome, stderr, w.tree⟩
  | .error e => ⟨1, stdout, stderr ++ errorText e.chain, w.tree⟩

/-- The program. -/
def program (env : Environment) (arguments : List String) (tree : Tree)
    (input : LineInput) : Ending :=
  match Invocation.ofArguments arguments with
  | .error rejection => refuse tree rejection
  | .ok invocation => invocation.run env tree input

end ArchiveScout.Command
