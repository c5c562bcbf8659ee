import ArchiveScout.Command.Outcome

/-!
# ArchiveScout.Command.Cfr

**Where the decompiler is.** A path given on the command line comes first, then one in
the environment, then the jar in the data directory of the user. A jar that is missing
there is downloaded on first use.
-/

namespace ArchiveScout.Command

open ArchiveScout.File (Path.join Path.parent? Tree)

/-- Where the decompiler is downloaded from. -/
def cfrUrl : String :=
  "https://github.com/leibnitz27/cfr/releases/download/0.152/cfr-0.152.jar"

/-- The arguments of the downloader for a target. -/
def downloadArguments (target : String) : List String :=
  ["-L", "--fail", "--silent", "--show-error", "-o", target, cfrUrl]

/-- What the search for the decompiler depends on. -/
structure CfrSource where
  /-- The path on the command line. -/
  option : Option String := none
  /-- The path in the environment. -/
  environment : Option String := none
  /-- The data directory of the user. -/
  dataDirectory : Option String := none
  /-- What the downloader does to files for some arguments, and whether it succeeds;
  `none` when there is no downloader. -/
  download : List String → Tree → Option (Tree × Bool) := fun _ _ => none

namespace CfrSource

/-- The path that was given, if one was. An empty path in the environment is none. -/
def given? (s : CfrSource) : Option String :=
  s.option.orElse fun _ => s.environment.filter (!·.isEmpty)

/-- The jar in a data directory. -/
def defaultJar (dataDirectory : String) : String :=
  Path.join (Path.join (Path.join dataDirectory "class-explorer") "tools") "cfr.jar"

/-- Makes the directory that a path is in. -/
def makeParent (path : String) (t : Tree) : Tree × Except CfrError Unit :=
  match Path.parent? path with
  | none => (t, .ok ())
  | some dir =>
    match t.makeDirectories dir with
    | (t, some fault) => (t, .error (.creating dir fault))
    | (t, none) => (t, .ok ())

/-- Downloads the jar to a path. -/
def install (s : CfrSource) (jar : String) (t : Tree) : Tree × Except CfrError Unit :=
  match makeParent jar t with
  | (t, .error e) => (t, .error e)
  | (t, .ok ()) =>
    match s.download (downloadArguments jar) t with
    | none => (t, .error .noDownloader)
    | some (t, false) => (t, .error .download)
    | some (t, true) => (t, .ok ())

/-- The path of the decompiler. -/
def resolve (s : CfrSource) (t : Tree) : Tree × Except CfrError String :=
  match s.given? with
  | some path => (t, .ok path)
  | none =>
    match s.dataDirectory.map defaultJar with
    | none => (t, .error .noDataDirectory)
    | some jar =>
      if t.exists? jar then (t, .ok jar)
      else match s.install jar t with
        | (t, .error e) => (t, .error e)
        | (t, .ok ()) => (t, .ok jar)

end CfrSource

end ArchiveScout.Command
