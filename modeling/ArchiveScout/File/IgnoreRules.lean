import ArchiveScout.File.Glob
import ArchiveScout.Text.Blank
import ArchiveScout.Text.Split
import ArchiveScout.Text.Utf8

/-!
# ArchiveScout.File.IgnoreRules

**Rules for what a walk leaves out.** A directory may hold a file `.ignore` with one
rule a line, each a glob for paths below the directory. A rule with `!` in front takes
paths back in, a slash at the end restricts it to directories, and a slash elsewhere
ties it to the directory of the file; other rules hold at any depth. The last rule
that matches a path decides.
-/

namespace ArchiveScout.File

open ArchiveScout.Text (dropTail?)

/-- A rule. -/
structure IgnoreRule where
  glob : Regex.Node
  keeps : Bool
  directoriesOnly : Bool

namespace IgnoreRule

/-- The name of the files that hold rules. -/
def fileName : String := ".ignore"

/-- Marks in front of a rule taken off: whether it keeps paths, whether it is tied to
the directory, and the rest. -/
def takeMarks (line : List Char) : Bool × Bool × List Char :=
  match line with
  | '\\' :: '!' :: cs => (false, false, '!' :: cs)
  | '\\' :: '#' :: cs => (false, false, '#' :: cs)
  | '!' :: '/' :: cs => (true, true, cs)
  | '!' :: cs => (true, false, cs)
  | '/' :: cs => (false, true, cs)
  | cs => (false, false, cs)

/-- A slash at the end taken off, with a backslash in front of it. -/
def takeSlash (cs : List Char) : Bool × List Char :=
  match dropTail? ['/'] cs with
  | some cs => (true, (dropTail? ['\\'] cs).getD cs)
  | none => (false, cs)

/-- The glob of a rule without its marks. -/
def globOf (tied : Bool) (cs : List Char) : List Char :=
  let deep := ['*', '*', '/']
  let cs :=
    if tied || '/' ∈ cs || cs = ['*', '*'] then cs else deep ++ cs
  if ['/', '*', '*'].isSuffixOf cs then cs ++ ['/', '*'] else cs

/-- Reads a line; `none` for blank lines, comments and malformed globs. -/
def parse? (line : String) : Option IgnoreRule :=
  let cs := line.toList
  let cs := if ['\\', ' '].isSuffixOf cs then cs else Text.trimRight cs
  if cs = [] ∨ cs.head? = some '#' then none
  else
    let (keeps, tied, cs) := takeMarks cs
    let (directoriesOnly, cs) := takeSlash cs
    (Glob.parse? (String.ofList (globOf tied cs))).map fun glob =>
      { glob, keeps, directoriesOnly }

/-- The text of a line without its end: a line feed, and a carriage return in front of
it. -/
def withoutEnd (line : List Char) : List Char :=
  match dropTail? ['\n'] line with
  | some cs => (dropTail? ['\r'] cs).getD cs
  | none => line

/-- The first line without marks of the byte order in front of it. -/
def unmarked : List (List Char) → List (List Char)
  | [] => []
  | first :: rest => first.dropWhile (· == '\ufeff') :: rest

/-- The rules of a file; a line that is no text ends them. -/
def ofBytes (data : List UInt8) : List IgnoreRule :=
  let pieces := (Text.decodeFrom none data).splitBy fun a _ => a != some '\n'
  let texts := (pieces.map fun piece => piece.mapM id).takeWhile Option.isSome
  (unmarked (texts.filterMap fun text => text.map withoutEnd)).filterMap fun line =>
    parse? (String.ofList line)

/-- What the rules of one directory say of a path below it: `true` to leave it out,
`false` to take it in, `none` where no rule matches. -/
def verdict? (rules : List IgnoreRule) (path : String) (isDirectory : Bool) : Option Bool :=
  (rules.reverse.find? fun rule =>
    (!rule.directoriesOnly || isDirectory) && globMatches rule.glob path).map (!·.keeps)

end IgnoreRule

end ArchiveScout.File
