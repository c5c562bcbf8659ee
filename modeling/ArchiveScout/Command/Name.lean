/-!
# ArchiveScout.Command.Name

**The names of the commands.** Every command has a word, a letter that stands for the
word, and a description.
-/

namespace ArchiveScout.Command

/-- A command. -/
inductive Name where
  | search
  | decode
  | mapver
  | batch
deriving DecidableEq, Repr

namespace Name

/-- All commands. -/
def all : List Name := [.search, .decode, .mapver, .batch]

/-- The word for a command. -/
def word : Name → String
  | .search => "search"
  | .decode => "decode"
  | .mapver => "mapver"
  | .batch => "batch"

/-- The letter for a command. -/
def letter : Name → String
  | .search => "s"
  | .decode => "d"
  | .mapver => "m"
  | .batch => "b"

/-- What a command does. -/
def description : Name → String
  | .search => "Search classes and methods"
  | .decode => "Decompile java, smali and resource files"
  | .mapver => "Map classes from one version to another"
  | .batch => "Perform multiple search at once"

/-- The command that a word or letter stands for. -/
def ofWord? (text : String) : Option Name :=
  all.find? fun name => name.word == text || name.letter == text

/-- The description of the command that a word or letter stands for, or nothing. -/
def descriptionOf (text : String) : String := ((ofWord? text).map description).getD ""

end Name

end ArchiveScout.Command
