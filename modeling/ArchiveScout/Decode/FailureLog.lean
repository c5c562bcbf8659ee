import ArchiveScout.Archive.ClassEntry
import ArchiveScout.File.Tree
import ArchiveScout.Text.Utf8

/-!
# ArchiveScout.Decode.FailureLog

**The log of what could not be written**, a file in the output directory with one line
for each class or resource. A line that cannot be appended is dropped.
-/

namespace ArchiveScout.Decode

open ArchiveScout.Archive (ClassEntry)
open ArchiveScout.File (Path.join Tree)

/-- The name of the log. -/
def failureLogName : String := "_failed_classes"

/-- The path of the log. -/
def failureLogPath (dir : String) : String := Path.join dir failureLogName

/-- The line for a class. -/
def classRecord (entry : ClassEntry) : String := s!"- {entry.fullName} ({entry.rawName})"

/-- The line for a resource. -/
def resourceRecord (name : String) : String := s!"- {name} (resource)"

/-- Appends a line to the log. -/
def appendRecord (dir : String) (t : Tree) (line : String) : Tree :=
  match t.append (failureLogPath dir) (Text.encode (line ++ "\n")) with
  | .ok t => t
  | .error _ => t

end ArchiveScout.Decode
