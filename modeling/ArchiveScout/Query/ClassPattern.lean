import ArchiveScout.Query.Error
import ArchiveScout.Regex.Pattern
import ArchiveScout.Text.Split

/-!
# ArchiveScout.Query.ClassPattern

**Constraints on the full name of a class**: a pattern given by the user, put between
anchors so that it has to match the whole name, or the exclusion of all classes whose
names start with one of several names.
-/

namespace ArchiveScout.Query

open ArchiveScout.Regex (Pattern)

/-- A constraint on the full name of a class. -/
inductive ClassPattern where
  /-- The user's text and the pattern made of it. -/
  | whole (text : String) (pattern : Pattern)
  /-- All names that start with none of these. -/
  | excluding (containers : List String)

namespace ClassPattern

/-- The user's text between anchors. -/
def anchored (text : String) : String := "^(?:" ++ text ++ ")$"

/-- Reads a pattern for whole class names. -/
def compile (text : String) : Except QueryError ClassPattern :=
  match Pattern.compile? (anchored text) with
  | some pattern => .ok (.whole text pattern)
  | none => .error (.invalidPattern text)

/-- Whether a class name satisfies the constraint. -/
def isMatch : ClassPattern → String → Bool
  | .whole _ pattern, name => pattern.isMatch name
  | .excluding containers, name => !containers.any fun c => Text.startsWith c name

/-- The constraint as text. An exclusion is written in the notation of patterns that
can look ahead. -/
def display : ClassPattern → String
  | .whole text _ => text
  | .excluding containers =>
    let quoted := containers.map fun c => "\\Q" ++ c ++ "\\E"
    "^(?!" ++ "|".intercalate quoted ++ ").*$"

end ClassPattern

end ArchiveScout.Query
