/-!
# ArchiveScout.Console.Transcript

**What a run shows.** Lines stay; the status is one line that is replaced again and
again and taken away in the end. Questions to the user are part of the transcript,
because they may share a stream with the lines.
-/

namespace ArchiveScout.Console

/-- A piece of output that stays. -/
inductive Entry where
  /-- A line of its own. -/
  | line (text : String)
  /-- A question, after which the cursor stays where it is. -/
  | question (text : String)
deriving DecidableEq, Repr

/-- All that has been shown, in order, and the status. -/
structure Transcript where
  entries : List Entry := []
  status : Option String := none
deriving DecidableEq, Repr

namespace Transcript

/-- Shows a line. -/
def write (t : Transcript) (text : String) : Transcript :=
  { t with entries := t.entries ++ [.line text] }

/-- Shows lines. -/
def writeAll (t : Transcript) (texts : List String) : Transcript := texts.foldl write t

/-- Asks a question. -/
def ask (t : Transcript) (text : String) : Transcript :=
  { t with entries := t.entries ++ [.question text] }

/-- Replaces the status. -/
def setStatus (t : Transcript) (text : String) : Transcript := { t with status := some text }

/-- Takes the status away. -/
def clearStatus (t : Transcript) : Transcript := { t with status := none }

/-- The lines that have been shown. -/
def lines (t : Transcript) : List String :=
  t.entries.filterMap fun
    | .line text => some text
    | .question _ => none

end Transcript

end ArchiveScout.Console
