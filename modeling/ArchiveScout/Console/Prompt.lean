import ArchiveScout.Console.LineInput
import ArchiveScout.Console.Transcript
import ArchiveScout.Text.Blank

/-!
# ArchiveScout.Console.Prompt

**Asking what to do with an output directory that exists.** The answer is one line;
only `y` overwrites and, where merging is offered, only `m` merges. Any other answer
skips the archive, and so does the end of the input.
-/

namespace ArchiveScout.Console

/-- What to do with an output directory that exists. -/
inductive Choice where
  | overwrite
  | merge
  | skip
deriving DecidableEq, Repr

/-- Whether a line, trimmed, is one letter in either case. -/
def isLetter (letter : Char) (line : String) : Bool :=
  (Text.trim line.toList).map Char.toLower == [letter]

/-- The choice that a line stands for. -/
def Choice.ofAnswer (allowMerge : Bool) (line : String) : Choice :=
  if isLetter 'y' line then .overwrite
  else if allowMerge && isLetter 'm' line then .merge
  else .skip

/-- The choice that a reply stands for; no line skips. -/
def Choice.ofReply (allowMerge : Bool) : Option Reply → Choice
  | some (.line text) => ofAnswer allowMerge text
  | _ => .skip

/-- Who is asked. -/
inductive Prompt where
  /-- Nobody: the choice is made. -/
  | fixed (choice : Choice)
  /-- The user. -/
  | console
deriving DecidableEq, Repr

/-- The choice that has been made, or skipping where merging is not offered. -/
def Choice.fixed (allowMerge : Bool) : Choice → Choice
  | .merge => if allowMerge then .merge else .skip
  | choice => choice

/-- The question. -/
def question (dir : String) (allowMerge : Bool) : String :=
  let hint := if allowMerge then " or Merge? [m]" else ""
  s!"!! Output directory exists: {dir}\n>> Overwrite? [y/n]{hint}: "

/-- Asks about a directory. The second result says which listeners heard of lines
that came meanwhile. -/
def Prompt.ask (p : Prompt) (dir : String) (allowMerge : Bool) (t : Transcript)
    (input : LineInput) : Choice × List Nat × Transcript × LineInput :=
  match p with
  | .fixed choice => (choice.fixed allowMerge, [], t, input)
  | .console =>
    let (input, h) := input.next 0
    (Choice.ofReply allowMerge h.reply, h.heard, t.ask (question dir allowMerge), input)

end ArchiveScout.Console
