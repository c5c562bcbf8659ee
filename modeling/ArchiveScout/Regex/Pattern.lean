import ArchiveScout.Number.Numeral
import ArchiveScout.Regex.Automaton
import ArchiveScout.Regex.Bracket
import ArchiveScout.Regex.Match

/-!
# ArchiveScout.Regex.Pattern

**Reading a pattern.** The reader goes over the pattern once, part by part. It keeps
the alternatives of the innermost open group and, on a stack, the groups around it;
flags are resolved on the way, so a part depends on the flags at its place and on
nothing that comes later. A flag group such as `(?i)` holds to the end of the group
that it stands in, further alternatives included.

A pattern is refused when it is malformed, when its parts nest too deeply, or when one of
its automata would be too large.
-/

namespace ArchiveScout.Regex

open ArchiveScout.Unicode (CharSet)

/-- A part of a pattern: what it matches, its normal form, and the depth to which its own
parts nest. Flag groups are parts that cannot be repeated. -/
structure Part where
  node : Node
  shape : Shape
  depth : Nat := 0
  repeatable : Bool := true

/-- The empty word. -/
def Part.empty : Part := { node := .empty, shape := .empty }

/-- One character of a set. -/
def Part.ofSet (s : CharSet) : Part := { node := .set s, shape := .ofRanges s.toRanges }

/-- An assertion. -/
def Part.ofLook (l : Look) : Part := { node := .look l, shape := .look l }

/-- Parts one after another; the last comes first in the list. -/
def sequenceOf : List Part → Part
  | [] => .empty
  | [part] => part
  | last :: earlier =>
    { node := earlier.foldl (fun rest part => .cat part.node rest) last.node
      shape := earlier.foldl (fun rest part => part.shape.append rest) last.shape
      depth := earlier.foldl (fun d part => max d part.depth) last.depth + 1 }

/-- A group that is being read: finished alternatives and the parts of the current
one, both with the last in front. -/
structure Group where
  branches : List Part := []
  parts : List Part := []

/-- A group that closes. -/
def Group.close (g : Group) : Part :=
  let last := sequenceOf g.parts
  match g.branches with
  | [] => last
  | branches =>
    { node := branches.foldl (fun rest part => .alt part.node rest) last.node
      shape := .choice ((last :: branches).reverse.map Part.shape)
      depth := branches.foldl (fun d part => max d part.depth) last.depth + 1 }

/-- One part more. -/
def Group.add (g : Group) (part : Part) : Group := { g with parts := part :: g.parts }

/-- A further alternative begins. -/
def Group.branch (g : Group) : Group := { branches := sequenceOf g.parts :: g.branches }

/-- The last part repeated, if there is one that can be. -/
def Group.repeat? (g : Group) (least : Nat) (most : Option Nat) (greedy : Bool) :
    Option Group :=
  match g.parts with
  | part :: parts =>
    if part.repeatable then
      let repeated : Part :=
        { node := part.node.repeated least most
          shape := part.shape.repeated least most greedy
          depth := part.depth + 1 }
      some { g with parts := repeated :: parts }
    else none
  | [] => none

/-- A group around the open one: what has been read of it, the flags that hold again when
the open group closes, and the number of the open group if it captures. -/
structure OuterGroup where
  group : Group
  flags : Flags
  number : Option Nat

/-- The state of the reader: the open group, the groups around it, the flags, the names
of groups, and how many groups capture. -/
structure Reader where
  group : Group := {}
  outer : List OuterGroup := []
  flags : Flags := {}
  names : List (List Char) := []
  captures : Nat := 0

/-- The state with one part more. -/
def Reader.add (r : Reader) (part : Part) : Reader := { r with group := r.group.add part }

/-- A group opens that does not capture. -/
def Reader.push (r : Reader) (flags : Flags) : Reader :=
  { r with group := {}, outer := ⟨r.group, r.flags, none⟩ :: r.outer, flags }

/-- A group opens that captures. -/
def Reader.pushCapture (r : Reader) : Reader :=
  { r with
    group := {}
    outer := ⟨r.group, r.flags, some r.captures⟩ :: r.outer
    captures := r.captures + 1 }

/-- The open group closes. -/
def Reader.pop? (r : Reader) : Option Reader :=
  match r.outer with
  | [] => none
  | ⟨group, flags, number⟩ :: outer =>
    let closed := r.group.close
    let shape := match number with
      | some n => .group n closed.shape
      | none => closed.shape
    let part := { closed with shape, depth := closed.depth + 1, repeatable := true }
    some { r with group := group.add part, outer, flags }

/-- A character of a group's name. -/
def isNameChar (first : Bool) (c : Char) : Bool :=
  c = '_' || Unicode.alphabetic.has c.toNat ||
    (!first && (c = '.' || c = '[' || c = ']' || Unicode.numbers.has c.toNat))

/-- Reads the name of a group up to `>`; a name stands only once. -/
def Reader.name? (r : Reader) (cs : List Char) : Option (Reader × List Char) :=
  let name := cs.takeWhile (· ≠ '>')
  match name, cs.dropWhile (· ≠ '>') with
  | first :: others, _ :: rest =>
    if isNameChar true first && others.all (isNameChar false) && !r.names.contains name then
      some ({ r.pushCapture with names := name :: r.names }, rest)
    else none
  | _, _ => none

/-- Reads what follows an opening parenthesis. There is no looking ahead or behind. -/
def Reader.open? (r : Reader) (cs : List Char) : Option (Reader × List Char) :=
  match r.flags.skip cs with
  | '?' :: 'P' :: '<' :: cs => r.name? cs
  | '?' :: '<' :: '=' :: _ => none
  | '?' :: '<' :: '!' :: _ => none
  | '?' :: '<' :: cs => r.name? cs
  | '?' :: cs =>
    let letters := cs.takeWhile fun c => c ≠ ':' && c ≠ ')'
    match r.flags.apply? [] letters, cs.drop letters.length with
    | some flags, ':' :: rest => some (r.push flags, rest)
    | some flags, ')' :: rest =>
      if letters = [] then none
      else some ({ r with flags }.add { Part.empty with repeatable := false }, rest)
    | _, _ => none
  | cs => some (r.pushCapture, cs)

/-- Reads the mark behind a repetition that turns its preference for many rounds around:
whether many are preferred, and the rest. -/
def greedyMark (f : Flags) : List Char → Bool × List Char
  | '?' :: cs => (f.lazily, cs)
  | cs => (!f.lazily, cs)

/-- A number of rounds; it fits 32 bits. -/
def rounds? (f : Flags) (cs : List Char) : Option (Nat × List Char) := do
  let (digits, rest) := f.takeRun Char.isDigit (cs.dropWhile Text.isBlank)
  let n ← Number.natural? 10 digits
  if n < Nat.pow 2 32 then return (n, f.skip (rest.dropWhile Text.isBlank)) else none

/-- Reads the bounds of a repetition behind the opening brace: one number, a number
and a comma, or two numbers in order. -/
def bounds? (f : Flags) (cs : List Char) : Option (Nat × Option Nat × List Char) := do
  let (least, cs) ← rounds? f (f.skip cs)
  match cs with
  | '\x7d' :: rest => return (least, some least, rest)
  | ',' :: cs =>
    match f.skip cs with
    | '\x7d' :: rest => return (least, none, rest)
    | cs =>
      let (most, cs) ← rounds? f cs
      match cs with
      | '\x7d' :: rest => if least ≤ most then return (least, some most, rest) else none
      | _ => none
  | _ => none

/-- The expression for a character that stands for itself. Outside the Unicode mode a
byte beyond ASCII is refused. -/
def charPart? (f : Flags) (c : Char) (asByte : Bool) : Option Part :=
  if !f.unicode && asByte && 128 ≤ c.toNat then none
  else if f.ignoreCase then
    some (.ofSet (if f.unicode then .fold (.single c) else .foldAscii (.single c)))
  else some (.ofSet (.single c))

/-- The expression of an atom. -/
def Atom.part? (f : Flags) : Atom → Option Part
  | .char c asByte => charPart? f c asByte
  | .set s => some (.ofSet s)
  | .look l => some (.ofLook l)

/-- The dot: every character but the ends of lines, or every character. -/
def dotPart? (f : Flags) : Option Part :=
  if !f.unicode then none
  else some (.ofSet (
    if f.dotAll then .all
    else if f.carriageReturn then .compl .lineEnds
    else .compl .lineFeed))

/-- The start of the text or of a line. -/
def startLook (f : Flags) : Look :=
  if !f.multiLine then .textStart else if f.carriageReturn then .lineStartCR else .lineStart

/-- The end of the text or of a line. -/
def endLook (f : Flags) : Look :=
  if !f.multiLine then .textEnd else if f.carriageReturn then .lineEndCR else .lineEnd

/-- Reads one part, whose first character is `c`. -/
def Reader.part? (r : Reader) (c : Char) (cs : List Char) : Option (Reader × List Char) :=
  let repeated (least : Nat) (most : Option Nat) (rest : List Char) :
      Option (Reader × List Char) :=
    let (greedy, rest) := greedyMark r.flags rest
    (r.group.repeat? least most greedy).map fun group => ({ r with group }, rest)
  let added (part? : Option Part) (rest : List Char) : Option (Reader × List Char) :=
    part?.map fun part => (r.add part, rest)
  match c with
  | '(' => r.open? cs
  | ')' => r.pop?.map (·, cs)
  | '|' => some ({ r with group := r.group.branch }, cs)
  | '?' => repeated 0 (some 1) cs
  | '*' => repeated 0 none cs
  | '+' => repeated 1 none cs
  | '\x7b' => do
    let (least, most, rest) ← bounds? r.flags cs
    repeated least most (r.flags.skip rest)
  | '[' => do
    let (x, rest) ← bracket? r.flags cs
    added (some { Part.ofSet x.set with depth := x.depth }) rest
  | '\\' => do
    let (atom, rest) ← escape? r.flags cs
    added (atom.part? r.flags) rest
  | '.' => added (dotPart? r.flags) cs
  | '^' => added (some (.ofLook (startLook r.flags))) cs
  | '$' => added (some (.ofLook (endLook r.flags))) cs
  | c => added (charPart? r.flags c false) cs

/-- Reads parts to the end of the pattern. The fuel bounds their number. -/
def Reader.run : Nat → Reader → List Char → Option Reader
  | 0, _, _ => none
  | fuel + 1, r, cs =>
    match r.flags.skip cs with
    | [] => some r
    | c :: cs => do
      let (r, rest) ← r.part? c cs
      Reader.run fuel r rest

/-- How deeply the parts of a pattern may nest. -/
def depthLimit : Nat := 250

/-- Reads a pattern; `none` when it is refused. -/
def Node.parse? (pattern : String) : Option Node := do
  let cs := pattern.toList
  let r ← Reader.run (cs.length + 1) {} cs
  let part := r.group.close
  if r.outer.isEmpty ∧ part.depth ≤ depthLimit ∧ part.shape.fits then
    return part.node
  else none

/-- A pattern that has been read, together with its text. -/
structure Pattern where
  text : String
  node : Node

/-- Reads a pattern and keeps its text. -/
def Pattern.compile? (text : String) : Option Pattern :=
  (Node.parse? text).map fun node => { text, node }

/-- Whether the pattern matches some part of a text. -/
def Pattern.isMatch (p : Pattern) (text : String) : Bool := p.node.isMatch text

end ArchiveScout.Regex
