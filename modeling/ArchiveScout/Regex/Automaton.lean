import ArchiveScout.Regex.Growth
import ArchiveScout.Regex.Shape

/-!
# ArchiveScout.Regex.Automaton

**How large the automaton of an expression is.** An expression has two automata, one
that reads texts forwards and one that reads them backwards, and both have to fit into
a limited memory. The size of each follows the expression part by part: a part adds its
states, and the end of one part is linked to the start of the next. A link takes room
only where the end is a state that chooses between targets.
-/

namespace ArchiveScout.Regex

open ArchiveScout.Unicode (encode)

/-- The direction in which an automaton reads. -/
inductive Direction where
  | forward
  | backward
deriving DecidableEq, Repr

namespace Shape

/-- Whether the last state of a part chooses between targets, so that a link from it
takes room. -/
def endsOpen (d : Direction) : Shape → Bool
  | .empty | .text _ | .chars _ | .look _ | .alt _ _ => false
  | .repeat a least none _ => least ≠ 0 || a.consumes
  | .repeat a least (some most) _ => least = most && a.endsOpen d
  | .group _ a => d = .backward && a.endsOpen d
  | .cat a rest =>
    match d with
    | .forward => rest.endsOpen d
    | .backward => a.endsOpen d

/-- The room that a link from the end of a part takes. -/
def linkRoom (d : Direction) (s : Shape) : Nat := if s.endsOpen d then 4 else 0

/-- A repetition of a part that grows by `part` and whose links take the room `link`. -/
def growRepeat (part : Growth → Growth) (link : Nat) (consumes : Bool) (least : Nat)
    (most : Option Nat) (g : Growth) : Growth :=
  let linked (g : Growth) : Growth := (part g).add 0 link
  match least, most with
  | 0, none =>
    if consumes then (linked (g.add 1 0)).add 0 4 else (linked g).add 3 16
  | least, none => (Growth.rounds linked least g).add 1 4
  | 0, some 1 => (linked (g.add 1 0)).add 1 8
  | least, some most =>
    if least = most then Growth.rounds (fun g => part (g.add 0 link)) (least - 1) (part g)
    else
      let front := if least = 0 then g.add 1 0 else Growth.rounds linked least g
      Growth.rounds (fun g => linked (g.add 1 8)) (most - least) (front.add 1 0)

/-- The bytes of a text. -/
def bytesOf (cs : List Char) : List Nat := cs.flatMap fun c => encode c.toNat

/-- The automaton after a part. Where the part is a branch of a choice, `branch` counts
the branches in front of it: each branch is linked at both ends, and the second one
brings the state that chooses and the state where all of them end. -/
def placed (d : Direction) (branch : Option Nat) (s : Shape) (g : Growth) : Growth :=
  match branch with
  | none => g
  | some before => g.add (if before = 1 then 2 else 0) (4 + s.linkRoom d)

/-- The automaton with an expression more. Where the expression is a branch, or all
branches behind some, `branch` counts those in front. -/
def grow (d : Direction) : Shape → Option Nat → Growth → Growth
  | .empty, branch, g => placed d branch .empty (g.add 1 0)
  | .look l, branch, g => placed d branch (.look l) (g.add 1 0)
  | .text cs, branch, g => placed d branch (.text cs) (g.add (bytesOf cs).length 0)
  | .chars rs, branch, g =>
    placed d branch (.chars rs) (
      if isAsciiClass rs then (g.add 1 0).addChoice rs.length
      else match d with
        | .forward => growForward rs g
        | .backward => growBackward rs g)
  | .repeat a least most greedy, branch, g =>
    placed d branch (.repeat a least most greedy)
      (growRepeat (a.grow d none) (a.linkRoom d) a.consumes least most g)
  | .group n a, branch, g =>
    placed d branch (.group n a) (
      match d with
      | .forward => (a.grow d none (g.add 1 0)).add 1 (a.linkRoom d)
      | .backward => a.grow d none g)
  | .cat a rest, branch, g =>
    placed d branch (.cat a rest) (
      match d with
      | .forward => rest.grow d none ((a.grow d none g).add 0 (a.linkRoom d))
      | .backward => a.grow d none ((rest.grow d none g).add 0 (rest.linkRoom d)))
  | .alt a rest, some before, g => rest.grow d (some (before + 1)) (a.grow d (some before) g)
  | .alt a rest, none, g =>
    match (Shape.alt a rest).words? with
    | some words =>
      let words := words.map bytesOf
      growWords (if d = .forward then words else words.map List.reverse) g
    | none => rest.grow d (some 1) (a.grow d (some 0) g)

/-- The size of an automaton. One that need not start at an end of the text first passes
over any bytes, and one that reads forwards keeps the ends of what is captured. -/
def automaton (d : Direction) (s : Shape) : Growth :=
  let isTied := match d with
    | .forward => s.startsText
    | .backward => s.endsText
  let front : Growth := if isTied then { states := 1 } else { states := 3, lists := 16 }
  match d with
  | .forward => (s.grow d none (front.add 1 0)).add 2 (s.linkRoom d)
  | .backward => (s.grow d none front).add 1 (s.linkRoom d)

/-- So many words or more are searched for without an automaton. -/
def manyWords : Nat := 3000

/-- Whether both automata of an expression fit into the memory that they may take. A
choice between very many words needs none. -/
def fits (s : Shape) : Bool :=
  match s.words? with
  | some words =>
    manyWords ≤ words.length ||
      (!(s.automaton .forward).isOver && !(s.automaton .backward).isOver)
  | none => !(s.automaton .forward).isOver && !(s.automaton .backward).isOver

end Shape

end ArchiveScout.Regex
