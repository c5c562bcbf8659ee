import ArchiveScout.Regex.Node

/-!
# ArchiveScout.Regex.Shape

**Expressions in the form that their automaton is made from.** A shape says the same as
an expression, brought into a normal form: characters in a row are one text, classes
and single characters that are alternatives of one another are one class, sequences in
sequences and choices in choices are flat, and what all alternatives start with stands
in front of the choice. Only the size of the automaton is read off a shape, so the
capturing groups and the preference for many or few rounds are kept: they decide
whether two parts are the same.

A sequence is a chain of `cat` whose first sides are no sequences, and a choice a chain
of `alt` in the same way. The functions `append`, `repeated` and `choice` keep the form.
-/

namespace ArchiveScout.Regex

open ArchiveScout.Unicode (Ranges)

/-- An expression in normal form. -/
inductive Shape where
  /-- The empty word. -/
  | empty
  /-- Characters in a row, at least one. -/
  | text (chars : List Char)
  /-- One character of a class; with no ranges, nothing matches. -/
  | chars (rs : Ranges)
  /-- An assertion. -/
  | look (l : Look)
  /-- A part `least` times or more, at most `most` times where that is given. -/
  | repeat (a : Shape) (least : Nat) (most : Option Nat) (greedy : Bool)
  /-- A capturing group with its number. -/
  | group (number : Nat) (a : Shape)
  /-- A part and the rest of a sequence. -/
  | cat (a rest : Shape)
  /-- A branch and the rest of a choice. -/
  | alt (a rest : Shape)
deriving DecidableEq, Repr

namespace Shape

/-- A class in normal form; a class of one character is a text. -/
def ofRanges : Ranges → Shape
  | [(lo, hi)] => if lo = hi then .text [Char.ofNat lo] else .chars [(lo, hi)]
  | rs => .chars rs

/-- Whether nothing but the empty word can match. -/
def isHollow : Shape → Bool
  | .empty | .look _ => true
  | .text _ | .chars _ => false
  | .repeat a _ _ _ => a.isHollow
  | .group _ a => a.isHollow
  | .cat a b | .alt a b => a.isHollow && b.isHollow

/-- How many characters a match has at least; `none` where a class without characters
is a part of the expression. -/
def least? : Shape → Option Nat
  | .empty | .look _ => some 0
  | .text cs => some cs.length
  | .chars rs => if rs = [] then none else some 1
  | .repeat a least _ _ => a.least?.map (· * least)
  | .group _ a => a.least?
  | .cat a b => do return (← a.least?) + (← b.least?)
  | .alt a b => do return min (← a.least?) (← b.least?)

/-- Whether the expression is known to take a character in every match. -/
def consumes (s : Shape) : Bool :=
  match s.least? with
  | some n => n ≠ 0
  | none => false

/-- A part in front of the parts of a sequence; texts side by side are put together. -/
def cons (a rest : Shape) : Shape :=
  match a, rest with
  | a, .empty => a
  | .text s, .text t => .text (s ++ t)
  | .text s, .cat (.text t) rest => .cat (.text (s ++ t)) rest
  | a, rest => .cat a rest

/-- One expression after another. -/
def append : Shape → Shape → Shape
  | .empty, b => b
  | .cat a rest, b => cons a (rest.append b)
  | a, b => cons a b

/-- A repetition. Of what can match nothing but the empty word one round is enough, no
round at all is the empty word, and exactly one round is the part itself. -/
def repeated (a : Shape) (least : Nat) (most : Option Nat) (greedy : Bool) : Shape :=
  let (least, most) :=
    if a.isHollow then (min least 1, some (min (most.getD 1) 1)) else (least, most)
  if most = some 0 then .empty
  else if least = 1 ∧ most = some 1 then a
  else .repeat a least most greedy

/-- The parts of a sequence. -/
def parts : Shape → List Shape
  | .empty => []
  | .cat a rest => a :: rest.parts
  | a => [a]

/-- The branches of a choice. -/
def branches : Shape → List Shape
  | .alt a rest => a :: rest.branches
  | a => [a]

/-- Parts one after another. -/
def ofParts (parts : List Shape) : Shape := parts.foldr append .empty

/-- Branches of which none is a choice. -/
def ofBranches : List Shape → Shape
  | [] => .chars []
  | [a] => a
  | a :: rest => .alt a (ofBranches rest)

/-- The range of a single character. -/
def singleRange? : Shape → Option (Nat × Nat)
  | .text [c] => some (c.toNat, c.toNat)
  | _ => none

/-- The ranges of a class. -/
def classRanges? : Shape → Option Ranges
  | .chars rs => some rs
  | _ => none

/-- The parts that two sequences start with alike. -/
def commonParts : List Shape → List Shape → List Shape
  | a :: as, b :: bs => if a = b then a :: commonParts as bs else []
  | _, _ => []

/-- The parts of a sequence of more than one part; none for anything else. -/
def catParts (s : Shape) : List Shape :=
  match s with
  | .cat _ _ => s.parts
  | _ => []

/-- The parts that all branches start with. -/
def sharedFront : List Shape → List Shape
  | [] => []
  | a :: rest => rest.foldl (fun front b => commonParts front b.catParts) a.catParts

/-- A choice between branches. Single characters and classes become one class, and what
all branches start with is put in front. The fuel bounds how often that happens. -/
def choiceWithin : Nat → List Shape → Shape
  | 0, options => ofBranches (options.flatMap branches)
  | fuel + 1, options =>
    let options := options.flatMap branches
    match options.mapM singleRange?, options.mapM classRanges? with
    | some rs, _ => ofRanges (Ranges.normal rs)
    | none, some classes => ofRanges (Ranges.normal classes.flatten)
    | none, none =>
      match sharedFront options with
      | [] => ofBranches options
      | front =>
        let rests := options.map fun s => ofParts (s.parts.drop front.length)
        (ofParts front).append (choiceWithin fuel rests)

/-- How many parts an expression has, those of its parts included. -/
def size : Shape → Nat
  | .empty | .text _ | .chars _ | .look _ => 1
  | .repeat a _ _ _ | .group _ a => a.size + 1
  | .cat a b | .alt a b => a.size + b.size + 1

/-- A choice between branches. -/
def choice (options : List Shape) : Shape :=
  match options with
  | [a] => a
  | options => choiceWithin (options.foldl (fun n s => n + s.size) 1) options

/-- Whether every match starts at the start of the text, as far as the parts in front
show. -/
def startsText : Shape → Bool
  | .look l => l = .textStart
  | .empty | .text _ | .chars _ => false
  | .repeat a least _ _ => least ≠ 0 && a.startsText
  | .group _ a => a.startsText
  | .cat a rest => a.startsText || (a.isHollow && rest.startsText)
  | .alt a rest => a.startsText && rest.startsText

/-- Whether every match ends at the end of the text, as far as the parts at the back
show. -/
def endsText : Shape → Bool
  | .look l => l = .textEnd
  | .empty | .text _ | .chars _ => false
  | .repeat a least _ _ => least ≠ 0 && a.endsText
  | .group _ a => a.endsText
  | .cat a rest => rest.endsText || (rest.isHollow && a.endsText)
  | .alt a rest => a.endsText && rest.endsText

/-- The texts of a choice that has nothing but texts as branches. -/
def words? : Shape → Option (List (List Char))
  | .text cs => some [cs]
  | .alt (.text cs) rest => rest.words?.map (cs :: ·)
  | _ => none

end Shape

end ArchiveScout.Regex
