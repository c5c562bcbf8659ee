import ArchiveScout.Regex.Property

/-!
# ArchiveScout.Regex.Node

**Regular expressions and what they match.** An expression is read from a pattern
with all flags already resolved, so it consists of character sets, assertions about
the place between two characters, and the three ways to combine expressions.

`Matches w r i j` says that `r` matches the part of the text `w` from place `i` to
place `j`. Assertions look at the whole text, so a match is a relation between places
of one text, not a set of words. How a search prefers one match over another is left
out: only whether there is a match is ever asked.
-/

namespace ArchiveScout.Regex

open ArchiveScout.Unicode (CharSet)

/-- Assertions about a place. -/
inductive Look where
  /-- The place before the first character. -/
  | textStart
  /-- The place after the last character. -/
  | textEnd
  /-- The start of the text, or behind a line feed. -/
  | lineStart
  /-- The end of the text, or in front of a line feed. -/
  | lineEnd
  /-- `lineStart` where a carriage return, alone or before a line feed, ends a line too. -/
  | lineStartCR
  /-- `lineEnd` where a carriage return, alone or before a line feed, ends a line too. -/
  | lineEndCR
  /-- Between a word character and something else. -/
  | wordEdge (ascii : Bool)
  /-- Not between a word character and something else. -/
  | noWordEdge (ascii : Bool)
  /-- In front of a word character and behind something else. -/
  | wordStart (ascii : Bool)
  /-- Behind a word character and in front of something else. -/
  | wordEnd (ascii : Bool)
  /-- Not behind a word character. -/
  | wordStartHalf (ascii : Bool)
  /-- Not in front of a word character. -/
  | wordEndHalf (ascii : Bool)
deriving DecidableEq, Repr

/-- Whether a neighbour of a place is a word character. -/
def isWordAt (ascii : Bool) (c : Option Char) : Bool :=
  match c with
  | some c => (if ascii then asciiWordChars else wordChars).has c.toNat
  | none => false

/-- Whether an assertion holds between two neighbours; `none` is the end of the text. -/
def Look.holds (look : Look) (before after : Option Char) : Bool :=
  match look with
  | .textStart => before.isNone
  | .textEnd => after.isNone
  | .lineStart => before.isNone || before == some '\n'
  | .lineEnd => after.isNone || after == some '\n'
  | .lineStartCR =>
    before.isNone || before == some '\n' || (before == some '\r' && after != some '\n')
  | .lineEndCR =>
    after.isNone || after == some '\r' || (after == some '\n' && before != some '\r')
  | .wordEdge ascii => isWordAt ascii before != isWordAt ascii after
  | .noWordEdge ascii => isWordAt ascii before == isWordAt ascii after
  | .wordStart ascii => !isWordAt ascii before && isWordAt ascii after
  | .wordEnd ascii => isWordAt ascii before && !isWordAt ascii after
  | .wordStartHalf ascii => !isWordAt ascii before
  | .wordEndHalf ascii => !isWordAt ascii after

/-- A regular expression. -/
inductive Node where
  /-- The empty word. -/
  | empty
  /-- One character of a set. -/
  | set (chars : CharSet)
  /-- An assertion. -/
  | look (look : Look)
  /-- One expression after another. -/
  | cat (a b : Node)
  /-- One of two expressions. -/
  | alt (a b : Node)
  /-- An expression `least` times or more, at most `most` times where that is given. -/
  | repeat (a : Node) (least : Nat) (most : Option Nat)
deriving Repr

/-- Whether an expression can match nothing but the empty word. -/
def Node.isHollow : Node → Bool
  | .empty | .look _ => true
  | .set _ => false
  | .cat a b | .alt a b => a.isHollow && b.isHollow
  | .repeat a _ most => a.isHollow || most == some 0

/-- A repetition; of what can match nothing but the empty word one round is enough. -/
def Node.repeated (a : Node) (least : Nat) (most : Option Nat) : Node :=
  if a.isHollow then .repeat a (min least 1) (some (min (most.getD 1) 1))
  else .repeat a least most

/-- The neighbours of a place of a text. -/
def neighbours (w : List Char) (i : Nat) : Option Char × Option Char :=
  (if i = 0 then none else w[i - 1]?, w[i]?)

mutual

/-- `Matches w r i j`: the expression `r` matches the text `w` from place `i` to
place `j`. -/
inductive Matches (w : List Char) : Node → Nat → Nat → Prop where
  | empty {i : Nat} : i ≤ w.length → Matches w .empty i i
  | set {s : CharSet} {i : Nat} {c : Char} :
      w[i]? = some c → s.has c.toNat → Matches w (.set s) i (i + 1)
  | look {l : Look} {i : Nat} :
      i ≤ w.length → l.holds (neighbours w i).1 (neighbours w i).2 →
      Matches w (.look l) i i
  | cat {a b : Node} {i j k : Nat} :
      Matches w a i j → Matches w b j k → Matches w (.cat a b) i k
  | left {a b : Node} {i j : Nat} : Matches w a i j → Matches w (.alt a b) i j
  | right {a b : Node} {i j : Nat} : Matches w b i j → Matches w (.alt a b) i j
  | repeat {a : Node} {least n i j : Nat} {most : Option Nat} :
      MatchesTimes w a n i j → least ≤ n → (∀ m, most = some m → n ≤ m) →
      Matches w (.repeat a least most) i j

/-- `MatchesTimes w a n i j`: `n` matches of `a` in a row lead from place `i` to
place `j`. -/
inductive MatchesTimes (w : List Char) : Node → Nat → Nat → Nat → Prop where
  | zero {a : Node} {i : Nat} : i ≤ w.length → MatchesTimes w a 0 i i
  | succ {a : Node} {n i j k : Nat} :
      Matches w a i j → MatchesTimes w a n j k → MatchesTimes w a (n + 1) i k

end

/-- The expression matches the whole text. -/
def MatchesWhole (r : Node) (w : List Char) : Prop := Matches w r 0 w.length

/-- The expression matches some part of the text. -/
def MatchesSomewhere (r : Node) (w : List Char) : Prop := ∃ i j, Matches w r i j

end ArchiveScout.Regex
