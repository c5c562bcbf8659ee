import ArchiveScout.Regex.Node

/-!
# ArchiveScout.Regex.Match

**Deciding whether an expression matches.** A set of places of a text is kept as the
bits of a natural number. `ends w r ps` is the set of the places to which `r` leads
from a place of `ps`, so a search that is anchored nowhere starts from all places and
asks whether any is reached. No order of preference and no backtracking is involved;
a repetition stops as soon as a further round reaches no new place.
-/

namespace ArchiveScout.Regex

open ArchiveScout.Unicode (CharSet)

/-- Places of a text: place `i` belongs to the set when bit `i` is one. -/
abbrev Places := Nat

/-- The places behind a character of `s` that follows a place of `ps`. -/
def stepOver (s : CharSet) : List Char → Places → Places
  | [], _ => 0
  | c :: cs, ps =>
    2 * (stepOver s cs (ps / 2) + if ps % 2 = 1 && s.has c.toNat then 1 else 0)

/-- The places of `ps` where an assertion holds; `before` is the character in front
of the text. -/
def holdingAt (l : Look) (before : Option Char) : List Char → Places → Places
  | [], ps => if ps % 2 = 1 && l.holds before none then 1 else 0
  | c :: cs, ps =>
    2 * holdingAt l (some c) cs (ps / 2) +
      if ps % 2 = 1 && l.holds before (some c) then 1 else 0

/-- `f` applied `n` times, or until nothing is left. -/
def times (f : Places → Places) : Nat → Places → Places
  | 0, ps => ps
  | n + 1, ps => if ps = 0 then 0 else times f n (f ps)

/-- What `f` reaches in at most `n` rounds. -/
def within (f : Places → Places) : Nat → Places → Places
  | 0, ps => ps
  | n + 1, ps =>
    let next := ps ||| f ps
    if next = ps then ps else within f n next

/-- The places to which an expression leads from the places `ps` of the text `w`. -/
def ends (w : List Char) : Node → Places → Places
  | .empty, ps => ps
  | .set s, ps => stepOver s w ps
  | .look l, ps => holdingAt l none w ps
  | .cat a b, ps => ends w b (ends w a ps)
  | .alt a b, ps => ends w a ps ||| ends w b ps
  | .repeat a least none, ps => within (ends w a) (w.length + 1) (times (ends w a) least ps)
  | .repeat a least (some most), ps =>
    within (ends w a) (most - least) (times (ends w a) least ps)

/-- All places of a text. -/
def allPlaces (w : List Char) : Places := Nat.pow 2 (w.length + 1) - 1

/-- Whether the expression matches some part of the text. -/
def Node.isMatch (r : Node) (text : String) : Bool :=
  ends text.toList r (allPlaces text.toList) ≠ 0

end ArchiveScout.Regex
