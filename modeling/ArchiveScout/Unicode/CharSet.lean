import ArchiveScout.Unicode.CaseFold
import ArchiveScout.Unicode.Ranges

/-!
# ArchiveScout.Unicode.CharSet

**Sets of characters.** A set is an expression over ranges: sets are united,
intersected and subtracted, negated, and closed under letter case. `has` decides
membership of a code point, and `toRanges` gives the characters as ranges in normal
form.
-/

namespace ArchiveScout.Unicode

/-- A set of characters. -/
inductive CharSet where
  | ranges (rs : Ranges)
  | union (a b : CharSet)
  | inter (a b : CharSet)
  | diff (a b : CharSet)
  | symDiff (a b : CharSet)
  | compl (a : CharSet)
  /-- The characters that differ only in case from a member. -/
  | fold (a : CharSet)
  /-- `fold`, for the letters of ASCII only. -/
  | foldAscii (a : CharSet)
deriving Repr

namespace CharSet

/-- No character. -/
def empty : CharSet := .ranges []

/-- One character. -/
def single (c : Char) : CharSet := .ranges [(c.toNat, c.toNat)]

/-- The characters from `lo` to `hi`. -/
def span (lo hi : Char) : CharSet := .ranges [(lo.toNat, hi.toNat)]

/-- A set that is written as ranges. -/
def ofText (text : String) : CharSet := .ranges (.ofText text)

/-- Several sets as one. -/
def unionOf : List CharSet → CharSet
  | [] => .empty
  | [a] => a
  | a :: rest => .union a (unionOf rest)

/-- Every character. -/
def all : CharSet := .compl empty

/-- The line feed. -/
def lineFeed : CharSet := .ranges [(0x0A, 0x0A)]

/-- The carriage return and the line feed. -/
def lineEnds : CharSet := .ranges [(0x0A, 0x0A), (0x0D, 0x0D)]

/-- The ASCII letter that differs from `c` in case, and `c` itself. -/
def asciiFoldGroup (c : Nat) : List Nat :=
  if 0x41 ≤ c && c ≤ 0x5A then [c, c + 0x20]
  else if 0x61 ≤ c && c ≤ 0x7A then [c - 0x20, c]
  else [c]

/-- Whether a code point is in the set. -/
def has : CharSet → Nat → Bool
  | .ranges rs, c => rs.has c
  | .union a b, c => a.has c || b.has c
  | .inter a b, c => a.has c && b.has c
  | .diff a b, c => a.has c && !b.has c
  | .symDiff a b, c => a.has c != b.has c
  | .compl a, c => !a.has c
  | .fold a, c => (foldGroup c).any a.has
  | .foldAscii a, c => (asciiFoldGroup c).any a.has

/-- The members of groups that have a member in a set, each as a range. -/
def touched (groups : List (List Nat)) (rs : Ranges) : Ranges :=
  (groups.filter fun group => group.any rs.has).flatten.map fun c => (c, c)

/-- The pairs of letters of ASCII that differ only in case. -/
def asciiFoldGroups : List (List Nat) := (List.range 26).map fun i => asciiFoldGroup (0x41 + i)

/-- The characters of the set as ranges in normal form. -/
def toRanges : CharSet → Ranges
  | .ranges rs => rs.normal
  | .union a b => a.toRanges.union b.toRanges
  | .inter a b => a.toRanges.inter b.toRanges
  | .diff a b => a.toRanges.inter b.toRanges.complement
  | .symDiff a b =>
    (a.toRanges.union b.toRanges).inter (a.toRanges.inter b.toRanges).complement
  | .compl a => a.toRanges.complement
  | .fold a => a.toRanges.union (touched foldGroups a.toRanges)
  | .foldAscii a => a.toRanges.union (touched asciiFoldGroups a.toRanges)

/-- The set written out as ranges. -/
def flat (a : CharSet) : CharSet := .ranges a.toRanges

/-- Whether the set, taken as a set of bytes, holds ASCII only. -/
def isAsciiOnly (a : CharSet) : Bool :=
  (List.range 128).all fun i => !a.has (128 + i)

end CharSet

end ArchiveScout.Unicode
