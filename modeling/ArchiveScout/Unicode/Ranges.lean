/-!
# ArchiveScout.Unicode.Ranges

**Sets of code points given by ranges.** A set is written as in the data files of
the standard: hexadecimal code points and ranges `lo-hi`, between blanks. A list of
ranges may be in any order and overlap; `normal` gives the one list of a set whose
ranges ascend, do not touch and hold no surrogates.
-/

namespace ArchiveScout.Unicode

/-- Inclusive ranges of code points. -/
abbrev Ranges := List (Nat × Nat)

/-- The value of a hexadecimal digit in capitals or small letters. -/
def hexValue (c : Char) : Nat := if c.isDigit then c.toNat - 48 else c.toUpper.toNat - 55

/-- A hexadecimal number in capitals or small letters. -/
def hexNat (cs : List Char) : Nat := cs.foldl (fun n c => n * 16 + hexValue c) 0

/-- The last code point. -/
def lastCodePoint : Nat := 0x10FFFF

/-- The code points that stand for no character. -/
def surrogates : Nat × Nat := (0xD800, 0xDFFF)

namespace Ranges

/-- Whether a code point lies in one of the ranges. -/
def has (rs : Ranges) (c : Nat) : Bool := rs.any fun (lo, hi) => lo ≤ c && c ≤ hi

/-- Reads ranges. `lo` is the lower end of a range whose hyphen has been read, and `n`
the number that is being read. -/
def read (lo n : Option Nat) : List Char → Ranges
  | [] => match n with
    | some n => [(lo.getD n, n)]
    | none => []
  | c :: cs =>
    if c = '-' then read n none cs
    else if c = ' ' ∨ c = '\n' then
      match n with
      | some n => (lo.getD n, n) :: read none none cs
      | none => read none none cs
    else read lo (some (n.getD 0 * 16 + hexValue c)) cs

/-- Reads ranges: code points and `lo-hi`, between blanks. -/
def ofText (text : String) : Ranges := read none none text.toList

/-- One range more, put together with the first one if they touch. -/
def join (rs : Ranges) (r : Nat × Nat) : Ranges :=
  match rs with
  | [] => [r]
  | (lo, hi) :: rest =>
    if r.1 ≤ hi + 1 then (lo, max hi r.2) :: rest else r :: (lo, hi) :: rest

/-- A range without surrogates. -/
def withoutSurrogates (r : Nat × Nat) : Ranges :=
  [(r.1, min r.2 (surrogates.1 - 1)), (max r.1 (surrogates.2 + 1), r.2)].filter
    fun r => r.1 ≤ r.2

/-- The ranges of a set that ascend, do not touch and hold no surrogates. -/
def normal (rs : Ranges) : Ranges :=
  (((rs.mergeSort fun a b => decide (a.1 ≤ b.1)).foldl join []).reverse).flatMap
    withoutSurrogates

/-- What lies between ascending ranges, from the code point `start` on. -/
def gapsFrom (start : Nat) : Ranges → Ranges
  | [] => if start ≤ lastCodePoint then [(start, lastCodePoint)] else []
  | (lo, hi) :: rest =>
    if start < lo then (start, lo - 1) :: gapsFrom (hi + 1) rest else gapsFrom (hi + 1) rest

/-- The characters outside a set in normal form. -/
def complement (rs : Ranges) : Ranges := (gapsFrom 0 rs).flatMap withoutSurrogates

/-- The characters in either of two sets. -/
def union (a b : Ranges) : Ranges := (a ++ b).normal

/-- The characters in both of two sets in normal form. -/
def inter (a b : Ranges) : Ranges := (a.complement.union b.complement).complement

end Ranges

/-- The words between blanks and line ends. -/
def wordsOf (text : String) : List (List Char) :=
  (text.toList.splitBy fun a b => (a == ' ' || a == '\n') == (b == ' ' || b == '\n')).filter
    fun w => w.any fun c => c != ' ' && c != '\n'

end ArchiveScout.Unicode
