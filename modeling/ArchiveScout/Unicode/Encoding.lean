import ArchiveScout.Unicode.Ranges

/-!
# ArchiveScout.Unicode.Encoding

**Ranges of characters as sequences of ranges of bytes.** `encode` gives the bytes of a
character in UTF-8. `sequences` cuts a range of characters so that the bytes of each
piece are a product: any byte of the first range, followed by any byte of the second,
and so on.
-/

namespace ArchiveScout.Unicode

/-- A following byte that holds the lowest six bits of a number. -/
def followByte (n : Nat) : Nat := 0x80 + n % 0x40

/-- The bytes of a character in UTF-8. -/
def encode (c : Nat) : List Nat :=
  if c < 0x80 then [c]
  else if c < 0x800 then [0xC0 + c / 0x40, followByte c]
  else if c < 0x10000 then [0xE0 + c / 0x1000, followByte (c / 0x40), followByte c]
  else [0xF0 + c / 0x40000, followByte (c / 0x1000), followByte (c / 0x40), followByte c]

/-- The pieces of a range that lie in one of some bands each. -/
def splitAt (bands : Ranges) (r : Nat × Nat) : Ranges :=
  (bands.map fun (lo, hi) => (max lo r.1, min hi r.2)).filter fun (lo, hi) => lo ≤ hi

/-- The characters with one, two, three and four bytes. -/
def lengthBands : Ranges := [(0, 0x7F), (0x80, 0x7FF), (0x800, 0xFFFF), (0x10000, 0x10FFFF)]

/-- Cuts a range at the ends of blocks. What sticks out at the front or the back of
whole blocks is a piece; the whole blocks are cut at the ends of the next larger blocks. -/
def splitBlocks : List Nat → Nat × Nat → Ranges
  | [], r => [r]
  | block :: larger, (lo, hi) =>
    if lo / block = hi / block then [(lo, hi)]
    else
      let start := (lo + block - 1) / block * block
      let stop := (hi + 1) / block * block
      let front := if lo < start then [(lo, start - 1)] else []
      let back := if stop ≤ hi then [(stop, hi)] else []
      let whole := if start < stop then splitBlocks larger (start, stop - 1) else []
      front ++ whole ++ back

/-- The sizes of blocks of characters that differ in the last byte only, in the last
two, and in the last three. -/
def blockSizes : List Nat := [0x40, 0x1000, 0x40000]

/-- The pieces of a range of characters of one length. One byte alone needs no cut. -/
def pieces (r : Nat × Nat) : Ranges := if r.2 < 0x80 then [r] else splitBlocks blockSizes r

/-- A range of characters without surrogates as sequences of ranges of bytes, in
ascending order. -/
def sequences (r : Nat × Nat) : List Ranges :=
  ((splitAt lengthBands r).flatMap pieces).map fun (lo, hi) => (encode lo).zip (encode hi)

end ArchiveScout.Unicode
