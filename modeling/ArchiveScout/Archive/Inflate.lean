/-!
# ArchiveScout.Archive.Inflate

**Expanding compressed data.** The data is a sequence of blocks of bits: bytes as they
are, or symbols of a prefix code that stand for bytes and for repetitions of what came
before. A prefix code is given by the lengths of its codes alone; codes of one length
are counted up in the order of their symbols. Everything that does not fit gives `none`.
-/

namespace ArchiveScout.Archive

/-- Bytes of which some bits have been read, the lowest bits first. -/
structure Bits where
  bytes : List UInt8
  /-- How many bits of the first byte have been read. -/
  used : Nat := 0

namespace Bits

/-- One bit. -/
def next? (b : Bits) : Option (Bool × Bits) :=
  match b.bytes with
  | [] => none
  | byte :: rest =>
    let after := if b.used = 7 then ⟨rest, 0⟩ else ⟨b.bytes, b.used + 1⟩
    some (byte.toNat.testBit b.used, after)

/-- A number of `width` bits, the lowest bit first. -/
def number? : Nat → Bits → Option (Nat × Bits)
  | 0, b => some (0, b)
  | width + 1, b => do
    let (low, b) ← b.next?
    let (high, b) ← number? width b
    return (low.toNat + 2 * high, b)

/-- The rest of the first byte is passed over. -/
def align (b : Bits) : Bits := if b.used = 0 then b else ⟨b.bytes.drop 1, 0⟩

/-- How many bits are left, at most. -/
def size (b : Bits) : Nat := 8 * b.bytes.length

end Bits

/-- A prefix code: how many codes there are of each length from one on, and the symbols
in the order of their codes. -/
structure PrefixCode where
  counts : List Nat
  symbols : Array Nat

namespace PrefixCode

/-- The longest length of a code. -/
def maxLength : Nat := 15

/-- The code whose symbols have these lengths; symbols of length zero are not used. -/
def ofLengths (lengths : List Nat) : PrefixCode :=
  let sizes := (List.range maxLength).map (· + 1)
  { counts := sizes.map fun size => lengths.count size
    symbols := (sizes.flatMap fun size =>
      lengths.zipIdx.filterMap fun (length, symbol) =>
        if length = size then some symbol else none).toArray }

/-- Reads a symbol, given the counts of the lengths that are still possible, the bits
read so far as a number, the first code of the length before and the symbols in front
of it. -/
def readFrom (symbols : Array Nat) :
    List Nat → (code first index : Nat) → Bits → Option (Nat × Bits)
  | [], _, _, _, _ => none
  | count :: counts, code, first, index, b => do
    let (bit, b) ← b.next?
    let code := 2 * code + bit.toNat
    let first := 2 * first
    if code < first then none
    else if code < first + count then
      let symbol ← symbols[index + (code - first)]?
      return (symbol, b)
    else readFrom symbols counts code (first + count) (index + count) b

/-- Reads a symbol. -/
def read? (c : PrefixCode) (b : Bits) : Option (Nat × Bits) :=
  readFrom c.symbols c.counts 0 0 0 b

end PrefixCode

/-- Pairs of a base and a number of further bits: the bases follow one another. -/
def basesFrom (base : Nat) : List Nat → List (Nat × Nat)
  | [] => []
  | width :: widths => (base, width) :: basesFrom (base + Nat.pow 2 width) widths

/-- The lengths of repetitions, by symbol from 257 on. -/
def lengthBases : List (Nat × Nat) :=
  basesFrom 3 [0, 0, 0, 0, 0, 0, 0, 0, 1, 1, 1, 1, 2, 2, 2, 2, 3, 3, 3, 3, 4, 4, 4, 4, 5, 5,
    5, 5] ++ [(258, 0)]

/-- The distances of repetitions, by symbol. -/
def distanceBases : List (Nat × Nat) :=
  basesFrom 1 [0, 0, 0, 0, 1, 1, 2, 2, 3, 3, 4, 4, 5, 5, 6, 6, 7, 7, 8, 8, 9, 9, 10, 10, 11,
    11, 12, 12, 13, 13]

/-- A base with its further bits. -/
def readBase? (bases : List (Nat × Nat)) (symbol : Nat) (b : Bits) : Option (Nat × Bits) := do
  let (base, width) ← bases[symbol]?
  let (more, b) ← b.number? width
  return (base + more, b)

/-- `length` bytes more, each the one `distance` in front of it. -/
def copyBack (distance : Nat) : Nat → Array UInt8 → Option (Array UInt8)
  | 0, out => some out
  | length + 1, out =>
    if distance = 0 ∨ out.size < distance then none
    else match out[out.size - distance]? with
      | some byte => copyBack distance length (out.push byte)
      | none => none

/-- Reads symbols up to the end of their block. The fuel bounds their number. -/
def readSymbols (literals distances : PrefixCode) :
    Nat → Array UInt8 → Bits → Option (Array UInt8 × Bits)
  | 0, _, _ => none
  | fuel + 1, out, b => do
    let (symbol, b) ← literals.read? b
    if symbol < 256 then readSymbols literals distances fuel (out.push symbol.toUInt8) b
    else if symbol = 256 then return (out, b)
    else
      let (length, b) ← readBase? lengthBases (symbol - 257) b
      let (place, b) ← distances.read? b
      let (distance, b) ← readBase? distanceBases place b
      let out ← copyBack distance length out
      readSymbols literals distances fuel out b

/-- The codes of blocks that do not bring their own. -/
def fixedCodes : PrefixCode × PrefixCode :=
  (.ofLengths (List.replicate 144 8 ++ List.replicate 112 9 ++ List.replicate 24 7 ++
    List.replicate 8 8), .ofLengths (List.replicate 30 5))

/-- The order in which the lengths of the code for lengths are written. -/
def lengthOrder : List Nat := [16, 17, 18, 0, 8, 7, 9, 6, 10, 5, 11, 4, 12, 3, 13, 2, 14, 1, 15]

/-- Reads `n` numbers of three bits. -/
def readTriples : Nat → Bits → Option (List Nat × Bits)
  | 0, b => some ([], b)
  | n + 1, b => do
    let (value, b) ← b.number? 3
    let (values, b) ← readTriples n b
    return (value :: values, b)

/-- Reads lengths of codes, with the last one in front, until there are `total`. The fuel
bounds the number of symbols. -/
def readLengths (code : PrefixCode) (total : Nat) :
    Nat → List Nat → Bits → Option (List Nat × Bits)
  | 0, _, _ => none
  | fuel + 1, lengths, b =>
    if total ≤ lengths.length then
      if lengths.length = total then some (lengths.reverse, b) else none
    else do
      let (symbol, b) ← code.read? b
      if symbol < 16 then readLengths code total fuel (symbol :: lengths) b
      else
        let (value, base, width) ← match symbol, lengths with
          | 16, last :: _ => some (last, 3, 2)
          | 17, _ => some (0, 3, 3)
          | 18, _ => some (0, 11, 7)
          | _, _ => none
        let (more, b) ← b.number? width
        readLengths code total fuel (List.replicate (base + more) value ++ lengths) b

/-- Reads the codes that a block brings. -/
def readCodes (b : Bits) : Option ((PrefixCode × PrefixCode) × Bits) := do
  let (literals, b) ← b.number? 5
  let (distances, b) ← b.number? 5
  let (count, b) ← b.number? 4
  let (triples, b) ← readTriples (count + 4) b
  let lengthOf (symbol : Nat) : Nat := ((lengthOrder.zip triples).lookup symbol).getD 0
  let code := PrefixCode.ofLengths ((List.range 19).map lengthOf)
  let total := literals + 257 + (distances + 1)
  let (lengths, b) ← readLengths code total (total + 1) [] b
  return ((.ofLengths (lengths.take (literals + 257)),
    .ofLengths (lengths.drop (literals + 257))), b)

/-- Reads the bytes of a block that is not compressed. -/
def readPlain (out : Array UInt8) (b : Bits) : Option (Array UInt8 × Bits) := do
  let (length, b) ← b.align.number? 16
  let (check, b) ← b.number? 16
  if length + check ≠ 0xFFFF ∨ b.bytes.length < length then none
  else return (out ++ b.bytes.take length, ⟨b.bytes.drop length, 0⟩)

/-- Reads blocks up to the last one. The fuel bounds their number. -/
def readBlocks : Nat → Array UInt8 → Bits → Option (Array UInt8)
  | 0, _, _ => none
  | fuel + 1, out, b => do
    let (last, b) ← b.next?
    let (kind, b) ← b.number? 2
    let (out, b) ← match kind with
      | 0 => readPlain out b
      | 1 => readSymbols fixedCodes.1 fixedCodes.2 (b.size + 1) out b
      | 2 => do
        let ((literals, distances), b) ← readCodes b
        readSymbols literals distances (b.size + 1) out b
      | _ => none
    if last then return out else readBlocks fuel out b

/-- The expanded data. -/
def inflate? (data : List UInt8) : Option (List UInt8) :=
  (readBlocks (8 * data.length + 1) #[] ⟨data, 0⟩).map Array.toList

end ArchiveScout.Archive
