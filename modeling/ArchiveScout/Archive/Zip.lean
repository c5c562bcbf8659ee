import ArchiveScout.Archive.Catalog
import ArchiveScout.Archive.Inflate
import ArchiveScout.Text.Utf8

/-!
# ArchiveScout.Archive.Zip

**Archives as bytes.** The record at the end of an archive says where its directory is;
the directory has an entry for each member, and an entry says where the data of the
member starts. Numbers are written with the lowest byte first.
-/

namespace ArchiveScout.Archive

open ArchiveScout.File (Content Member)

/-- The number that bytes stand for. -/
def littleEndian (bytes : List UInt8) : Nat :=
  bytes.foldr (fun b n => b.toNat + 256 * n) 0

/-- The number of `width` bytes at a place of a record. -/
def numberAt (record : List UInt8) (place width : Nat) : Nat :=
  littleEndian ((record.drop place).take width)

/-- The last place where a record of `endLength` bytes or more starts with `signature`,
counted from `place`. -/
def lastPlace? (signature : List UInt8) (place : Nat) : List UInt8 → Option Nat
  | [] => none
  | b :: bs =>
    (lastPlace? signature (place + 1) bs).orElse fun _ =>
      if signature.isPrefixOf (b :: bs) && endLength ≤ bs.length + 1 then some place else none

/-- An entry of the directory. -/
structure DirectoryEntry where
  name : String
  method : Nat
  packedSize : Nat
  /-- Where the header in front of the data starts. -/
  header : Nat

/-- Reads entries of the directory. -/
def readDirectory : Nat → List UInt8 → Option (List DirectoryEntry)
  | 0, _ => some []
  | n + 1, record =>
    if !([0x50, 0x4B, 0x01, 0x02] : List UInt8).isPrefixOf record then none
    else
      let nameLength := numberAt record 28 2
      let entry : DirectoryEntry :=
        { name := Text.decodeLossy ((record.drop 46).take nameLength)
          method := numberAt record 10 2
          packedSize := numberAt record 20 4
          header := numberAt record 42 4 }
      let length := 46 + nameLength + numberAt record 30 2 + numberAt record 32 2
      (readDirectory n (record.drop length)).map (entry :: ·)

/-- The member of an entry; `shift` is how far the archive starts from the start of the
data. -/
def DirectoryEntry.member? (data : List UInt8) (shift : Nat) (e : DirectoryEntry) :
    Option Member := do
  let record := data.drop (e.header + shift)
  if !([0x50, 0x4B, 0x03, 0x04] : List UInt8).isPrefixOf record then none
  let start := 30 + numberAt record 26 2 + numberAt record 28 2
  let packed := (record.drop start).take e.packedSize
  match e.method with
  | 0 => return ⟨e.name, packed⟩
  | 8 => return ⟨e.name, ← inflate? packed⟩
  | _ => none

/-- The members of an archive; `none` when the bytes are no archive that can be read. -/
def readZip? (data : List UInt8) : Option (List Member) := do
  let skipped := data.length - endReach
  let place ← lastPlace? endSignature skipped (data.drop skipped)
  let record := data.drop place
  let size := numberAt record 12 4
  let start := numberAt record 16 4
  if place < size + start then none
  let shift := place - size - start
  let entries ← readDirectory (numberAt record 10 2) (data.drop (start + shift))
  entries.mapM (·.member? data shift)

/-- The content of a file with these bytes. -/
def contentOf (data : List UInt8) : Content :=
  match readZip? data with
  | some members => .archive { members }
  | none => .bytes data

end ArchiveScout.Archive
