/-!
# ArchiveScout.Text.Utf8

**Reading UTF-8.** The bytes are read one by one; `Pending` says which bytes may come
next in a character that has begun. Where the bytes break off or do not fit, the part
read so far counts as one piece of damage, and reading goes on with the byte that did
not fit.
-/

namespace ArchiveScout.Text

/-- A character that has begun: how many bytes are missing, between which bounds the
next one lies, and the bits read so far. -/
structure Pending where
  missing : Nat
  lo : Nat
  hi : Nat
  bits : Nat

/-- What a byte begins. -/
inductive Lead where
  | char (c : Char)
  | pending (p : Pending)
  | damage

/-- What a byte begins at the start of a character. -/
def leadOf (b : UInt8) : Lead :=
  let n := b.toNat
  if n < 0x80 then .char (Char.ofNat n)
  else if n < 0xC2 then .damage
  else if n < 0xE0 then .pending ⟨1, 0x80, 0xBF, n % 0x20⟩
  else if n = 0xE0 then .pending ⟨2, 0xA0, 0xBF, 0⟩
  else if n = 0xED then .pending ⟨2, 0x80, 0x9F, 0xD⟩
  else if n < 0xF0 then .pending ⟨2, 0x80, 0xBF, n % 0x10⟩
  else if n = 0xF0 then .pending ⟨3, 0x90, 0xBF, 0⟩
  else if n < 0xF4 then .pending ⟨3, 0x80, 0xBF, n % 0x8⟩
  else if n = 0xF4 then .pending ⟨3, 0x80, 0x8F, 4⟩
  else .damage

/-- The characters of some bytes; `none` stands for a piece of damage. -/
def decodeFrom : Option Pending → List UInt8 → List (Option Char)
  | none, [] => []
  | some _, [] => [none]
  | none, b :: bs =>
    match leadOf b with
    | .char c => some c :: decodeFrom none bs
    | .pending p => decodeFrom (some p) bs
    | .damage => none :: decodeFrom none bs
  | some p, b :: bs =>
    if p.lo ≤ b.toNat ∧ b.toNat ≤ p.hi then
      let bits := p.bits * 0x40 + b.toNat % 0x40
      if p.missing ≤ 1 then some (Char.ofNat bits) :: decodeFrom none bs
      else decodeFrom (some ⟨p.missing - 1, 0x80, 0xBF, bits⟩) bs
    else none :: match leadOf b with
      | .char c => some c :: decodeFrom none bs
      | .pending p => decodeFrom (some p) bs
      | .damage => none :: decodeFrom none bs

/-- The text of some bytes, if they are UTF-8. -/
def decode? (bytes : List UInt8) : Option String :=
  ((decodeFrom none bytes).mapM id).map String.ofList

/-- The text of some bytes, with the replacement character for damage. -/
def decodeLossy (bytes : List UInt8) : String :=
  String.ofList ((decodeFrom none bytes).map fun c => c.getD '\ufffd')

/-- The bytes of a text. -/
def encode (text : String) : List UInt8 := text.toUTF8.toList

/-- Splits at the line feeds; what follows the last one is a line if it is not empty.
A carriage return at the end of a line is dropped. -/
def linesFrom : List Char → List Char → List (List Char)
  | [], [] => []
  | line, [] => [line.reverse]
  | line, '\n' :: cs =>
    (match line with
      | '\r' :: line => line.reverse
      | line => line.reverse) :: linesFrom [] cs
  | line, c :: cs => linesFrom (c :: line) cs

/-- The lines of a text. -/
def lines (text : String) : List String := (linesFrom [] text.toList).map String.ofList

end ArchiveScout.Text
