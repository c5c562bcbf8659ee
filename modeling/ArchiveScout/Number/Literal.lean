import ArchiveScout.Number.Shortest
import ArchiveScout.Text.Blank
import ArchiveScout.Text.Case
import ArchiveScout.Text.Split

/-!
# ArchiveScout.Number.Literal

**Number literals of a search.** A literal keeps the bit pattern of its value
together with its kind, because numbers in class files are compared by bit pattern:
`1.5f` and `1.5d` are different literals. Two literals are the same number when kind
and bits agree, however they were spelled.

Reading trims the text and ignores case. One trailing `l` marks a long and is only
allowed on integers. Then the first form that fits decides: hexadecimal digits after
`0x` are an integer; a trailing `f` makes a float; a trailing `d` or a point makes a
double; anything else is a decimal integer. Integers have 64 bits.
-/

namespace ArchiveScout.Number

/-- The kind of a literal. -/
inductive LiteralKind where
  | integer
  | float
  | double
deriving DecidableEq, Repr

/-- A number literal: its spelling, its kind, and its pattern of 64 bits (the
patterns of floats are extended with zeros). -/
structure Literal where
  raw : String
  kind : LiteralKind
  bits : Nat
deriving DecidableEq, Repr

namespace Literal

/-- How many patterns of 64 bits there are. -/
def wordCount : Nat := Nat.pow 2 64

/-- Two's complement pattern of 64 bits. -/
def wordOf (v : Int) : Nat := (v % wordCount).toNat

/-- The value of a pattern in two's complement. -/
def ofWord (bits : Nat) : Int := if 2 * bits < wordCount then bits else (bits : Int) - wordCount

/-- The literal of an integer, spelled in base ten. -/
def ofInteger (v : Int) : Literal :=
  ⟨toString v, .integer, wordOf v⟩

/-- Whether two literals stand for the same number. -/
def same (a b : Literal) : Bool := a.kind == b.kind && a.bits == b.bits

/-- The value in base ten; a float ends in `f` and a double in `d`. -/
def display (x : Literal) : String :=
  match x.kind with
  | .integer => toString (ofWord x.bits)
  | .float => String.ofList (Format.single.text x.bits ++ ['f'])
  | .double => String.ofList (Format.double.text x.bits ++ ['d'])

/-- An integer of 64 bits after `0x`, with an optional sign in front. -/
def hexadecimal? (cs : List Char) : Option (Option Int) :=
  match takeSign cs with
  | (negative, '0' :: 'x' :: digits) =>
    (natural? 16 digits).map fun n =>
      (some (if negative then -(n : Int) else n)).filter (fitsSigned 64)
  | _ => none

/-- A decimal fraction in a binary format. Numbers that are words are none. -/
def fractionBits? (f : Format) (cs : List Char) : Option Nat :=
  if cs.any fun c => c.isAlpha && c != 'e' then none else f.read? cs

/-- The kind and bits of a literal in small letters whose long mark, if any, is
already taken off. -/
def value? (num : List Char) (long : Bool) : Option (LiteralKind × Nat) :=
  match hexadecimal? num with
  | some v => v.map fun v => (.integer, wordOf v)
  | none =>
    if num.getLast? = some 'f' then
      if long then none
      else (fractionBits? .single num.dropLast).map (LiteralKind.float, ·)
    else if num.getLast? = some 'd' ∨ '.' ∈ num then
      if long then none
      else
        let body := if num.getLast? = some 'd' then num.dropLast else num
        (fractionBits? .double body).map (LiteralKind.double, ·)
    else (signed? 64 10 num).map fun v => (.integer, wordOf v)

/-- Reads a literal; `none` when the text is no number. -/
def parse? (text : String) : Option Literal :=
  let small := Text.lower (Text.trim text.toList)
  let long := small.getLast? = some 'l'
  let num := if long then small.dropLast else small
  (value? num long).map fun (kind, bits) => ⟨text, kind, bits⟩

end Literal

end ArchiveScout.Number
