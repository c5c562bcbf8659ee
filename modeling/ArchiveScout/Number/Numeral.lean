/-!
# ArchiveScout.Number.Numeral

**Numerals.** Integers in base ten and sixteen with an optional sign, and decimal
fractions: a sign, digits with an optional point (at least one digit on one side)
and an optional exponent. A fraction is kept exactly, as a natural number of units
of a power of ten.
-/

namespace ArchiveScout.Number

/-- The value of one digit, hexadecimal ones in small letters. -/
def digitValue? (c : Char) : Option Nat :=
  if '0' ≤ c ∧ c ≤ '9' then some (c.toNat - '0'.toNat)
  else if 'a' ≤ c ∧ c ≤ 'f' then some (c.toNat - 'a'.toNat + 10)
  else none

/-- Whether `c` is a digit of `base`. -/
def isDigitOf (base : Nat) (c : Char) : Bool :=
  match digitValue? c with
  | some d => d < base
  | none => false

/-- The number that digits stand for; characters that are no digits count as zero. -/
def ofDigits (base : Nat) (cs : List Char) : Nat :=
  cs.foldl (fun acc c => acc * base + (digitValue? c).getD 0) 0

/-- A natural number in `base`: one digit or more and nothing else. -/
def natural? (base : Nat) (cs : List Char) : Option Nat :=
  if cs ≠ [] ∧ cs.all (isDigitOf base) then some (ofDigits base cs) else none

/-- A leading sign and the rest of the text; `true` stands for minus. -/
def takeSign : List Char → Bool × List Char
  | '-' :: cs => (true, cs)
  | '+' :: cs => (false, cs)
  | cs => (false, cs)

/-- An integer in `base` with an optional sign. -/
def integer? (base : Nat) (cs : List Char) : Option Int :=
  let (negative, digits) := takeSign cs
  (natural? base digits).map fun n => if negative then -(n : Int) else n

/-- The integers of `width` bits in two's complement. -/
def fitsSigned (width : Nat) (v : Int) : Bool :=
  let bound : Int := (Nat.pow 2 (width - 1) : Nat)
  v < bound && -bound ≤ v

/-- An integer in `base` that fits `width` bits in two's complement. -/
def signed? (width base : Nat) (cs : List Char) : Option Int :=
  (integer? base cs).filter (fitsSigned width)

/-- A decimal fraction: `digits` units of the power of ten `exponent`. -/
structure Fraction where
  negative : Bool
  digits : Nat
  exponent : Int
deriving DecidableEq, Repr

/-- The exponent after the digits of a fraction: nothing, or `e` and an integer. -/
def exponent? : List Char → Option Int
  | [] => some 0
  | 'e' :: cs => integer? 10 cs
  | _ => none

/-- Digits, the digits after an optional point, and the rest. -/
def takeDigits (cs : List Char) : List Char × List Char × List Char :=
  let whole := cs.takeWhile (isDigitOf 10)
  match cs.dropWhile (isDigitOf 10) with
  | '.' :: rest => (whole, rest.takeWhile (isDigitOf 10), rest.dropWhile (isDigitOf 10))
  | rest => (whole, [], rest)

/-- A decimal fraction written with small letters. -/
def fraction? (cs : List Char) : Option Fraction :=
  let (negative, body) := takeSign cs
  let (whole, part, rest) := takeDigits body
  if whole = [] ∧ part = [] then none
  else (exponent? rest).map fun e =>
    { negative, digits := ofDigits 10 (whole ++ part), exponent := e - part.length }

end ArchiveScout.Number
