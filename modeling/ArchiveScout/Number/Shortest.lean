import ArchiveScout.Number.Binary

/-!
# ArchiveScout.Number.Shortest

**The shortest decimal text of a floating-point number.** Of the decimals that read
back to a given pattern those with the fewest digits are taken, of these the one
nearest to the value, and of two equally near ones the larger. The text is always
positional: digits, zeros up to the units, or a point and a fraction, never an
exponent. Should no short decimal read back, the exact decimal expansion is used,
which every finite pattern has.
-/

namespace ArchiveScout.Number

/-- A decimal magnitude: `digits` units of the power of ten `exponent`. -/
structure Magnitude where
  digits : Nat
  exponent : Int
deriving DecidableEq, Repr

/-- The ratio `num / den` divided by a power of ten, as a ratio. -/
def scaleDown (num den : Nat) (exponent : Int) : Nat × Nat :=
  if 0 ≤ exponent then (num, den * Nat.pow 10 exponent.toNat)
  else (num * Nat.pow 10 (-exponent).toNat, den)

/-- The exponent of the leading decimal digit of a ratio that is not below ten to
minus `decimalRange`. -/
def leadingExponent (num den : Nat) : Int :=
  (Nat.toDigits 10 (num * Nat.pow 10 decimalRange / den)).length - 1 - decimalRange

/-- Whether a decimal is read as the pattern. -/
def Magnitude.readsBack (m : Magnitude) (f : Format) (bits : Nat) : Bool :=
  f.ofDecimal m.digits m.exponent == bits

/-- The decimal of `count` digits, `digits` units of the power of ten `exponent`; a one with
zeros behind it has one digit too many and is written with a larger unit. -/
def Magnitude.ofDigits (count digits : Nat) (exponent : Int) : Magnitude :=
  if digits = Nat.pow 10 count then ⟨Nat.pow 10 (count - 1), exponent + 1⟩
  else ⟨digits, exponent⟩

/-- Of two decimals the one that is read as the pattern; if both are, `up` decides. -/
def Magnitude.choose? (f : Format) (bits : Nat) (below above : Magnitude) (up : Bool) :
    Option Magnitude :=
  if below.readsBack f bits then
    if above.readsBack f bits && up then some above else some below
  else if above.readsBack f bits then some above
  else none

/-- The decimal of `count` digits that reads back as `bits` and is nearest to its
value, a tie going up. -/
def nearest? (f : Format) (bits count : Nat) : Option Magnitude :=
  let num := f.unitsOf bits
  let den := Nat.pow 2 f.scale
  let exponent := leadingExponent num den - (count - 1 : Nat)
  let ratio := scaleDown num den exponent
  Magnitude.choose? f bits ⟨ratio.1 / ratio.2, exponent⟩
    (Magnitude.ofDigits count (ratio.1 / ratio.2 + 1) exponent)
    (ratio.2 ≤ 2 * (ratio.1 % ratio.2))

/-- The exact decimal expansion of a finite pattern. -/
def exactDecimal (f : Format) (bits : Nat) : Magnitude :=
  ⟨f.unitsOf bits * Nat.pow 5 f.scale, -(f.scale : Int)⟩

/-- As many digits as any number of a format of at most 53 bits needs. -/
def digitLimit : Nat := 17

/-- The decimal that is printed for a finite pattern. -/
def shortest (f : Format) (bits : Nat) : Magnitude :=
  ((List.range digitLimit).findSome? fun i => nearest? f bits (i + 1)).getD
    (exactDecimal f bits)

/-- Positional text of a decimal magnitude. -/
def Magnitude.text (m : Magnitude) : List Char :=
  let ds := Nat.toDigits 10 m.digits
  if 0 ≤ m.exponent then ds ++ List.replicate m.exponent.toNat '0'
  else
    let places := (-m.exponent).toNat
    let padded := List.replicate (places + 1 - ds.length) '0' ++ ds
    padded.take (padded.length - places) ++ '.' :: padded.drop (padded.length - places)

/-- The text of a bit pattern: the shortest decimal, `inf` for infinity, and a minus
sign where the sign bit is set. -/
def Format.text (f : Format) (bits : Nat) : List Char :=
  let magnitude := bits % f.signBit
  let body :=
    if magnitude = 0 then ['0']
    else if f.infinity ≤ magnitude then ['i', 'n', 'f']
    else (shortest f magnitude).text
  if bits < f.signBit then body else '-' :: body

end ArchiveScout.Number
