import ArchiveScout.Number.Numeral

/-!
# ArchiveScout.Number.Binary

**Binary floating-point formats.** A format is given by its precision (bits of the
significand, the leading one included) and the width of its exponent field. The
magnitudes of a format are its bit patterns without the sign, as natural numbers:
counting up from zero, they run through the subnormal numbers, the normal numbers
and, last, infinity, in the order of their values.

`ofRatio` rounds a ratio of natural numbers to the nearest magnitude, a tie to the
even pattern. `ofFraction` reads a decimal fraction with that rounding, and `read?` also
the words for infinity and for what is no number.
-/

namespace ArchiveScout.Number

/-- A binary format: `precision` bits of significand, `width` bits of exponent. -/
structure Format where
  precision : Nat
  width : Nat
deriving DecidableEq, Repr

namespace Format

/-- The format of 32 bits. -/
def single : Format := ⟨24, 8⟩

/-- The format of 64 bits. -/
def double : Format := ⟨53, 11⟩

/-- The least positive magnitude is two to the power of minus `scale`. -/
def scale (f : Format) : Nat := Nat.pow 2 (f.width - 1) - 2 + (f.precision - 1)

/-- The pattern of infinity, the first that stands for no finite magnitude. -/
def infinity (f : Format) : Nat := (Nat.pow 2 f.width - 1) * Nat.pow 2 (f.precision - 1)

/-- The pattern that stands for no number. -/
def notNumber (f : Format) : Nat := f.infinity + Nat.pow 2 (f.precision - 2)

/-- The place of the sign bit. -/
def signBit (f : Format) : Nat := Nat.pow 2 (f.width + f.precision - 1)

/-- The shift of a pattern: its value counts units of two to this power. -/
def shiftOf (f : Format) (bits : Nat) : Nat := bits / Nat.pow 2 (f.precision - 1) - 1

/-- The value of a finite pattern, in units of the least positive magnitude. -/
def unitsOf (f : Format) (bits : Nat) : Nat :=
  (bits - f.shiftOf bits * Nat.pow 2 (f.precision - 1)) * Nat.pow 2 (f.shiftOf bits)

end Format

/-- The quotient rounded to the nearest integer, a tie to the even one. -/
def roundHalfEven (num den : Nat) : Nat :=
  let q := num / den
  let twice := 2 * (num % den)
  if twice < den then q
  else if den < twice then q + 1
  else q + q % 2

/-- The magnitude nearest to `num / den`, a tie to the even pattern. -/
def Format.ofRatio (f : Format) (num den : Nat) : Nat :=
  let scaled := num * Nat.pow 2 f.scale
  let shift := (scaled / den).log2 - (f.precision - 1)
  min f.infinity
    (shift * Nat.pow 2 (f.precision - 1) + roundHalfEven scaled (den * Nat.pow 2 shift))

/-- Magnitudes beyond ten to this power are infinite in the formats used here, and
those below ten to minus this power are zero. -/
def decimalRange : Nat := 400

/-- The magnitude nearest to `digits` units of the power of ten `exponent`. -/
def Format.ofDecimal (f : Format) (digits : Nat) (exponent : Int) : Nat :=
  let size : Int := (Nat.toDigits 10 digits).length
  if digits = 0 ∨ exponent + size < -decimalRange then 0
  else if (decimalRange : Int) < exponent + size then f.infinity
  else if 0 ≤ exponent then f.ofRatio (digits * Nat.pow 10 exponent.toNat) 1
  else f.ofRatio digits (Nat.pow 10 (-exponent).toNat)

/-- A magnitude with a sign. -/
def Format.withSign (f : Format) (negative : Bool) (bits : Nat) : Nat :=
  (if negative then f.signBit else 0) + bits

/-- The bit pattern of a decimal fraction. -/
def Format.ofFraction (f : Format) (x : Fraction) : Nat :=
  f.withSign x.negative (f.ofDecimal x.digits x.exponent)

/-- The words of numbers that are no decimal fractions. -/
def Format.ofWord? (f : Format) (word : String) : Option Nat :=
  if word = "inf" ∨ word = "infinity" then some f.infinity
  else if word = "nan" then some f.notNumber
  else none

/-- The bit pattern of a number written with small letters. -/
def Format.read? (f : Format) (cs : List Char) : Option Nat :=
  match fraction? cs with
  | some x => some (f.ofFraction x)
  | none =>
    let (negative, word) := takeSign cs
    (f.ofWord? (String.ofList word)).map (f.withSign negative)

end ArchiveScout.Number
