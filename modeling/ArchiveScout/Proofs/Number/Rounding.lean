import ArchiveScout.Number.Shortest
import Mathlib.Data.Nat.Log
import Mathlib.Tactic.Ring

/-!
# ArchiveScout.Proofs.Number.Rounding

**The printed decimal reads back.** A pattern is made up of its shift and a significand, and so is
its value; hence a ratio that is exactly the value of a finite pattern is rounded to that pattern.
The exact decimal expansion is such a ratio. It stays within the range of decimals that are looked
at, so every finite pattern has a decimal that reads back, and the printed one does, be it short or
not.
-/

namespace ArchiveScout.Number

variable {f : Format} {bits num den n : Nat}

/-! ### Digits of a number -/

theorem length_toDigits_mul_ten (hn : 0 < n) :
    (Nat.toDigits 10 (10 * n)).length = (Nat.toDigits 10 n).length + 1 := by
  have h := Nat.toDigits_append_toDigits (b := 10) (d := 0) (by decide) hn (by decide)
  rw [Nat.add_zero] at h
  rw [← h, List.length_append, Nat.toDigits_zero, List.length_singleton]

theorem length_toDigits_mul_pow (hn : 0 < n) (k : Nat) :
    (Nat.toDigits 10 (n * 10 ^ k)).length = (Nat.toDigits 10 n).length + k := by
  induction k with
  | zero => simp
  | succ k ih =>
      have hpos : 0 < n * 10 ^ k := Nat.mul_pos hn (Nat.pow_pos (by decide))
      rw [show n * 10 ^ (k + 1) = 10 * (n * 10 ^ k) by ring, length_toDigits_mul_ten hpos, ih]
      rfl

/-- As many digits stand behind the first one as the power of ten that is reached. -/
theorem lt_length_toDigits {k : Nat} (h : 10 ^ k ≤ n) : k < (Nat.toDigits 10 n).length := by
  rcases Nat.eq_zero_or_pos k with rfl | hk
  · exact Nat.length_toDigits_pos
  · exact Nat.lt_of_not_le fun hle => (Nat.length_toDigits_le_iff (by decide) hk).mp hle |>.not_ge h

/-! ### Patterns and their values -/

theorem roundHalfEven_mul (m : Nat) (hden : 0 < den) : roundHalfEven (m * den) den = m := by
  simp [roundHalfEven, Nat.mul_div_cancel m hden, hden]

namespace Format

/-- The units that a pattern counts. -/
def significandOf (f : Format) (bits : Nat) : Nat :=
  bits - f.shiftOf bits * 2 ^ (f.precision - 1)

theorem unitsOf_eq (f : Format) (bits : Nat) :
    f.unitsOf bits = f.significandOf bits * 2 ^ f.shiftOf bits := rfl

theorem shiftOf_mul_le (f : Format) (bits : Nat) :
    f.shiftOf bits * 2 ^ (f.precision - 1) ≤ bits :=
  (Nat.mul_le_mul_right _ (Nat.sub_le _ _)).trans (Nat.div_mul_le_self _ _)

/-- A pattern is made up of its shift and its significand. -/
theorem shiftOf_add_significandOf (f : Format) (bits : Nat) :
    f.shiftOf bits * 2 ^ (f.precision - 1) + f.significandOf bits = bits :=
  Nat.add_sub_of_le (f.shiftOf_mul_le bits)

/-- Either nothing is shifted, or the significand has all its bits. -/
theorem significandOf_cases (hprecision : 1 < f.precision) (bits : Nat) :
    f.shiftOf bits = 0 ∧ f.significandOf bits = bits ∧ bits < 2 ^ (f.precision - 1) ∨
      2 ^ (f.precision - 1) ≤ f.significandOf bits ∧ f.significandOf bits < 2 ^ f.precision := by
  have hpow : 2 ^ f.precision = 2 * 2 ^ (f.precision - 1) := by
    rw [← Nat.pow_succ', Nat.succ_eq_add_one, Nat.sub_add_cancel hprecision.le]
  have hsum := f.shiftOf_add_significandOf bits
  have hdiv := Nat.div_add_mod bits (2 ^ (f.precision - 1))
  have hmod := Nat.mod_lt bits (Nat.pow_pos (n := f.precision - 1) (show 0 < 2 by decide))
  have hshift : f.shiftOf bits = bits / 2 ^ (f.precision - 1) - 1 := rfl
  rw [hpow]
  rcases Nat.eq_zero_or_pos (bits / 2 ^ (f.precision - 1)) with hsmall | hlarge
  · left
    rw [hsmall] at hshift hdiv
    rw [hshift] at hsum
    omega
  · right
    -- The quotient is one more than the shift, so the remainder and one leading bit are left.
    obtain ⟨q, hq⟩ : ∃ q, bits / 2 ^ (f.precision - 1) = q + 1 :=
      ⟨_, (Nat.sub_add_cancel hlarge).symm⟩
    rw [hq, Nat.mul_add, Nat.mul_comm _ q, Nat.mul_one] at hdiv
    rw [hq, Nat.add_sub_cancel] at hshift
    rw [hshift] at hsum
    omega

/-- The shift of a value, told by its leading bit. -/
theorem log2_unitsOf (hprecision : 1 < f.precision) (hpositive : 0 < bits) :
    (f.unitsOf bits).log2 - (f.precision - 1) = f.shiftOf bits := by
  rw [unitsOf_eq]
  rcases f.significandOf_cases hprecision bits with ⟨hshift, hsame, hsmall⟩ | ⟨hlow, hhigh⟩
  · have hlog := (Nat.log2_lt hpositive.ne').mpr hsmall
    rw [hshift, hsame, Nat.pow_zero, Nat.mul_one]
    omega
  · have hne : f.significandOf bits * 2 ^ f.shiftOf bits ≠ 0 :=
      (Nat.mul_pos ((Nat.pow_pos (by decide)).trans_le hlow) (Nat.pow_pos (by decide))).ne'
    have hlog : (f.significandOf bits * 2 ^ f.shiftOf bits).log2 =
        f.precision - 1 + f.shiftOf bits := by
      rw [Nat.log2_eq_iff hne, Nat.pow_add, Nat.add_right_comm, Nat.sub_add_cancel hprecision.le,
        Nat.pow_add]
      exact ⟨Nat.mul_le_mul_right _ hlow,
        Nat.mul_lt_mul_of_pos_right hhigh (Nat.pow_pos (by decide))⟩
    omega

/-- A ratio that is the value of a finite pattern is rounded to it. -/
theorem ofRatio_unitsOf (hprecision : 1 < f.precision) (hpositive : 0 < bits)
    (hfinite : bits < f.infinity) (hden : 0 < den)
    (hvalue : num * 2 ^ f.scale = f.unitsOf bits * den) : f.ofRatio num den = bits := by
  have hvalue : num * Nat.pow 2 f.scale = f.unitsOf bits * den := hvalue
  have hscaled : f.unitsOf bits * den =
      f.significandOf bits * (den * Nat.pow 2 (f.shiftOf bits)) := by
    rw [unitsOf_eq, Nat.mul_right_comm, Nat.mul_assoc]
    rfl
  have hunit : 0 < den * Nat.pow 2 (f.shiftOf bits) := Nat.mul_pos hden (Nat.pow_pos (by decide))
  rw [ofRatio, hvalue, Nat.mul_div_cancel _ hden, log2_unitsOf hprecision hpositive, hscaled,
    roundHalfEven_mul _ hunit]
  exact (congrArg (min f.infinity) (f.shiftOf_add_significandOf bits)).trans
    (min_eq_right hfinite.le)

/-- A format whose finite magnitudes are all within the decimal range. -/
structure WithinDecimals (f : Format) : Prop where
  precision : 1 < f.precision
  width : 1 < f.width
  least : 2 ^ f.scale ≤ 10 ^ decimalRange
  greatest : 2 ^ 2 ^ (f.width - 1) ≤ 10 ^ decimalRange

theorem within_single : single.WithinDecimals where
  precision := by decide
  width := by decide
  least := by decide +kernel
  greatest := by decide +kernel

theorem within_double : double.WithinDecimals where
  precision := by decide
  width := by decide
  least := by decide +kernel
  greatest := by decide +kernel

theorem unitsOf_pos (hprecision : 1 < f.precision) (hpositive : 0 < bits) :
    0 < f.unitsOf bits := by
  have hsignificand : 0 < f.significandOf bits := by
    rcases f.significandOf_cases hprecision bits with ⟨-, hsame, -⟩ | ⟨hlow, -⟩
    · rwa [hsame]
    · exact (Nat.pow_pos (by decide)).trans_le hlow
  exact Nat.mul_pos hsignificand (Nat.pow_pos (by decide))

/-- The exponent of a finite pattern is below that of infinity. -/
theorem unitsOf_lt (h : f.WithinDecimals) (hfinite : bits < f.infinity) :
    f.unitsOf bits < 2 ^ f.scale * 2 ^ 2 ^ (f.width - 1) := by
  have hwidth : 2 ^ f.width = 2 * 2 ^ (f.width - 1) := by
    rw [← Nat.pow_succ', Nat.succ_eq_add_one, Nat.sub_add_cancel h.width.le]
  have hhalf : 2 ≤ 2 ^ (f.width - 1) := by
    have hone : 1 ≤ f.width - 1 := by
      have := h.width
      omega
    simpa using Nat.pow_le_pow_right (show 0 < 2 by decide) hone
  have hquotient : bits / 2 ^ (f.precision - 1) < 2 ^ f.width - 1 :=
    (Nat.div_lt_iff_lt_mul (Nat.pow_pos (by decide))).mpr hfinite
  have hshift : f.shiftOf bits = bits / 2 ^ (f.precision - 1) - 1 := rfl
  have hscale : f.scale = 2 ^ (f.width - 1) - 2 + (f.precision - 1) := rfl
  have hprecision := h.precision
  have hsignificand : f.significandOf bits < 2 ^ f.precision := by
    rcases f.significandOf_cases hprecision bits with ⟨-, hsame, hsmall⟩ | ⟨-, hhigh⟩
    · rw [hsame]
      exact hsmall.trans_le (Nat.pow_le_pow_right (by decide) (Nat.sub_le _ _))
    · exact hhigh
  calc f.unitsOf bits
      < 2 ^ f.precision * 2 ^ f.shiftOf bits :=
        Nat.mul_lt_mul_of_pos_right hsignificand (Nat.pow_pos (by decide))
    _ = 2 ^ (f.precision + f.shiftOf bits) := (Nat.pow_add _ _ _).symm
    _ ≤ 2 ^ (f.scale + 2 ^ (f.width - 1)) := Nat.pow_le_pow_right (by decide) (by omega)
    _ = 2 ^ f.scale * 2 ^ 2 ^ (f.width - 1) := Nat.pow_add _ _ _

/-! ### Decimals -/

/-- Within the decimal range a decimal is read as the ratio that it stands for. -/
theorem ofDecimal_of_within {digits : Nat} {exponent : Int} (hdigits : digits ≠ 0)
    (hlow : -(decimalRange : Int) ≤ exponent + (Nat.toDigits 10 digits).length)
    (hhigh : exponent + (Nat.toDigits 10 digits).length ≤ decimalRange) :
    f.ofDecimal digits exponent =
      if 0 ≤ exponent then f.ofRatio (digits * 10 ^ exponent.toNat) 1
      else f.ofRatio digits (10 ^ (-exponent).toNat) := by
  rw [ofDecimal, if_neg (not_or.mpr ⟨hdigits, not_lt.mpr hlow⟩), if_neg (not_lt.mpr hhigh)]
  rfl

/-- The exact decimal expansion reads back. -/
theorem ofDecimal_exactDecimal (h : f.WithinDecimals) (hpositive : 0 < bits)
    (hfinite : bits < f.infinity) :
    f.ofDecimal (exactDecimal f bits).digits (exactDecimal f bits).exponent = bits := by
  have hunits := unitsOf_pos h.precision hpositive
  have hfive : 0 < 5 ^ f.scale := Nat.pow_pos (by decide)
  have hten : 5 ^ f.scale * 2 ^ f.scale = 10 ^ f.scale := (Nat.mul_pow 5 2 _).symm
  have hdigits : 0 < f.unitsOf bits * 5 ^ f.scale := Nat.mul_pos hunits hfive
  have hscale : 0 < f.scale := by
    have hprecision := h.precision
    have : f.scale = 2 ^ (f.width - 1) - 2 + (f.precision - 1) := rfl
    omega
  have hlow : f.scale < (Nat.toDigits 10 (f.unitsOf bits * 5 ^ f.scale)).length + decimalRange := by
    rw [← length_toDigits_mul_pow hdigits]
    refine lt_length_toDigits ?_
    calc 10 ^ f.scale = 5 ^ f.scale * 2 ^ f.scale := hten.symm
      _ ≤ f.unitsOf bits * 5 ^ f.scale * 10 ^ decimalRange :=
        Nat.mul_le_mul (Nat.le_mul_of_pos_left _ hunits) h.least
  have hhigh :
      (Nat.toDigits 10 (f.unitsOf bits * 5 ^ f.scale)).length ≤ f.scale + decimalRange := by
    rw [Nat.length_toDigits_le_iff (by decide) (by omega)]
    calc f.unitsOf bits * 5 ^ f.scale
        < 2 ^ f.scale * 2 ^ 2 ^ (f.width - 1) * 5 ^ f.scale :=
          Nat.mul_lt_mul_of_pos_right (unitsOf_lt h hfinite) hfive
      _ = 10 ^ f.scale * 2 ^ 2 ^ (f.width - 1) := by rw [← hten]; ring
      _ ≤ 10 ^ f.scale * 10 ^ decimalRange := Nat.mul_le_mul_left _ h.greatest
      _ = 10 ^ (f.scale + decimalRange) := (Nat.pow_add _ _ _).symm
  have hread : f.ofDecimal (f.unitsOf bits * 5 ^ f.scale) (-(f.scale : Int)) =
      f.ofRatio (f.unitsOf bits * 5 ^ f.scale) (10 ^ f.scale) := by
    rw [ofDecimal_of_within hdigits.ne' (by omega) (by omega), if_neg (by omega), Int.neg_neg,
      Int.toNat_natCast]
  refine hread.trans (ofRatio_unitsOf h.precision hpositive hfinite (Nat.pow_pos (by decide)) ?_)
  rw [Nat.mul_assoc, hten]

/-- Only a decimal that reads back is chosen. -/
theorem readsBack_of_choose? {below above m : Magnitude} {up : Bool}
    (h : Magnitude.choose? f bits below above up = some m) : m.readsBack f bits = true := by
  rw [Magnitude.choose?] at h
  split at h
  · rename_i hbelow
    split at h
    · rename_i habove
      exact Option.some.inj h ▸ (Bool.and_eq_true_iff.mp habove).1
    · exact Option.some.inj h ▸ hbelow
  · split at h
    · rename_i habove
      exact Option.some.inj h ▸ habove
    · exact absurd h (by simp)

theorem ofDecimal_of_nearest? {count : Nat} {m : Magnitude} (h : nearest? f bits count = some m) :
    f.ofDecimal m.digits m.exponent = bits := by
  rw [nearest?] at h
  exact eq_of_beq (readsBack_of_choose? h)

/-- The printed decimal of a finite pattern reads back. -/
theorem ofDecimal_shortest (h : f.WithinDecimals) (hpositive : 0 < bits)
    (hfinite : bits < f.infinity) :
    f.ofDecimal (shortest f bits).digits (shortest f bits).exponent = bits := by
  rw [shortest]
  cases hfound : (List.range digitLimit).findSome? fun i => nearest? f bits (i + 1) with
  | none => exact ofDecimal_exactDecimal h hpositive hfinite
  | some m =>
      obtain ⟨i, -, hi⟩ := List.exists_of_findSome?_eq_some hfound
      exact ofDecimal_of_nearest? hi

/-- Zeros behind the digits of a decimal can be written out. -/
theorem ofDecimal_mul_pow {digits : Nat} (hdigits : digits ≠ 0) (k : Nat) :
    f.ofDecimal (digits * 10 ^ k) 0 = f.ofDecimal digits k := by
  have hne : digits * 10 ^ k ≠ 0 := Nat.mul_ne_zero hdigits (Nat.pow_pos (by decide)).ne'
  have hlength := length_toDigits_mul_pow (Nat.pos_of_ne_zero hdigits) k
  rw [ofDecimal, ofDecimal, hlength]
  simp only [hne, hdigits, false_or]
  push_cast
  rw [Int.zero_add, Int.add_comm (k : Int)]
  refine if_congr Iff.rfl rfl (if_congr Iff.rfl rfl ?_)
  simp

end Format

end ArchiveScout.Number
