import ArchiveScout.Number.Numeral
import Mathlib.Data.List.Induction
import Mathlib.Data.Nat.Digits.Defs
import Mathlib.Tactic.IntervalCases

/-!
# ArchiveScout.Proofs.Number.Numeral

**The grammar of numerals.** What can be read is a tree: a sign, digits, a point, an exponent. Each
kind of tree has its text and its value, and reading is the inverse of writing: a text is read as a
value if and only if some tree has that text and that value.
-/

namespace ArchiveScout.Number

variable {base : Nat} {c : Char} {cs rest : List Char}

/-! ### Digits -/

/-- Digits as a text. -/
def digitText (ds : List (Fin base)) : List Char := ds.map fun d : Fin base => Nat.digitChar d

/-- The number that digits stand for. -/
def digitsValue (ds : List (Fin base)) : Nat := Nat.ofDigits base (ds.reverse.map Fin.val)

@[simp] theorem digitText_nil : digitText ([] : List (Fin base)) = [] := rfl

@[simp] theorem digitText_cons (d : Fin base) (ds : List (Fin base)) :
    digitText (d :: ds) = Nat.digitChar d :: digitText ds := rfl

@[simp] theorem digitText_append (ds ds' : List (Fin base)) :
    digitText (ds ++ ds') = digitText ds ++ digitText ds' := List.map_append

@[simp] theorem digitText_eq_nil {ds : List (Fin base)} : digitText ds = [] ↔ ds = [] :=
  List.map_eq_nil_iff

@[simp] theorem length_digitText (ds : List (Fin base)) : (digitText ds).length = ds.length :=
  List.length_map ..

theorem digitValue?_digitChar {d : Nat} (h : d < 16) : digitValue? (Nat.digitChar d) = some d := by
  have hall : ∀ d < 16, digitValue? (Nat.digitChar d) = some d := by decide
  exact hall d h

/-- The digits are those of the bases up to sixteen. -/
theorem digitValue?_eq_some {d : Nat} :
    digitValue? c = some d ↔ d < 16 ∧ c = Nat.digitChar d := by
  constructor
  · intro h
    -- A character is that of its number, and there are sixteen numbers to look at.
    rw [← c.ofNat_toNat]
    unfold digitValue? at h
    simp only [Char.le_def, UInt32.le_iff_toNat_le] at h
    change (if 48 ≤ c.toNat ∧ c.toNat ≤ 57 then some (c.toNat - 48)
      else if 97 ≤ c.toNat ∧ c.toNat ≤ 102 then some (c.toNat - 97 + 10) else none) = _ at h
    generalize c.toNat = n at h ⊢
    split at h
    · rename_i hn
      obtain rfl := Option.some.inj h
      obtain ⟨hlow, hhigh⟩ := hn
      interval_cases n <;> decide
    · split at h
      · rename_i hn
        obtain rfl := Option.some.inj h
        obtain ⟨hlow, hhigh⟩ := hn
        interval_cases n <;> decide
      · exact absurd h (by simp)
  · rintro ⟨hd, rfl⟩
    exact digitValue?_digitChar hd

theorem isDigitOf_iff (hbase : base ≤ 16) :
    isDigitOf base c = true ↔ ∃ d : Fin base, c = Nat.digitChar d := by
  rw [isDigitOf]
  constructor
  · intro h
    split at h
    · rename_i d hd
      exact ⟨⟨d, by simpa using h⟩, (digitValue?_eq_some.mp hd).2⟩
    · exact absurd h (by simp)
  · rintro ⟨d, rfl⟩
    rw [digitValue?_digitChar (by omega)]
    simp

/-- A text is made of digits if it is the text of some. -/
theorem all_isDigitOf_iff (hbase : base ≤ 16) :
    cs.all (isDigitOf base) = true ↔ ∃ ds : List (Fin base), cs = digitText ds := by
  induction cs with
  | nil => exact iff_of_true rfl ⟨[], rfl⟩
  | cons c cs ih =>
      rw [List.all_cons, Bool.and_eq_true, isDigitOf_iff hbase, ih]
      constructor
      · rintro ⟨⟨d, rfl⟩, ds, rfl⟩
        exact ⟨d :: ds, rfl⟩
      · rintro ⟨_ | ⟨d, ds⟩, h⟩
        · exact absurd h (by simp)
        · obtain ⟨rfl, rfl⟩ := List.cons.inj h
          exact ⟨⟨d, rfl⟩, ds, rfl⟩

theorem ofDigits_digitText (hbase : base ≤ 16) (ds : List (Fin base)) :
    ofDigits base (digitText ds) = digitsValue ds := by
  induction ds using List.reverseRecOn with
  | nil => simp [ofDigits, digitsValue]
  | append_singleton ds d ih =>
      rw [ofDigits] at ih ⊢
      rw [digitText_append, List.foldl_append, ih]
      have hd := digitValue?_digitChar (d := d) (by omega)
      simp [digitsValue, hd, Nat.ofDigits_cons, Nat.mul_comm, Nat.add_comm]

/-- One digit or more. -/
structure Numeral (base : Nat) where
  digits : List (Fin base)
  nonempty : digits ≠ []

namespace Numeral

def text (n : Numeral base) : List Char := digitText n.digits

def value (n : Numeral base) : Nat := digitsValue n.digits

end Numeral

theorem natural?_eq_some (hbase : base ≤ 16) {v : Nat} :
    natural? base cs = some v ↔ ∃ n : Numeral base, cs = n.text ∧ v = n.value := by
  rw [natural?]
  constructor
  · intro h
    split at h
    · rename_i hdigits
      obtain ⟨ds, rfl⟩ := (all_isDigitOf_iff hbase).mp hdigits.2
      refine ⟨⟨ds, by simpa using hdigits.1⟩, rfl, ?_⟩
      rw [← Option.some.inj h, ofDigits_digitText hbase]
      rfl
    · exact absurd h (by simp)
  · rintro ⟨⟨ds, hne⟩, rfl, rfl⟩
    rw [if_pos ⟨mt digitText_eq_nil.mp hne, (all_isDigitOf_iff hbase).mpr ⟨ds, rfl⟩⟩]
    exact congrArg some (ofDigits_digitText hbase ds)

theorem isDigitOf_of_mem_digitText (hbase : base ≤ 16) {ds : List (Fin base)}
    (h : c ∈ digitText ds) : isDigitOf base c = true := by
  obtain ⟨d, -, rfl⟩ := List.mem_map.mp h
  exact (isDigitOf_iff hbase).mpr ⟨d, rfl⟩

/-! ### Signs -/

/-- A sign, or none. -/
inductive Sign where
  | none
  | plus
  | minus
deriving DecidableEq, Repr

namespace Sign

def text : Sign → List Char
  | none => []
  | plus => ['+']
  | minus => ['-']

def isMinus (s : Sign) : Bool := s = minus

/-- The integer that a sign makes of a number. -/
def apply (s : Sign) (n : Nat) : Int := if s.isMinus then -(n : Int) else n

end Sign

/-- A text in front of which there is no sign. -/
def Unsigned (cs : List Char) : Prop := ∀ c ∈ cs.head?, c ≠ '+' ∧ c ≠ '-'

theorem takeSign_text (s : Sign) (h : Unsigned rest) :
    takeSign (s.text ++ rest) = (s.isMinus, rest) := by
  cases s with
  | plus => rfl
  | minus => rfl
  | none =>
      rw [Sign.text, List.nil_append, takeSign.eq_def]
      split
      · exact absurd rfl (h '-' rfl).2
      · exact absurd rfl (h '+' rfl).1
      · rfl

theorem exists_sign (cs : List Char) :
    ∃ s : Sign, cs = s.text ++ (takeSign cs).2 ∧ (takeSign cs).1 = s.isMinus := by
  rw [takeSign.eq_def]
  split
  · exact ⟨.minus, rfl, rfl⟩
  · exact ⟨.plus, rfl, rfl⟩
  · exact ⟨.none, rfl, rfl⟩

theorem unsigned_digits (hbase : base ≤ 16) {ds : List (Fin base)} (hne : ds ≠ [])
    (rest : List Char) : Unsigned (digitText ds ++ rest) := by
  intro c hc
  cases ds with
  | nil => exact absurd rfl hne
  | cons d ds =>
      obtain rfl := Option.some.inj hc
      have hall : ∀ d < 16, Nat.digitChar d ≠ '+' ∧ Nat.digitChar d ≠ '-' := by decide
      exact hall d (by omega)

/-! ### Integers -/

/-- A numeral behind a sign. -/
structure SignedNumeral (base : Nat) where
  sign : Sign
  magnitude : Numeral base

namespace SignedNumeral

def text (n : SignedNumeral base) : List Char := n.sign.text ++ n.magnitude.text

def value (n : SignedNumeral base) : Int := n.sign.apply n.magnitude.value

end SignedNumeral

theorem integer?_eq_some (hbase : base ≤ 16) {v : Int} :
    integer? base cs = some v ↔ ∃ n : SignedNumeral base, cs = n.text ∧ v = n.value := by
  have hread : integer? base cs = (natural? base (takeSign cs).2).map fun n : Nat =>
      if (takeSign cs).1 then -(n : Int) else n := by
    rw [integer?]
    generalize takeSign cs = taken
    obtain ⟨negative, digits⟩ := taken
    dsimp only
    cases natural? base digits <;> rfl
  rw [hread]
  constructor
  · intro h
    obtain ⟨s, hcs, hs⟩ := exists_sign cs
    obtain ⟨m, hm, rfl⟩ := Option.map_eq_some_iff.mp h
    obtain ⟨n, hn, rfl⟩ := (natural?_eq_some hbase).mp hm
    refine ⟨⟨s, n⟩, ?_, ?_⟩
    · rw [SignedNumeral.text, ← hn]
      exact hcs
    · rw [hs]
      rfl
  · rintro ⟨⟨s, n⟩, rfl, rfl⟩
    have hunsigned := unsigned_digits hbase n.nonempty []
    rw [List.append_nil] at hunsigned
    rw [SignedNumeral.text, Numeral.text, takeSign_text s hunsigned]
    exact Option.map_eq_some_iff.mpr ⟨n.value, (natural?_eq_some hbase).mpr ⟨n, rfl, rfl⟩, rfl⟩

/-! ### Fractions -/

/-- A decimal fraction: digits with an optional point, one on either side at least, and an optional
exponent. -/
structure Decimal where
  sign : Sign
  whole : List (Fin 10)
  /-- The digits behind the point, if there is a point. -/
  part : Option (List (Fin 10))
  exponent : Option (SignedNumeral 10)
  nonempty : whole ++ part.getD [] ≠ []

/-- The point and the digits behind it. -/
def partText : Option (List (Fin 10)) → List Char
  | none => []
  | some ds => '.' :: digitText ds

def exponentText : Option (SignedNumeral 10) → List Char
  | none => []
  | some n => 'e' :: n.text

def exponentValue : Option (SignedNumeral 10) → Int
  | none => 0
  | some n => n.value

namespace Decimal

def text (x : Decimal) : List Char :=
  x.sign.text ++ (digitText x.whole ++ (partText x.part ++ exponentText x.exponent))

/-- The value: the digits on both sides, in units of the last one. -/
def value (x : Decimal) : Fraction where
  negative := x.sign.isMinus
  digits := digitsValue (x.whole ++ x.part.getD [])
  exponent := exponentValue x.exponent - (x.part.getD []).length

end Decimal

theorem exponent?_eq_some {v : Int} :
    exponent? cs = some v ↔ ∃ n, cs = exponentText n ∧ v = exponentValue n := by
  constructor
  · intro h
    rw [exponent?.eq_def] at h
    split at h
    · exact ⟨none, rfl, (Option.some.inj h).symm⟩
    · obtain ⟨n, rfl, rfl⟩ := (integer?_eq_some (by decide)).mp h
      exact ⟨some n, rfl, rfl⟩
    · exact absurd h (by simp)
  · rintro ⟨_ | n, rfl, rfl⟩
    · rfl
    · exact (integer?_eq_some (by decide)).mpr ⟨n, rfl, rfl⟩

/-- A text that no digit starts. -/
def Undigited (cs : List Char) : Prop := ∀ c ∈ cs.head?, isDigitOf 10 c = false

theorem takeWhile_digits (ds : List (Fin 10)) (h : Undigited rest) :
    (digitText ds ++ rest).takeWhile (isDigitOf 10) = digitText ds := by
  rw [List.takeWhile_append_of_pos fun c => isDigitOf_of_mem_digitText (by decide)]
  cases rest with
  | nil => exact List.append_nil _
  | cons c rest => rw [List.takeWhile_cons_of_neg (by simp [h c rfl]), List.append_nil]

theorem dropWhile_digits (ds : List (Fin 10)) (h : Undigited rest) :
    (digitText ds ++ rest).dropWhile (isDigitOf 10) = rest := by
  rw [List.dropWhile_append_of_pos fun c => isDigitOf_of_mem_digitText (by decide)]
  cases rest with
  | nil => rfl
  | cons c rest => exact List.dropWhile_cons_of_neg (by simp [h c rfl])

/-- Digits are taken as far as they go, on both sides of a point. -/
theorem takeDigits_text (whole : List (Fin 10)) (part : Option (List (Fin 10)))
    (h : Undigited rest) (hpoint : part = none → rest.head? ≠ some '.') :
    takeDigits (digitText whole ++ (partText part ++ rest)) =
      (digitText whole, digitText (part.getD []), rest) := by
  cases part with
  | some ds =>
      -- The first digits end at the point.
      have hundigited : Undigited ('.' :: (digitText ds ++ rest)) := by
        intro c hc
        obtain rfl := Option.some.inj hc
        decide
      rw [takeDigits, partText, List.cons_append, takeWhile_digits whole hundigited,
        dropWhile_digits whole hundigited]
      simp only [takeWhile_digits ds h, dropWhile_digits ds h, Option.getD_some]
  | none =>
      rw [takeDigits, partText, List.nil_append, takeWhile_digits whole h, dropWhile_digits whole h]
      split
      · exact absurd rfl (hpoint rfl)
      · rfl

/-- Every text starts with digits, as far as they go. -/
theorem exists_digits (cs : List Char) : ∃ ds : List (Fin 10), ∃ rest,
    cs = digitText ds ++ rest ∧ Undigited rest := by
  obtain ⟨ds, hds⟩ := (all_isDigitOf_iff (show 10 ≤ 16 by decide)).mp
    (List.all_takeWhile (p := isDigitOf 10) (l := cs))
  refine ⟨ds, cs.dropWhile (isDigitOf 10), ?_, ?_⟩
  · rw [← hds, List.takeWhile_append_dropWhile]
  · intro c hc
    have hhead := List.head?_dropWhile_not (isDigitOf 10) cs
    rwa [Option.mem_def.mp hc] at hhead

theorem exists_takeDigits (cs : List Char) : ∃ (whole : List (Fin 10)) (part : _) (rest : _),
    cs = digitText whole ++ (partText part ++ rest) ∧
      takeDigits cs = (digitText whole, digitText (part.getD []), rest) := by
  obtain ⟨whole, behind, rfl, hbehind⟩ := exists_digits cs
  by_cases hpoint : behind.head? = some '.'
  · obtain ⟨after, rfl⟩ : ∃ after, behind = '.' :: after := by
      cases behind with
      | nil => exact absurd hpoint (by simp)
      | cons c after => exact ⟨after, by rw [Option.some.inj hpoint]⟩
    obtain ⟨ds, rest, rfl, hrest⟩ := exists_digits after
    exact ⟨whole, some ds, rest, rfl, takeDigits_text whole (some ds) hrest (by simp)⟩
  · exact ⟨whole, none, behind, rfl, takeDigits_text whole none hbehind fun _ => hpoint⟩

theorem exponentText_head (n : Option (SignedNumeral 10)) :
    Undigited (exponentText n) ∧ (exponentText n).head? ≠ some '.' := by
  cases n with
  | none => exact ⟨fun c hc => absurd hc (by simp [exponentText]), by simp [exponentText]⟩
  | some n =>
      refine ⟨fun c hc => ?_, by simp [exponentText]⟩
      obtain rfl := Option.some.inj hc
      decide

theorem Decimal.unsigned (x : Decimal) :
    Unsigned (digitText x.whole ++ (partText x.part ++ exponentText x.exponent)) := by
  obtain ⟨s, whole, part, exponent, hsome⟩ := x
  by_cases hwhole : whole = []
  · -- Then there are digits behind a point.
    subst hwhole
    cases part with
    | none => exact absurd rfl hsome
    | some ds =>
        intro c hc
        obtain rfl := Option.some.inj hc
        decide
  · exact unsigned_digits (by decide) hwhole _

/-- A text is read as a fraction if it is the text of one. -/
theorem fraction?_eq_some {x : Fraction} :
    fraction? cs = some x ↔ ∃ n : Decimal, cs = n.text ∧ x = n.value := by
  constructor
  · intro h
    obtain ⟨s, hcs, hs⟩ := exists_sign cs
    rw [fraction?] at h
    generalize takeSign cs = taken at h hcs hs
    obtain ⟨negative, body⟩ := taken
    obtain rfl : negative = s.isMinus := hs
    obtain ⟨whole, part, rest, rfl, htaken⟩ := exists_takeDigits body
    simp only [htaken] at h
    split at h
    · exact absurd h (by simp)
    · rename_i hsome
      obtain ⟨e, he, rfl⟩ := Option.map_eq_some_iff.mp h
      obtain ⟨exponent, rfl, rfl⟩ := exponent?_eq_some.mp he
      refine ⟨⟨s, whole, part, exponent, by simpa using hsome⟩, hcs, ?_⟩
      rw [Decimal.value, ← digitText_append, ofDigits_digitText (by decide), length_digitText]
  · rintro ⟨n, rfl, rfl⟩
    obtain ⟨hundigited, hpoint⟩ := exponentText_head n.exponent
    have htaken := takeDigits_text n.whole n.part hundigited fun _ => hpoint
    have hexponent := exponent?_eq_some.mpr ⟨n.exponent, rfl, rfl⟩
    rw [fraction?, Decimal.text, takeSign_text n.sign n.unsigned]
    simp only [htaken, hexponent]
    rw [if_neg (by simpa using n.nonempty), Option.map_some, ← digitText_append,
      ofDigits_digitText (by decide), length_digitText]
    rfl

end ArchiveScout.Number
