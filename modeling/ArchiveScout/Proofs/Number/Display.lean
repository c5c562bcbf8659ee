import ArchiveScout.Proofs.Number.Literal
import ArchiveScout.Proofs.Number.Rounding
import ArchiveScout.Proofs.Text.Case
import Mathlib.Data.Bool.AllAny

/-!
# ArchiveScout.Proofs.Number.Display

**What is printed is a spelling.** The text of a number is made of digits in the order in which the
grammar has them, and the printed decimal reads back, so the text of a literal is one of its
spellings; only infinity is printed as a word, which no spelling is. Since the bits of an integer
decide on the integer, literals of different integers are never the same number.
-/

namespace ArchiveScout.Number

open ArchiveScout.Query (QueryError readLiteral)
open ArchiveScout.Text (isBlank lower trim lowerChar)

variable {v w : Int} {bits : Nat} {f : Format} {text text' : String} {x y : Literal}

/-! ### Digits -/

theorem digitsValue_append (ds ds' : List (Fin 10)) :
    digitsValue (ds ++ ds') = digitsValue ds * 10 ^ ds'.length + digitsValue ds' := by
  simp [digitsValue, Nat.ofDigits_append, Nat.mul_comm, Nat.add_comm]

theorem digitsValue_zeros (k : Nat) : digitsValue (List.replicate k (0 : Fin 10)) = 0 := by
  induction k with
  | zero => rfl
  | succ k ih =>
      rw [List.replicate_succ', digitsValue_append, ih, Nat.zero_mul]
      rfl

theorem digitText_zeros (k : Nat) :
    digitText (List.replicate k (0 : Fin 10)) = List.replicate k '0' := by
  rw [digitText, List.map_replicate]
  rfl

theorem digitsValue_singleton (d : Fin 10) : digitsValue [d] = d := Nat.ofDigits_singleton

/-- The digits of a number make up a numeral of its value. -/
theorem exists_numeral (n : Nat) : ∃ m : Numeral 10, Nat.toDigits 10 n = m.text ∧ m.value = n := by
  induction n using Nat.strongRecOn with
  | ind n ih =>
      by_cases hn : n < 10
      · exact ⟨⟨[⟨n, hn⟩], List.cons_ne_nil _ _⟩, Nat.toDigits_of_lt_base hn,
          digitsValue_singleton _⟩
      · -- The last digit stands behind those of the tenth part.
        obtain ⟨m, htext, hvalue⟩ := ih (n / 10) (by omega)
        have hlast : n % 10 < 10 := Nat.mod_lt _ (by decide)
        refine ⟨⟨m.digits ++ [⟨n % 10, hlast⟩], by simp⟩, ?_, ?_⟩
        · rw [Nat.toDigits_of_base_le (by decide) (by omega), htext, Numeral.text, Numeral.text,
            digitText_append]
          rfl
        · have hdigits : digitsValue m.digits = n / 10 := hvalue
          rw [Numeral.value, digitsValue_append, hdigits, digitsValue_singleton,
            List.length_singleton]
          show n / 10 * 10 ^ 1 + n % 10 = n
          omega

/-- The text of an integer is a numeral behind a sign. -/
theorem exists_signedNumeral (v : Int) :
    ∃ n : SignedNumeral 10, (toString v).toList = n.text ∧ n.value = v := by
  cases v with
  | ofNat n =>
      obtain ⟨m, htext, hvalue⟩ := exists_numeral n
      refine ⟨⟨.none, m⟩, ?_, ?_⟩
      · rw [SignedNumeral.text, ← htext]
        exact Nat.toList_repr
      · rw [SignedNumeral.value, hvalue]
        rfl
  | negSucc n =>
      obtain ⟨m, htext, hvalue⟩ := exists_numeral (n + 1)
      refine ⟨⟨.minus, m⟩, ?_, ?_⟩
      · rw [SignedNumeral.text, ← htext]
        show ("-" ++ (n + 1).repr).toList = _
        rw [String.toList_append, Nat.toList_repr]
        rfl
      · rw [SignedNumeral.value, hvalue]
        rfl

/-! ### Fractions -/

/-- The text of a magnitude is that of a decimal that has its value. -/
theorem Magnitude.exists_decimal (m : Magnitude) (hdigits : m.digits ≠ 0) (f : Format) (s : Sign) :
    ∃ d : Decimal, s.text ++ m.text = d.text ∧
      f.ofFraction d.value = f.withSign s.isMinus (f.ofDecimal m.digits m.exponent) := by
  obtain ⟨n, htext, hvalue⟩ := exists_numeral m.digits
  have hvalue : digitsValue n.digits = m.digits := hvalue
  rw [Magnitude.text, htext]
  dsimp only
  split
  · rename_i hexponent
    -- Zeros up to the units.
    refine ⟨⟨s, n.digits ++ List.replicate m.exponent.toNat 0, none, none, ?_⟩, ?_, ?_⟩
    · simp [n.nonempty]
    · simp [Decimal.text, partText, exponentText, digitText_zeros, Numeral.text]
    · have hread := f.ofDecimal_mul_pow hdigits m.exponent.toNat
      rw [Int.toNat_of_nonneg hexponent] at hread
      simp [Format.ofFraction, Decimal.value, exponentValue, digitsValue_append, digitsValue_zeros,
        hvalue, hread]
  · rename_i hexponent
    -- Digits on both sides of a point, with zeros in front up to one digit before it.
    generalize hplaces : (-m.exponent).toNat = places
    have hpadded : List.replicate (places + 1 - n.text.length) '0' ++ n.text =
        digitText (List.replicate (places + 1 - n.text.length) 0 ++ n.digits) := by
      rw [digitText_append, digitText_zeros]
      rfl
    rw [hpadded]
    generalize hds : List.replicate (places + 1 - n.text.length) 0 ++ n.digits = ds
    have hlength : places < ds.length := by
      have hn : n.text.length = n.digits.length := length_digitText _
      rw [← hds, List.length_append, List.length_replicate, hn]
      omega
    have hsame : digitsValue ds = m.digits := by
      rw [← hds, digitsValue_append, digitsValue_zeros, Nat.zero_mul, Nat.zero_add, hvalue]
    refine ⟨⟨s, ds.take (ds.length - places), some (ds.drop (ds.length - places)), none, ?_⟩,
      ?_, ?_⟩
    · rw [Option.getD_some, List.take_append_drop]
      exact List.ne_nil_of_length_pos (by omega)
    · simp [Decimal.text, partText, exponentText, digitText, List.map_take, List.map_drop]
    · have hexp : (0 : Int) - ((ds.drop (ds.length - places)).length : Nat) = m.exponent := by
        rw [List.length_drop]
        omega
      simp only [Format.ofFraction, Decimal.value, exponentValue, Option.getD_some,
        List.take_append_drop, hsame, hexp]

namespace Format

/-- The text of a finite pattern is that of a decimal that reads back. -/
theorem exists_decimal (h : f.WithinDecimals) (hbits : bits < 2 * f.signBit)
    (hfinite : bits % f.signBit < f.infinity) :
    ∃ d : Decimal, f.text bits = d.text ∧ f.ofFraction d.value = bits := by
  have hmagnitude (s : Sign) : ∃ d : Decimal,
      s.text ++ (if bits % f.signBit = 0 then ['0']
        else if f.infinity ≤ bits % f.signBit then ['i', 'n', 'f']
        else (shortest f (bits % f.signBit)).text) = d.text ∧
      f.ofFraction d.value = f.withSign s.isMinus (bits % f.signBit) := by
    by_cases hzero : bits % f.signBit = 0
    · rw [if_pos hzero, hzero]
      refine ⟨⟨s, [0], none, none, by simp⟩, rfl, ?_⟩
      rfl
    · have hread := ofDecimal_shortest h (Nat.pos_of_ne_zero hzero) hfinite
      rw [if_neg hzero, if_neg (by omega)]
      have hdigits : (shortest f (bits % f.signBit)).digits ≠ 0 := by
        intro hnone
        rw [hnone, ofDecimal, if_pos (.inl rfl)] at hread
        exact hzero hread.symm
      obtain ⟨d, htext, hvalue⟩ := (shortest f (bits % f.signBit)).exists_decimal hdigits f s
      exact ⟨d, htext, by rw [hvalue, hread]⟩
  rw [Format.text]
  split
  · rename_i hpositive
    obtain ⟨d, htext, hvalue⟩ := hmagnitude .none
    refine ⟨d, htext, ?_⟩
    rw [hvalue, Nat.mod_eq_of_lt hpositive]
    exact Nat.zero_add _
  · rename_i hnegative
    obtain ⟨d, htext, hvalue⟩ := hmagnitude .minus
    refine ⟨d, htext, ?_⟩
    rw [hvalue]
    show f.signBit + bits % f.signBit = bits
    rw [Nat.mod_eq_sub_mod (by omega), Nat.mod_eq_of_lt (by omega)]
    omega

/-- Infinity is printed as a word. -/
theorem text_of_infinite (h : ¬ bits % f.signBit < f.infinity) (hpositive : 0 < f.infinity) :
    f.text bits = ['i', 'n', 'f'] ∨ f.text bits = ['-', 'i', 'n', 'f'] := by
  have hword : (if bits % f.signBit = 0 then ['0']
      else if f.infinity ≤ bits % f.signBit then ['i', 'n', 'f']
      else (shortest f (bits % f.signBit)).text) = ['i', 'n', 'f'] := by
    rw [if_neg (by omega), if_pos (by omega)]
  rw [Format.text, hword]
  split
  · exact .inl rfl
  · exact .inr rfl

end Format

/-! ### Integers -/

namespace Literal

theorem wordCount_eq : wordCount = 2 ^ 64 := rfl

/-- The pattern of an integer of 64 bits decides on the integer. -/
theorem ofWord_wordOf (h : IsWord v) : ofWord (wordOf v) = v := by
  obtain ⟨hlow, hhigh⟩ := h
  rw [ofWord, wordOf, wordCount_eq]
  split <;> omega

/-- Every pattern of 64 bits is that of an integer. -/
theorem wordOf_ofWord (h : bits < 2 ^ 64) : IsWord (ofWord bits) ∧ wordOf (ofWord bits) = bits := by
  rw [IsWord, ofWord, wordOf, wordCount_eq]
  split <;> omega

theorem same_iff : x.same y = true ↔ x.kind = y.kind ∧ x.bits = y.bits := by
  rw [same, Bool.and_eq_true, beq_iff_eq, beq_iff_eq]

theorem bits_ofInteger (v : Int) : (ofInteger v).bits = (BitVec.ofInt 64 v).toNat := wordOf_eq v

end Literal

/-- The texts of an integer in small letters: in base ten, or in base sixteen behind `0x`, with any
sign that gives its value and any number of zeros in front, and maybe with the mark of a long. -/
inductive IntegerText (v : Int) : List Char → Prop
  | decimal (s : Sign) (n : Numeral 10) (long : Bool) (hvalue : s.apply n.value = v) :
      IntegerText v (s.text ++ n.text ++ (longMark long).toList)
  | hexadecimal (s : Sign) (n : Numeral 16) (long : Bool) (hvalue : s.apply n.value = v) :
      IntegerText v (s.text ++ '0' :: 'x' :: n.text ++ (longMark long).toList)

/-- A text spells an integer if it is one of its texts in any case, with any blanks around it. -/
def SpellsInteger (text : String) (v : Int) : Prop :=
  ∃ before body after, text.toList = before ++ body ++ after ∧
    (∀ c ∈ before, isBlank c = true) ∧ (∀ c ∈ after, isBlank c = true) ∧ IntegerText v (lower body)

namespace Spelling

/-- Nothing in a spelling is changed by reading it. -/
theorem steady_of_mem {sp : Spelling} {c : Char} (h : c ∈ sp.text) :
    isBlank c = false ∧ lowerChar c = [c] := by
  -- The letters are gone through one by one, not all characters there are.
  have hletters (form : Form) : ∀ c ∈ form.letters, isBlank c = false ∧ lowerChar c = [c] := by
    cases form <;> exact List.all_iff_forall_prop.mp (by decide)
  have hmarks : ∀ c ∈ ['l', 'f', 'd'], isBlank c = false ∧ lowerChar c = [c] :=
    List.all_iff_forall_prop.mp (by decide)
  rcases List.mem_append.mp h with hcore | hmark
  · exact hletters _ c (sp.core_subset hcore)
  · exact hmarks c (mem_marks (Option.mem_toList.mp hmark))

theorem lower_trim (sp : Spelling) : lower (trim sp.text) = sp.text := by
  have hlower : lower sp.text = sp.text := Text.lower_eq_self fun c hc => (steady_of_mem hc).2
  have hblank : ∀ c ∈ lower sp.text, isBlank c = false := by
    rw [hlower]
    exact fun c hc => (steady_of_mem hc).1
  have h : lower (trim ([] ++ sp.text ++ [])) = lower sp.text :=
    Text.lower_trim_append (by simp) hblank (by simp)
  rwa [List.nil_append, List.append_nil, hlower] at h

/-- The integer texts are the spellings of integers. -/
theorem integerText_iff (h : IsWord v) {cs : List Char} : IntegerText v cs ↔
    ∃ sp : Spelling, cs = sp.text ∧ sp.kind = .integer ∧ sp.bits = (BitVec.ofInt 64 v).toNat := by
  have hsame {w : Int} (hw : IsWord w)
      (hbits : (BitVec.ofInt 64 w).toNat = (BitVec.ofInt 64 v).toNat) : w = v := by
    rw [← Literal.wordOf_eq, ← Literal.wordOf_eq] at hbits
    rw [← Literal.ofWord_wordOf hw, hbits, Literal.ofWord_wordOf h]
  constructor
  · intro htext
    cases htext with
    | decimal s n long hvalue =>
        subst hvalue
        exact ⟨.decimal ⟨s, n⟩ long h, rfl, rfl, rfl⟩
    | hexadecimal s n long hvalue =>
        subst hvalue
        exact ⟨.hexadecimal s n long h, rfl, rfl, rfl⟩
  · rintro ⟨sp, rfl, hkind, hbits⟩
    cases sp with
    | decimal n long hword => exact .decimal n.sign n.magnitude long (hsame hword hbits)
    | hexadecimal s n long hword => exact .hexadecimal s n long (hsame hword hbits)
    | float d => exact absurd hkind (by simp [kind, form, Form.kind])
    | double d => exact absurd hkind (by simp [kind, form, Form.kind])

end Spelling

/-- A text is read as an integer if it spells it. -/
theorem spellsInteger_iff (h : IsWord v) : SpellsInteger text v ↔
    ∃ x, readLiteral text = .ok x ∧ x.same (.ofInteger v) = true := by
  constructor
  · rintro ⟨before, body, after, htext, hbefore, hafter, hinteger⟩
    obtain ⟨sp, hsp, hkind, hbits⟩ := (Spelling.integerText_iff h).mp hinteger
    have hblank : ∀ c ∈ lower body, isBlank c = false := by
      rw [hsp]
      exact fun c hc => (Spelling.steady_of_mem hc).1
    have hread : lower (trim text.toList) = sp.text := by
      rw [htext, Text.lower_trim_append hbefore hblank hafter, hsp]
    refine ⟨⟨text, sp.kind, sp.bits⟩, ?_, ?_⟩
    · exact readLiteral_eq_ok.mpr (Literal.parse?_eq_some.mpr ⟨sp, hread, rfl⟩)
    · rw [Literal.same_iff, Literal.bits_ofInteger]
      exact ⟨hkind, hbits⟩
  · rintro ⟨x, hx, hsame⟩
    obtain ⟨sp, hread, rfl⟩ := Literal.parse?_eq_some.mp (readLiteral_eq_ok.mp hx)
    rw [Literal.same_iff, Literal.bits_ofInteger] at hsame
    obtain ⟨before, after, htext, hbefore, hafter⟩ := Text.exists_trim text.toList
    refine ⟨before, trim text.toList, after, htext, hbefore, hafter, ?_⟩
    exact (Spelling.integerText_iff h).mpr ⟨sp, hread, hsame⟩

/-! ### Literals -/

/-- The literals that there are: those that are read, and those of integers of 64 bits. -/
inductive Arises : Literal → Prop
  | read {text : String} {x : Literal} (h : readLiteral text = .ok x) : Arises x
  | integer {v : Int} (h : IsWord v) : Arises (.ofInteger v)

/-- Whether a literal stands for a finite number. -/
def Literal.IsFinite (x : Literal) : Prop :=
  match x.kind with
  | .integer => True
  | .float => x.bits % Format.single.signBit < Format.single.infinity
  | .double => x.bits % Format.double.signBit < Format.double.infinity

instance : DecidablePred Literal.IsFinite
  | ⟨_, .integer, _⟩ => isTrue trivial
  | ⟨_, .float, bits⟩ =>
    inferInstanceAs (Decidable (bits % Format.single.signBit < Format.single.infinity))
  | ⟨_, .double, bits⟩ =>
    inferInstanceAs (Decidable (bits % Format.double.signBit < Format.double.infinity))

theorem Arises.bits_lt (h : Arises x) :
    x.bits < 2 ^ 64 ∧ (x.kind = .float → x.bits < 2 ^ 32) := by
  cases h with
  | read h =>
      obtain ⟨sp, -, rfl⟩ := Literal.parse?_eq_some.mp (readLiteral_eq_ok.mp h)
      exact sp.bits_lt
  | integer h =>
      refine ⟨?_, fun hkind => absurd hkind (by simp [Literal.ofInteger])⟩
      rw [Literal.bits_ofInteger]
      exact BitVec.isLt _

/-- The text of a finite literal is a spelling of it. -/
theorem exists_spelling_display (h : Arises x) (hfinite : x.IsFinite) :
    ∃ sp : Spelling, x.display.toList = sp.text ∧ sp.kind = x.kind ∧ sp.bits = x.bits := by
  obtain ⟨hword, hshort⟩ := h.bits_lt
  obtain ⟨raw, kind, bits⟩ := x
  cases kind with
  | integer =>
      obtain ⟨hfits, hsame⟩ := Literal.wordOf_ofWord hword
      obtain ⟨n, htext, hvalue⟩ := exists_signedNumeral (Literal.ofWord bits)
      refine ⟨.decimal n false (hvalue.symm ▸ hfits), ?_, rfl, ?_⟩
      · exact htext.trans (List.append_nil _).symm
      · show (BitVec.ofInt 64 n.value).toNat = bits
        rw [hvalue, ← Literal.wordOf_eq, hsame]
  | float =>
      have hbits : bits < 2 * Format.single.signBit := hshort rfl
      obtain ⟨d, htext, hvalue⟩ := Format.exists_decimal Format.within_single hbits hfinite
      refine ⟨.float d, ?_, rfl, hvalue⟩
      show (String.ofList (Format.single.text bits ++ ['f'])).toList = d.text ++ ['f']
      rw [String.toList_ofList, htext]
  | double =>
      have hbits : bits < 2 * Format.double.signBit := hword
      obtain ⟨d, htext, hvalue⟩ := Format.exists_decimal Format.within_double hbits hfinite
      refine ⟨.double d true (.inl rfl), ?_, rfl, hvalue⟩
      show (String.ofList (Format.double.text bits ++ ['d'])).toList = d.text ++ ['d']
      rw [String.toList_ofList, htext]

/-- The text of a finite literal is read as the same number. -/
theorem readLiteral_display (h : Arises x) (hfinite : x.IsFinite) :
    readLiteral x.display = .ok ⟨x.display, x.kind, x.bits⟩ := by
  obtain ⟨sp, htext, hkind, hbits⟩ := exists_spelling_display h hfinite
  refine readLiteral_eq_ok.mpr (Literal.parse?_eq_some.mpr ⟨sp, ?_, ?_⟩)
  · rw [htext, sp.lower_trim]
  · rw [hkind, hbits]

/-- No text with the letter of the words for numbers is a literal. -/
theorem readLiteral_of_mem (h : 'n' ∈ lower (trim text.toList)) :
    readLiteral text = .error (.invalidLiteral text) := by
  refine readLiteral_eq_error.mpr ⟨Option.eq_none_iff_forall_ne_some.mpr ?_, rfl⟩
  intro x hx
  obtain ⟨sp, hread, -⟩ := Literal.parse?_eq_some.mp hx
  exact sp.notMem_text (hread ▸ h)

/-- The text of an infinite literal is refused. -/
theorem readLiteral_display_of_infinite (h : ¬ x.IsFinite) :
    readLiteral x.display = .error (.invalidLiteral x.display) := by
  have hwords : ∀ mark ∈ ['f', 'd'], ∀ word ∈ [['i', 'n', 'f'], ['-', 'i', 'n', 'f']],
      'n' ∈ lower (trim (word ++ [mark])) := List.all_iff_forall_prop.mp (by decide)
  have hrefused {body : List Char} {mark : Char} (hmark : mark ∈ ['f', 'd'])
      (hbody : body = ['i', 'n', 'f'] ∨ body = ['-', 'i', 'n', 'f'])
      (hdisplay : x.display = String.ofList (body ++ [mark])) :
      readLiteral x.display = .error (.invalidLiteral x.display) := by
    refine readLiteral_of_mem ?_
    rw [hdisplay, String.toList_ofList]
    exact hwords mark hmark body (by simpa using hbody)
  obtain ⟨raw, kind, bits⟩ := x
  cases kind with
  | integer => exact absurd trivial h
  | float => exact hrefused (by decide) (Format.text_of_infinite h (by decide)) rfl
  | double => exact hrefused (by decide) (Format.text_of_infinite h (by decide)) rfl

/-- A text is read as a literal that is the same as that of an integer of 64 bits if and only if it
spells the integer, in base ten or sixteen, with zeros in front, in any case, with blanks around;
and what spells different integers is never read as the same. What is printed for a literal is read
as the same number again, a negative zero included, unless it is infinite: then it is refused. -/
theorem spellings_and_displays_agree :
    (∀ (v : Int) (text : String), IsWord v → (SpellsInteger text v ↔
      ∃ x, readLiteral text = .ok x ∧ x.same (.ofInteger v) = true)) ∧
    (∀ (v w : Int) (text text' : String), IsWord v → IsWord w → v ≠ w →
      SpellsInteger text v → SpellsInteger text' w →
      ∃ x y, readLiteral text = .ok x ∧ readLiteral text' = .ok y ∧ x.same y = false) ∧
    (∀ x, Arises x → x.IsFinite →
      ∃ y, readLiteral x.display = .ok y ∧ y.same x = true) ∧
    (∀ x, Arises x → ¬ x.IsFinite →
      readLiteral x.display = .error (.invalidLiteral x.display)) := by
  refine ⟨fun v text h => spellsInteger_iff h, ?_, ?_, fun x _ => readLiteral_display_of_infinite⟩
  · intro v w text text' hv hw hne hspells hspells'
    obtain ⟨x, hx, hsame⟩ := (spellsInteger_iff hv).mp hspells
    obtain ⟨y, hy, hsame'⟩ := (spellsInteger_iff hw).mp hspells'
    refine ⟨x, y, hx, hy, ?_⟩
    -- The bits decide on the integer.
    rw [Bool.eq_false_iff]
    intro hboth
    refine hne ?_
    rw [← Literal.ofWord_wordOf hv, ← Literal.ofWord_wordOf hw]
    have hbits := (Literal.same_iff.mp hboth).2
    rw [(Literal.same_iff.mp hsame).2, (Literal.same_iff.mp hsame').2] at hbits
    exact congrArg Literal.ofWord hbits
  · intro x harises hfinite
    refine ⟨_, readLiteral_display harises hfinite, ?_⟩
    rw [Literal.same_iff]
    exact ⟨rfl, rfl⟩

/-- Fifteen is spelled in both bases; a negative zero is read back from what is printed for it, and
the infinite float is not. -/
theorem fifteen_and_negative_zero_agree :
    (∃ x, readLiteral " +0x0FL" = .ok x ∧ x.same (.ofInteger 15) = true) ∧
    (∃ x y, readLiteral " +0x0FL" = .ok x ∧ readLiteral "-15" = .ok y ∧ x.same y = false) ∧
    (∃ y, readLiteral (Literal.display ⟨"-.0F", .float, 2 ^ 31⟩) = .ok y ∧
      y.same ⟨"-.0F", .float, 2 ^ 31⟩ = true) ∧
    readLiteral (Literal.display ⟨"1e39f", .float, Format.single.infinity⟩) =
      .error (.invalidLiteral (Literal.display ⟨"1e39f", .float, Format.single.infinity⟩)) := by
  obtain ⟨hspells, hdiffer, hfinite, hinfinite⟩ := spellings_and_displays_agree
  have hpositive : SpellsInteger " +0x0FL" 15 :=
    ⟨[' '], "+0x0FL".toList, [], by decide, List.forall_mem_singleton.mpr (by decide),
      List.forall_mem_nil _,
      .hexadecimal .plus ⟨[0, 15], by decide⟩ true (by decide)⟩
  have hnegative : SpellsInteger "-15" (-15) :=
    ⟨[], "-15".toList, [], by decide, List.forall_mem_nil _, List.forall_mem_nil _,
      .decimal .minus ⟨[1, 5], by decide⟩ false (by decide)⟩
  have hzero : readLiteral "-.0F" = .ok ⟨"-.0F", .float, 2 ^ 31⟩ :=
    readLiteral_eq_ok.mpr (Literal.parse?_eq_some.mpr
      ⟨.float ⟨.minus, [], some [0], none, by decide⟩, by decide, by decide⟩)
  have hlarge : readLiteral "1e39f" = .ok ⟨"1e39f", .float, Format.single.infinity⟩ :=
    readLiteral_eq_ok.mpr (Literal.parse?_eq_some.mpr
      ⟨.float ⟨.none, [1], none, some ⟨.none, ⟨[3, 9], by decide⟩⟩, by decide⟩, by decide,
        by decide⟩)
  exact ⟨(hspells 15 _ (by decide)).mp hpositive,
    hdiffer 15 (-15) _ _ (by decide) (by decide) (by decide) hpositive hnegative,
    hfinite _ (.read hzero) (by decide), hinfinite _ (.read hlarge) (by decide)⟩

end ArchiveScout.Number
