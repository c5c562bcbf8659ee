import ArchiveScout.Proofs.Number.Numeral
import ArchiveScout.Query.Spec
import Mathlib.Data.List.Basic

/-!
# ArchiveScout.Proofs.Number.Literal

**The grammar of literals.** A literal has one of four forms, and each form has its spellings: a
core and sometimes one letter behind it that marks the form. The letters that are in a text decide
which form it can have, so the tests of the reader, which come one after another and overlap, pick
the same form as the grammar.
-/

namespace ArchiveScout.Number

open ArchiveScout.Query (QueryError readLiteral)

variable {c : Char} {cs num : List Char} {long : Bool} {f : Format}

/-- The forms of literals. -/
inductive Form where
  | hexadecimal
  | decimal
  | float
  | double
deriving DecidableEq, Repr

def Form.kind : Form → LiteralKind
  | hexadecimal => .integer
  | decimal => .integer
  | float => .float
  | double => .double

/-- The integers of 64 bits. -/
def IsWord (v : Int) : Prop := -2 ^ 63 ≤ v ∧ v < 2 ^ 63

instance (v : Int) : Decidable (IsWord v) := inferInstanceAs (Decidable (_ ∧ _))

/-- The spellings of literals, in small letters. -/
inductive Spelling where
  | hexadecimal (sign : Sign) (digits : Numeral 16) (long : Bool)
      (hword : IsWord (sign.apply digits.value))
  | decimal (n : SignedNumeral 10) (long : Bool) (hword : IsWord n.value)
  | float (x : Decimal)
  /-- A double has its mark or a point. -/
  | double (x : Decimal) (marked : Bool) (hdouble : marked = true ∨ x.part ≠ none)

/-- The mark of a long. -/
def longMark (long : Bool) : Option Char := if long then some 'l' else none

namespace Spelling

def form : Spelling → Form
  | hexadecimal .. => .hexadecimal
  | decimal .. => .decimal
  | float .. => .float
  | double .. => .double

/-- The text in front of the mark. -/
def core : Spelling → List Char
  | hexadecimal sign digits .. => sign.text ++ '0' :: 'x' :: digits.text
  | decimal n .. => n.text
  | float x => x.text
  | double x .. => x.text

/-- The letter that marks a long, a float or a double. -/
def mark : Spelling → Option Char
  | hexadecimal _ _ long _ => longMark long
  | decimal _ long _ => longMark long
  | float _ => some 'f'
  | double _ marked _ => if marked then some 'd' else none

def text (sp : Spelling) : List Char := sp.core ++ sp.mark.toList

def kind (sp : Spelling) : LiteralKind := sp.form.kind

/-- The bits: two's complement, or the pattern of the nearest number of a format. -/
def bits : Spelling → Nat
  | hexadecimal sign digits .. => (BitVec.ofInt 64 (sign.apply digits.value)).toNat
  | decimal n .. => (BitVec.ofInt 64 n.value).toNat
  | float x => Format.single.ofFraction x.value
  | double x .. => Format.double.ofFraction x.value

end Spelling

/-! ### Letters -/

/-- The letters that a core of some form can have. -/
def Form.letters : Form → List Char
  | .hexadecimal => (List.range 16).map Nat.digitChar ++ ['+', '-', 'x']
  | .decimal => (List.range 10).map Nat.digitChar ++ ['+', '-']
  | .float | .double => (List.range 10).map Nat.digitChar ++ ['+', '-', '.', 'e']

theorem mem_digitText {base : Nat} {ds : List (Fin base)} (h : c ∈ digitText ds) :
    c ∈ (List.range base).map Nat.digitChar := by
  obtain ⟨d, -, rfl⟩ := List.mem_map.mp h
  exact List.mem_map.mpr ⟨d, List.mem_range.mpr d.isLt, rfl⟩

theorem Sign.mem_text {s : Sign} (h : c ∈ s.text) : c = '+' ∨ c = '-' := by
  cases s with
  | none => exact absurd h List.not_mem_nil
  | plus => exact .inl (List.mem_singleton.mp h)
  | minus => exact .inr (List.mem_singleton.mp h)

theorem SignedNumeral.text_subset (n : SignedNumeral 10) : n.text ⊆ Form.decimal.letters := by
  intro c hc
  rcases List.mem_append.mp hc with hsign | hdigit
  · rcases Sign.mem_text hsign with rfl | rfl <;> decide
  · exact List.mem_append_left _ (mem_digitText hdigit)

theorem Decimal.text_subset (x : Decimal) : x.text ⊆ Form.float.letters := by
  have hdecimal : Form.decimal.letters ⊆ Form.float.letters := by decide
  have hdigits : ∀ ds : List (Fin 10), digitText ds ⊆ Form.float.letters :=
    fun ds c hc => List.mem_append_left _ (mem_digitText hc)
  intro c hc
  obtain ⟨sign, whole, part, exponent, hsome⟩ := x
  simp only [text, List.mem_append] at hc
  rcases hc with hsign | hwhole | hpart | hexponent
  · rcases Sign.mem_text hsign with rfl | rfl <;> decide
  · exact hdigits _ hwhole
  · cases part with
    | none => exact absurd hpart List.not_mem_nil
    | some ds =>
        rcases List.mem_cons.mp hpart with rfl | hdigit
        · decide
        · exact hdigits _ hdigit
  · cases exponent with
    | none => exact absurd hexponent List.not_mem_nil
    | some n =>
        rcases List.mem_cons.mp hexponent with rfl | hdigit
        · decide
        · exact hdecimal (n.text_subset hdigit)

/-- A point is in a fraction only in front of its part. -/
theorem Decimal.point_mem_iff (x : Decimal) : '.' ∈ x.text ↔ x.part ≠ none := by
  obtain ⟨sign, whole, part, exponent, hsome⟩ := x
  have hsign : '.' ∉ sign.text := fun h => by rcases Sign.mem_text h with h | h <;> simp at h
  have hdigits : '.' ∉ digitText whole := fun h => absurd (mem_digitText h) (by decide)
  have hexponent : '.' ∉ exponentText exponent := by
    cases exponent with
    | none => exact List.not_mem_nil
    | some n =>
        rw [exponentText, List.mem_cons, not_or]
        exact ⟨by decide, fun h => absurd (n.text_subset h) (by decide)⟩
  cases part with
  | none => simp [text, partText, hsign, hdigits, hexponent]
  | some ds => simp [text, partText]

/-- The core of a hexadecimal integer. -/
theorem hexadecimal_subset (s : Sign) (n : Numeral 16) :
    s.text ++ '0' :: 'x' :: n.text ⊆ Form.hexadecimal.letters := by
  intro c hc
  rcases List.mem_append.mp hc with hsign | hc
  · rcases Sign.mem_text hsign with rfl | rfl <;> decide
  rcases List.mem_cons.mp hc with rfl | hc
  · decide
  rcases List.mem_cons.mp hc with rfl | hdigit
  · decide
  · exact List.mem_append_left _ (mem_digitText hdigit)

namespace Spelling

theorem core_subset (sp : Spelling) : sp.core ⊆ sp.form.letters := by
  cases sp with
  | hexadecimal sign digits => exact hexadecimal_subset sign digits
  | decimal n => exact n.text_subset
  | float x => exact x.text_subset
  | double x => exact x.text_subset

/-- A letter that cores of a form do not have is in a text as the mark only. -/
theorem mem_text_of_notMem {sp : Spelling} (hletter : c ∉ sp.form.letters) :
    c ∈ sp.text ↔ sp.mark = some c := by
  rw [text, List.mem_append, or_iff_right fun hcore => hletter (sp.core_subset hcore),
    Option.mem_toList]

end Spelling

/-- The form that the letters of a text decide on. -/
def Form.ofLetters (cs : List Char) : Form :=
  if 'x' ∈ cs then .hexadecimal
  else if 'f' ∈ cs then .float
  else if 'd' ∈ cs ∨ '.' ∈ cs then .double
  else .decimal

/-- The letters of a spelling decide on its form. -/
theorem Spelling.form_eq (sp : Spelling) : sp.form = Form.ofLetters sp.text := by
  -- The letters of a form are in its spellings; those that are asked for before are not.
  rw [Form.ofLetters]
  cases sp with
  | hexadecimal sign digits long => rw [if_pos (by simp [text, core]), form]
  | decimal n long hword =>
      have hnot (c : Char) (hletter : c ∉ Form.decimal.letters) (hl : c ≠ 'l') :
          c ∉ (decimal n long hword).text := by
        rw [mem_text_of_notMem hletter]
        cases long <;> simp [mark, longMark, hl.symm]
      rw [if_neg (hnot 'x' (by decide) (by decide)), if_neg (hnot 'f' (by decide) (by decide)),
        if_neg (not_or.mpr ⟨hnot 'd' (by decide) (by decide), hnot '.' (by decide) (by decide)⟩),
        form]
  | float x =>
      have hnot : 'x' ∉ (float x).text := by
        rw [mem_text_of_notMem (show 'x' ∉ Form.float.letters by decide)]
        simp [mark]
      rw [if_neg hnot, if_pos (by simp [text, mark]), form]
  | double x marked hdouble =>
      have hnot (c : Char) (hletter : c ∉ Form.double.letters) (hd : c ≠ 'd') :
          c ∉ (double x marked hdouble).text := by
        rw [mem_text_of_notMem hletter]
        cases marked <;> simp [mark, hd.symm]
      have hsome : 'd' ∈ (double x marked hdouble).text ∨ '.' ∈ (double x marked hdouble).text := by
        rcases hdouble with rfl | hpoint
        · exact .inl (by simp [text, mark])
        · exact .inr (List.mem_append_left _ ((Decimal.point_mem_iff x).mpr hpoint))
      rw [if_neg (hnot 'x' (by decide) (by decide)), if_neg (hnot 'f' (by decide) (by decide)),
        if_pos hsome, form]

/-! ### Reading -/

theorem fitsSigned_iff {v : Int} : fitsSigned 64 v = true ↔ IsWord v := by
  rw [fitsSigned, IsWord, Bool.and_eq_true, decide_eq_true_iff, decide_eq_true_iff, and_comm]
  norm_num

namespace Literal

theorem wordOf_eq (v : Int) : wordOf v = (BitVec.ofInt 64 v).toNat := by
  rw [BitVec.toNat_ofInt]
  rfl

/-- A text is read as a hexadecimal integer if it is one, also if it is too large. -/
theorem hexadecimal?_eq_some {v : Option Int} :
    hexadecimal? cs = some v ↔ ∃ (s : Sign) (n : Numeral 16),
      cs = s.text ++ '0' :: 'x' :: n.text ∧
        v = if IsWord (s.apply n.value) then some (s.apply n.value) else none := by
  have hword (s : Sign) (n : Nat) : (some (if s.isMinus then -(n : Int) else n)).filter
      (fitsSigned 64) = if IsWord (s.apply n) then some (s.apply n) else none := by
    rw [Option.filter_some, Sign.apply]
    exact if_congr fitsSigned_iff rfl rfl
  rw [hexadecimal?]
  constructor
  · intro h
    obtain ⟨s, hcs, hs⟩ := exists_sign cs
    generalize takeSign cs = taken at h hcs hs
    split at h
    · rename_i negative digits
      obtain rfl : negative = s.isMinus := hs
      cases hdigits : natural? 16 digits with
      | none => exact absurd h (by simp [hdigits])
      | some m =>
          obtain ⟨n, rfl, rfl⟩ := (natural?_eq_some (by decide)).mp hdigits
          rw [hdigits] at h
          exact ⟨s, n, hcs, (Option.some.inj h).symm.trans (hword s n.value)⟩
    · exact absurd h (by simp)
  · rintro ⟨s, n, rfl, rfl⟩
    have hunsigned : Unsigned ('0' :: 'x' :: n.text) := by
      intro c hc
      obtain rfl := Option.some.inj hc
      decide
    have hdigits : natural? 16 n.text = some n.value :=
      (natural?_eq_some (by decide)).mpr ⟨n, rfl, rfl⟩
    rw [takeSign_text s hunsigned]
    simp only [hdigits]
    exact congrArg some (hword s n.value)

/-- The words for numbers have a letter that is in no fraction. -/
theorem mem_of_ofWord? {word : String} {bits : Nat} (h : f.ofWord? word = some bits) :
    'n' ∈ word.toList := by
  rw [Format.ofWord?] at h
  split at h
  · rename_i hinfinity
    rcases hinfinity with rfl | rfl <;> decide
  · split at h
    · rename_i hnan
      obtain rfl := hnan
      decide
    · exact absurd h (by simp)

/-- A text is read as a number if it is a fraction, or a word behind a sign. -/
theorem read?_cases {bits : Nat} (h : f.read? cs = some bits) :
    (∃ x : Decimal, cs = x.text ∧ bits = f.ofFraction x.value) ∨
      ∃ (s : Sign) (word : String) (magnitude : Nat), cs = s.text ++ word.toList ∧
        f.ofWord? word = some magnitude ∧ bits = f.withSign s.isMinus magnitude := by
  rw [Format.read?] at h
  split at h
  · rename_i x hx
    obtain ⟨n, rfl, rfl⟩ := fraction?_eq_some.mp hx
    exact .inl ⟨n, rfl, (Option.some.inj h).symm⟩
  · obtain ⟨s, hcs, hs⟩ := exists_sign cs
    generalize takeSign cs = taken at h hcs hs
    obtain ⟨negative, word⟩ := taken
    obtain rfl : negative = s.isMinus := hs
    obtain ⟨magnitude, hmagnitude, rfl⟩ := Option.map_eq_some_iff.mp h
    exact .inr ⟨s, String.ofList word, magnitude, by rwa [String.toList_ofList], hmagnitude, rfl⟩

theorem read?_text (f : Format) (x : Decimal) : f.read? x.text = some (f.ofFraction x.value) := by
  rw [Format.read?, fraction?_eq_some.mpr ⟨x, rfl, rfl⟩]

/-- Of the numbers that can be read the words are none. -/
theorem fractionBits?_eq_some {bits : Nat} :
    fractionBits? f cs = some bits ↔ ∃ x : Decimal, cs = x.text ∧ bits = f.ofFraction x.value := by
  rw [fractionBits?]
  constructor
  · intro h
    split at h
    · exact absurd h (by simp)
    · rename_i hletters
      refine (read?_cases h).resolve_right ?_
      rintro ⟨s, word, magnitude, rfl, hword, -⟩
      refine hletters (List.any_eq_true.mpr ⟨'n', ?_, by decide⟩)
      exact List.mem_append_right _ (mem_of_ofWord? hword)
  · rintro ⟨x, rfl, rfl⟩
    have hletters : Form.float.letters.any (fun c => c.isAlpha && c != 'e') = false := by decide
    rw [if_neg, read?_text]
    rw [List.any_eq_true]
    rintro ⟨c, hc, hletter⟩
    exact List.any_eq_false.mp hletters c (x.text_subset hc) hletter

theorem signed?_eq_some {v : Int} : signed? 64 10 cs = some v ↔
    ∃ n : SignedNumeral 10, IsWord n.value ∧ cs = n.text ∧ v = n.value := by
  rw [signed?, Option.filter_eq_some_iff]
  simp only [integer?_eq_some (show 10 ≤ 16 by decide), fitsSigned_iff]
  constructor
  · rintro ⟨⟨n, hcs, rfl⟩, hword⟩
    exact ⟨n, hword, hcs, rfl⟩
  · rintro ⟨n, hword, hcs, rfl⟩
    exact ⟨⟨n, hcs, rfl⟩, hword⟩

theorem noMark (cs : List Char) : cs = cs ++ (longMark false).toList := (List.append_nil cs).symm

/-- The mark of a long is not part of what it marks. -/
theorem longMark_cancel {body : List Char} {long' : Bool}
    (hnum : long = false → num.getLast? ≠ some 'l') (hbody : 'l' ∉ body)
    (h : num ++ (longMark long).toList = body ++ (longMark long').toList) :
    num = body ∧ long = long' := by
  cases long with
  | true =>
      cases long' with
      | true => exact ⟨List.append_cancel_right h, rfl⟩
      | false =>
          obtain rfl : num ++ ['l'] = body := by simpa [longMark] using h
          exact absurd (by simp) hbody
  | false =>
      cases long' with
      | true =>
          obtain rfl : num = body ++ ['l'] := by simpa [longMark] using h
          exact absurd List.getLast?_concat (hnum rfl)
      | false => exact ⟨List.append_cancel_right h, rfl⟩

theorem getLast?_ne_of_notMem (h : c ∉ cs) : cs.getLast? ≠ some c :=
  fun hlast => h (List.mem_of_getLast? hlast)

/-- What is read in front of the mark of a long is what a spelling stands for. -/
theorem exists_spelling {r : LiteralKind × Nat} (h : value? num long = some r) :
    ∃ sp : Spelling, num ++ (longMark long).toList = sp.text ∧ r = (sp.kind, sp.bits) := by
  rw [value?] at h
  split at h
  · rename_i v hv
    obtain ⟨s, n, rfl, rfl⟩ := hexadecimal?_eq_some.mp hv
    split at h
    · rename_i hword
      refine ⟨.hexadecimal s n long hword, rfl, ?_⟩
      rw [← Option.some.inj h]
      exact congrArg _ (wordOf_eq _)
    · exact absurd h (by simp)
  split at h
  · rename_i hlast
    split at h
    · exact absurd h (by simp)
    · rename_i hshort
      obtain ⟨bits, hbits, rfl⟩ := Option.map_eq_some_iff.mp h
      obtain ⟨x, hx, rfl⟩ := fractionBits?_eq_some.mp hbits
      refine ⟨.float x, ?_, rfl⟩
      rw [← List.dropLast_append_getLast? 'f' hlast, hx, longMark, if_neg hshort]
      exact List.append_nil _
  split at h
  · rename_i hdouble
    split at h
    · exact absurd h (by simp)
    · rename_i hshort
      obtain ⟨bits, hbits, rfl⟩ := Option.map_eq_some_iff.mp h
      obtain ⟨x, hx, rfl⟩ := fractionBits?_eq_some.mp hbits
      rw [longMark, if_neg hshort]
      split at hx
      · rename_i hlast
        refine ⟨.double x true (.inl rfl), ?_, rfl⟩
        rw [← List.dropLast_append_getLast? 'd' hlast, hx]
        exact List.append_nil _
      · rename_i hlast
        obtain rfl := hx
        refine ⟨.double x false (.inr ?_), rfl, rfl⟩
        exact (Decimal.point_mem_iff x).mp (hdouble.resolve_left hlast)
  · obtain ⟨v, hv, rfl⟩ := Option.map_eq_some_iff.mp h
    obtain ⟨n, hword, rfl, rfl⟩ := signed?_eq_some.mp hv
    refine ⟨.decimal n long hword, rfl, ?_⟩
    exact congrArg _ (wordOf_eq _)

theorem hexadecimal?_eq_none (h : 'x' ∉ cs) : hexadecimal? cs = none := by
  rw [Option.eq_none_iff_forall_ne_some]
  rintro v hv
  obtain ⟨s, n, rfl, -⟩ := hexadecimal?_eq_some.mp hv
  exact absurd (by simp) h

theorem value?_hexadecimal {s : Sign} {n : Numeral 16} (long : Bool)
    (hword : IsWord (s.apply n.value)) : value? (s.text ++ '0' :: 'x' :: n.text) long =
      some (.integer, (BitVec.ofInt 64 (s.apply n.value)).toNat) := by
  rw [value?, hexadecimal?_eq_some.mpr ⟨s, n, rfl, rfl⟩, if_pos hword]
  exact congrArg (fun bits => some (LiteralKind.integer, bits)) (wordOf_eq _)

theorem value?_decimal {n : SignedNumeral 10} (long : Bool) (hword : IsWord n.value) :
    value? n.text long = some (.integer, (BitVec.ofInt 64 n.value).toNat) := by
  have hnot (c : Char) (h : c ∉ Form.decimal.letters) : c ∉ n.text := fun hc => h (n.text_subset hc)
  rw [value?, hexadecimal?_eq_none (hnot 'x' (by decide))]
  dsimp only
  rw [if_neg (getLast?_ne_of_notMem (hnot 'f' (by decide))),
    if_neg (not_or.mpr ⟨getLast?_ne_of_notMem (hnot 'd' (by decide)), hnot '.' (by decide)⟩),
    signed?_eq_some.mpr ⟨n, hword, rfl, rfl⟩]
  exact congrArg (fun bits => some (LiteralKind.integer, bits)) (wordOf_eq _)

theorem value?_float (x : Decimal) :
    value? (x.text ++ ['f']) false = some (.float, Format.single.ofFraction x.value) := by
  have hx : 'x' ∉ x.text := fun h => absurd (x.text_subset h) (by decide)
  rw [value?, hexadecimal?_eq_none (by simp [hx])]
  dsimp only
  rw [if_pos List.getLast?_concat, List.dropLast_concat, if_neg (by decide),
    fractionBits?_eq_some.mpr ⟨x, rfl, rfl⟩, Option.map_some]

/-- A double is read with its mark. -/
theorem value?_marked (x : Decimal) :
    value? (x.text ++ ['d']) false = some (.double, Format.double.ofFraction x.value) := by
  have hx : 'x' ∉ x.text := fun h => absurd (x.text_subset h) (by decide)
  rw [value?, hexadecimal?_eq_none (by simp [hx])]
  dsimp only
  rw [List.getLast?_concat, List.dropLast_concat, if_neg (by decide), if_pos (.inl rfl),
    if_neg (by decide), if_pos rfl, fractionBits?_eq_some.mpr ⟨x, rfl, rfl⟩, Option.map_some]

/-- A double is read without its mark if it has a point. -/
theorem value?_pointed {x : Decimal} (hpart : x.part ≠ none) :
    value? x.text false = some (.double, Format.double.ofFraction x.value) := by
  have hnot (c : Char) (h : c ∉ Form.double.letters) : c ∉ x.text := fun hc => h (x.text_subset hc)
  rw [value?, hexadecimal?_eq_none (hnot 'x' (by decide))]
  dsimp only
  rw [if_neg (getLast?_ne_of_notMem (hnot 'f' (by decide))),
    if_pos (.inr ((Decimal.point_mem_iff x).mpr hpart)), if_neg (by decide),
    if_neg (getLast?_ne_of_notMem (hnot 'd' (by decide))),
    fractionBits?_eq_some.mpr ⟨x, rfl, rfl⟩, Option.map_some]

/-- Every spelling is read. -/
theorem value?_of_spelling (sp : Spelling) (hnum : long = false → num.getLast? ≠ some 'l')
    (htext : num ++ (longMark long).toList = sp.text) :
    value? num long = some (sp.kind, sp.bits) := by
  -- No core has the letter of a long, so what is read is the core, or the core with its mark.
  cases sp with
  | hexadecimal s n long' hword =>
      have hl : 'l' ∉ s.text ++ '0' :: 'x' :: n.text :=
        fun h => absurd (hexadecimal_subset s n h) (by decide)
      obtain ⟨rfl, rfl⟩ := longMark_cancel hnum hl htext
      exact value?_hexadecimal long hword
  | decimal n long' hword =>
      have hl : 'l' ∉ n.text := fun h => absurd (n.text_subset h) (by decide)
      obtain ⟨rfl, rfl⟩ := longMark_cancel hnum hl htext
      exact value?_decimal long hword
  | float x =>
      have hl : 'l' ∉ x.text := fun h => absurd (x.text_subset h) (by decide)
      obtain ⟨rfl, rfl⟩ := longMark_cancel hnum (by simp [hl])
        (htext.trans (noMark (x.text ++ ['f'])))
      exact value?_float x
  | double x marked hdouble =>
      have hl : 'l' ∉ x.text := fun h => absurd (x.text_subset h) (by decide)
      cases marked with
      | true =>
          obtain ⟨rfl, rfl⟩ := longMark_cancel hnum (by simp [hl])
            (htext.trans (noMark (x.text ++ ['d'])))
          exact value?_marked x
      | false =>
          have htext : num ++ (longMark long).toList = x.text ++ (longMark false).toList := htext
          obtain ⟨rfl, rfl⟩ := longMark_cancel hnum hl htext
          exact value?_pointed (hdouble.resolve_left (by decide))

/-- What is read in front of the mark of a long is what a spelling stands for. -/
theorem value?_eq_some {r : LiteralKind × Nat} (hnum : long = false → num.getLast? ≠ some 'l') :
    value? num long = some r ↔
      ∃ sp : Spelling, num ++ (longMark long).toList = sp.text ∧ r = (sp.kind, sp.bits) := by
  refine ⟨exists_spelling, ?_⟩
  rintro ⟨sp, htext, rfl⟩
  exact value?_of_spelling sp hnum htext

/-- A literal is read from a text if that is a spelling, but for case and blanks around it. -/
theorem parse?_eq_some {text : String} {x : Literal} : parse? text = some x ↔ ∃ sp : Spelling,
    Text.lower (Text.trim text.toList) = sp.text ∧ x = ⟨text, sp.kind, sp.bits⟩ := by
  rw [parse?]
  generalize Text.lower (Text.trim text.toList) = small
  have hparse (num : List Char) (long : Bool) (hsmall : small = num ++ (longMark long).toList)
      (hnum : long = false → num.getLast? ≠ some 'l') :
      (value? num long).map (fun r => (⟨text, r.1, r.2⟩ : Literal)) = some x ↔
        ∃ sp : Spelling, small = sp.text ∧ x = ⟨text, sp.kind, sp.bits⟩ := by
    simp only [Option.map_eq_some_iff, value?_eq_some hnum, ← hsmall]
    constructor
    · rintro ⟨_, ⟨sp, htext, rfl⟩, rfl⟩
      exact ⟨sp, htext, rfl⟩
    · rintro ⟨sp, htext, rfl⟩
      exact ⟨_, ⟨sp, htext, rfl⟩, rfl⟩
  by_cases hlong : small.getLast? = some 'l'
  · have hsmall := (List.dropLast_append_getLast? 'l' hlong).symm
    have h := hparse small.dropLast true hsmall (by simp)
    simpa only [hlong, decide_true, if_true] using h
  · have h := hparse small false (noMark small) fun _ => hlong
    simpa only [hlong, decide_false, if_false] using h

end Literal

theorem readLiteral_eq_ok {text : String} {x : Literal} :
    readLiteral text = .ok x ↔ Literal.parse? text = some x := by
  rw [readLiteral]
  cases Literal.parse? text <;> simp

theorem readLiteral_eq_error {text : String} {e : QueryError} :
    readLiteral text = .error e ↔ Literal.parse? text = none ∧ e = .invalidLiteral text := by
  rw [readLiteral]
  cases Literal.parse? text <;> simp [eq_comm]

/-! ### Rejections -/

/-- Only hexadecimal cores have letters that are marks, and they lack the only mark of their form. -/
theorem Form.hexadecimal_of_mark {form : Form} (hmark : c ∈ ['l', 'f', 'd'])
    (hletter : c ∈ form.letters) : form = .hexadecimal ∧ c ≠ 'l' := by
  have hlong : 'l' ∉ form.letters := by cases form <;> decide
  have hform : 'f' ∈ form.letters ∨ 'd' ∈ form.letters → form = .hexadecimal := by
    cases form <;> decide
  simp only [List.mem_cons, List.not_mem_nil, or_false] at hmark
  rcases hmark with rfl | rfl | rfl
  · exact absurd hletter hlong
  · exact ⟨hform (.inl hletter), by decide⟩
  · exact ⟨hform (.inr hletter), by decide⟩

namespace Spelling

theorem mem_marks {sp : Spelling} (h : sp.mark = some c) : c ∈ ['l', 'f', 'd'] := by
  have hlong : ∀ long, longMark long = some c → c ∈ ['l', 'f', 'd'] := by
    intro long hlong
    cases long with
    | true => exact Option.some.inj hlong ▸ by decide
    | false => exact absurd hlong (by simp [longMark])
  cases sp with
  | hexadecimal s n long => exact hlong long h
  | decimal n long => exact hlong long h
  | float x => exact Option.some.inj h ▸ by decide
  | double x marked =>
      cases marked with
      | true => exact Option.some.inj h ▸ by decide
      | false => exact absurd h (by simp [mark])

theorem form_eq_hexadecimal {sp : Spelling} : sp.form = .hexadecimal ↔ 'x' ∈ sp.text := by
  rw [sp.form_eq, Form.ofLetters]
  split_ifs <;> simp_all

/-- Only an integer has the mark of a long. -/
theorem kind_of_mem {sp : Spelling} (h : 'l' ∈ sp.text) : sp.kind = .integer := by
  cases sp with
  | hexadecimal => rfl
  | decimal => rfl
  | float x =>
      rw [mem_text_of_notMem (show 'l' ∉ Form.float.letters by decide)] at h
      exact absurd h (by simp [mark])
  | double x marked =>
      rw [mem_text_of_notMem (show 'l' ∉ Form.double.letters by decide)] at h
      cases marked <;> simp [mark] at h

/-- No mark stands behind a mark. -/
theorem text_ne_of_mark {sp sp' : Spelling} (hc : c ∈ ['l', 'f', 'd']) (hmark : sp.mark ≠ none) :
    sp'.text ≠ sp.text ++ [c] := by
  obtain ⟨m, hm⟩ := Option.ne_none_iff_exists'.mp hmark
  intro h
  -- The mark in front stands in the core of the longer text.
  have hcore : m ∈ sp'.core := by
    rw [text, text, hm] at h
    cases hlast : sp'.mark with
    | none =>
        rw [hlast, Option.toList_none, List.append_nil] at h
        simp [h]
    | some m' =>
        rw [hlast] at h
        have hfront := (List.append_inj' h rfl).1
        simp [hfront]
  obtain ⟨hform, hne⟩ := Form.hexadecimal_of_mark (mem_marks hm) (sp'.core_subset hcore)
  rw [form_eq_hexadecimal, h, List.mem_append] at hform
  have hx : 'x' ∉ [c] := by
    rw [List.mem_singleton]
    rintro rfl
    exact absurd hc (by decide)
  have hform := form_eq_hexadecimal.mpr (hform.resolve_right hx)
  cases sp with
  | hexadecimal s n long =>
      cases long with
      | true => exact hne (Option.some.inj hm).symm
      | false => exact absurd hm (by simp [mark, longMark])
  | _ => exact absurd hform (by simp [form])

/-- No mark of a long stands behind a float or a double. -/
theorem text_ne_of_kind {sp sp' : Spelling} (hkind : sp.kind ≠ .integer) :
    sp'.text ≠ sp.text ++ ['l'] := by
  intro h
  have hform : sp'.form = sp.form := by
    rw [sp.form_eq, sp'.form_eq, h]
    simp [Form.ofLetters]
  have hlong : 'l' ∈ sp'.text := by simp [h]
  rw [kind, ← hform] at hkind
  exact hkind (kind_of_mem hlong)

/-- The letter of the words for numbers is in no spelling. -/
theorem notMem_text (sp : Spelling) : 'n' ∉ sp.text := by
  have hall : ∀ form : Form, 'n' ∉ form.letters := by
    intro form
    cases form <;> decide
  rw [mem_text_of_notMem (hall _)]
  intro hmark
  exact absurd (mem_marks hmark) (by decide)

end Spelling

/-- Spellings of what looks like a number and is no literal. -/
inductive Misspelled : List Char → Prop
  /-- A word for a number, with anything around it. -/
  | word {word : String} {before after : List Char} (hword : word ∈ ["inf", "infinity", "nan"]) :
      Misspelled (before ++ word.toList ++ after)
  /-- The mark of a long behind a float or a double. -/
  | long {sp : Spelling} (hkind : sp.kind ≠ .integer) : Misspelled (sp.text ++ ['l'])
  /-- A mark behind a mark. -/
  | marks {sp : Spelling} {c : Char} (hmark : sp.mark ≠ none) (hc : c ∈ ['l', 'f', 'd']) :
      Misspelled (sp.text ++ [c])

theorem Misspelled.ne_text (h : Misspelled cs) (sp : Spelling) : cs ≠ sp.text := by
  intro htext
  cases h with
  | word hword =>
      have hall : ∀ word ∈ ["inf", "infinity", "nan"], 'n' ∈ word.toList := by decide
      refine sp.notMem_text ?_
      rw [← htext]
      exact List.mem_append_left _ (List.mem_append_right _ (hall _ hword))
  | long hkind => exact Spelling.text_ne_of_kind hkind htext.symm
  | marks hmark hc => exact Spelling.text_ne_of_mark hc hmark htext.symm

/-! ### Sizes -/

theorem Format.ofDecimal_le (f : Format) (digits : Nat) (exponent : Int) :
    f.ofDecimal digits exponent ≤ f.infinity := by
  unfold Format.ofDecimal
  dsimp only
  split_ifs
  · exact Nat.zero_le _
  · exact le_rfl
  · exact min_le_left _ _
  · exact min_le_left _ _

theorem Format.ofFraction_le (f : Format) (x : Fraction) :
    f.ofFraction x ≤ f.signBit + f.infinity := by
  rw [Format.ofFraction, Format.withSign]
  exact Nat.add_le_add (by split_ifs <;> omega) (f.ofDecimal_le _ _)

/-- The bits of a float are those of its 32 bits with zeros in front. -/
theorem Spelling.bits_lt (sp : Spelling) :
    sp.bits < 2 ^ 64 ∧ (sp.kind = .float → sp.bits < 2 ^ 32) := by
  have hsingle : Format.single.signBit + Format.single.infinity < 2 ^ 32 := by decide
  have hdouble : Format.double.signBit + Format.double.infinity < 2 ^ 64 := by decide
  cases sp with
  | hexadecimal => exact ⟨BitVec.isLt _, fun h => absurd h (by simp [kind, form, Form.kind])⟩
  | decimal => exact ⟨BitVec.isLt _, fun h => absurd h (by simp [kind, form, Form.kind])⟩
  | float x =>
      have hle := (Format.single.ofFraction_le x.value).trans_lt hsingle
      exact ⟨hle.trans (by decide), fun _ => hle⟩
  | double x =>
      refine ⟨(Format.double.ofFraction_le x.value).trans_lt hdouble, fun h => ?_⟩
      exact absurd h (by simp [kind, form, Form.kind])

/-! ### Literals -/

/-- A text is a literal if it is, trimmed and in small letters, one of the spellings. These have
four forms, of which no text has two, and the form decides on the kind of the literal: integers have
the bits of their value in two's complement, floats and doubles those that their format reads in
their fraction. Every other text, like those that are spelled with words, with the mark of a long
behind a float or a double or with two marks, is refused as it is given. -/
theorem literals_are_spellings (text : String) :
    (∀ x, readLiteral text = .ok x ↔ ∃ sp : Spelling,
      Text.lower (Text.trim text.toList) = sp.text ∧ x = ⟨text, sp.kind, sp.bits⟩) ∧
    (∀ e, readLiteral text = .error e ↔
      (∀ sp : Spelling, Text.lower (Text.trim text.toList) ≠ sp.text) ∧ e = .invalidLiteral text) ∧
    (∀ sp sp' : Spelling, sp.text = sp'.text → sp.form = sp'.form) ∧
    (∀ (f : Format) (x : Decimal), f.read? x.text = some (f.ofFraction x.value)) ∧
    (∀ sp : Spelling, sp.bits < 2 ^ 64 ∧ (sp.kind = .float → sp.bits < 2 ^ 32)) ∧
    (Misspelled (Text.lower (Text.trim text.toList)) →
      readLiteral text = .error (.invalidLiteral text)) := by
  have hok (x : Literal) : readLiteral text = .ok x ↔ ∃ sp : Spelling,
      Text.lower (Text.trim text.toList) = sp.text ∧ x = ⟨text, sp.kind, sp.bits⟩ :=
    readLiteral_eq_ok.trans Literal.parse?_eq_some
  have herror (e : QueryError) : readLiteral text = .error e ↔
      (∀ sp : Spelling, Text.lower (Text.trim text.toList) ≠ sp.text) ∧
        e = .invalidLiteral text := by
    rw [readLiteral_eq_error, Option.eq_none_iff_forall_ne_some]
    refine and_congr_left fun _ => ⟨fun h sp htext => ?_, fun h x hx => ?_⟩
    · exact h _ (Literal.parse?_eq_some.mpr ⟨sp, htext, rfl⟩)
    · obtain ⟨sp, htext, -⟩ := Literal.parse?_eq_some.mp hx
      exact h sp htext
  refine ⟨hok, herror, fun sp sp' h => ?_, Literal.read?_text, fun sp => sp.bits_lt, fun h => ?_⟩
  · rw [sp.form_eq, sp'.form_eq, h]
  · exact (herror _).mpr ⟨h.ne_text, rfl⟩

/-- The least integer is spelled with sixteen digits behind its sign; with the mark of a long a
double is refused. -/
theorem least_integer_is_spelled :
    readLiteral " -0x8000000000000000L" = .ok ⟨" -0x8000000000000000L", .integer, 2 ^ 63⟩ ∧
      readLiteral "1.5L " = .error (.invalidLiteral "1.5L ") := by
  obtain ⟨hinteger, -⟩ := literals_are_spellings " -0x8000000000000000L"
  obtain ⟨-, -, -, -, -, hrefused⟩ := literals_are_spellings "1.5L "
  constructor
  · exact (hinteger _).mpr ⟨.hexadecimal .minus ⟨8 :: List.replicate 15 0, by decide⟩ true
      (by decide), by decide, by decide⟩
  · have htext : Text.lower (Text.trim "1.5L ".toList) =
        (Spelling.double ⟨.none, [1], some [5], none, by decide⟩ false (.inr (by decide))).text ++
          ['l'] := by
      decide
    exact hrefused (htext ▸ .long (by decide))

end ArchiveScout.Number
