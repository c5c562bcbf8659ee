import ArchiveScout.Proofs.Query.Criteria
import ArchiveScout.Proofs.Text.Case

/-!
# ArchiveScout.Proofs.Query.Modifiers

**The mask of a list of modifiers.** A bit is in a mask if and only if it is the bit of one of the
names. So a mask depends on the set of names only, not on their order, their case or how often they
are given. The error names the first name that is no modifier.
-/

namespace ArchiveScout.Query

variable {name : String} {names names' : List String} {bit mask : Nat} {bits : List Nat}
  {e : QueryError}

/-! ### One name -/

/-- A name has the bit that the table has for its capital form. -/
def HasBit (name : String) (bit : Nat) : Prop :=
  (String.ofList (Text.upper name.toList), bit) ∈ modifierTable

instance (name : String) (bit : Nat) : Decidable (HasBit name bit) :=
  inferInstanceAs (Decidable (_ ∈ _))

def IsModifier (name : String) : Prop := ∃ bit, HasBit name bit

theorem modifierBit?_eq_some : modifierBit? name = some bit ↔ HasBit name bit := by
  have hentries : ∀ entry ∈ modifierTable, modifierTable.lookup entry.1 = some entry.2 := by decide
  rw [modifierBit?, HasBit]
  constructor
  · intro h
    obtain ⟨before, after, htable, -⟩ := List.lookup_eq_some_iff.mp h
    rw [htable]
    exact List.mem_append_right _ List.mem_cons_self
  · exact hentries _

instance (name : String) : Decidable (IsModifier name) :=
  decidable_of_iff ((modifierBit? name).isSome = true)
    (by simp only [Option.isSome_iff_exists, modifierBit?_eq_some, IsModifier])

theorem modifierBit_eq_ok : modifierBit name = .ok bit ↔ HasBit name bit := by
  rw [modifierBit, ← modifierBit?_eq_some]
  cases modifierBit? name <;> simp

theorem modifierBit_eq_error :
    modifierBit name = .error e ↔ ¬ IsModifier name ∧ e = .unknownModifier name := by
  simp only [IsModifier, ← modifierBit?_eq_some, modifierBit]
  cases modifierBit? name <;> simp [eq_comm]

theorem HasBit.unique {bit' : Nat} (h : HasBit name bit) (h' : HasBit name bit') : bit = bit' := by
  rw [← modifierBit?_eq_some] at h h'
  exact Option.some.inj (h.symm.trans h')

/-- A name keeps its bit in another case. -/
theorem HasBit.of_small {name' : String}
    (hsmall : name.toList.map Char.toLower = name'.toList.map Char.toLower) (h : HasBit name bit) :
    HasBit name' bit := by
  rw [HasBit, ← Text.upper_eq_of_map_toLower hsmall]
  exact h

theorem HasBit.ne_zero (h : HasBit name bit) : bit ≠ 0 := by
  have hentries : ∀ entry ∈ modifierTable, entry.2 ≠ 0 := by decide
  exact hentries _ h

/-! ### Masks -/

/-- Bits put together. -/
def union (bits : List Nat) : Nat := bits.foldr (· ||| ·) 0

theorem testBit_union (i : Nat) :
    (union bits).testBit i = true ↔ ∃ bit ∈ bits, bit.testBit i = true := by
  induction bits with
  | nil => simp [union]
  | cons bit bits ih =>
      have hunion : union (bit :: bits) = bit ||| union bits := rfl
      rw [hunion, Nat.testBit_or, Bool.or_eq_true, ih]
      simp

theorem modifierMask_eq (names : List String) :
    modifierMask names = return union (← names.mapM modifierBit) := by
  induction names with
  | nil => rfl
  | cons name names ih =>
      rw [modifierMask, ih, List.mapM_cons]
      simp only [bind_assoc, pure_bind]
      rfl

/-- A mask is that of names that all have a bit. -/
theorem modifierMask_eq_ok : modifierMask names = .ok mask ↔
    ∃ bits, List.Forall₂ HasBit names bits ∧ mask = union bits := by
  simp only [modifierMask_eq, map_eq_ok, mapM_eq_ok, modifierBit_eq_ok]

theorem exists_modifierMask : (∃ mask, modifierMask names = .ok mask) ↔
    ∀ name ∈ names, IsModifier name := by
  have hmask : (∃ mask, modifierMask names = .ok mask) ↔
      ∃ bits, names.mapM modifierBit = .ok bits := by
    simp only [modifierMask_eq_ok, mapM_eq_ok, modifierBit_eq_ok]
    constructor
    · rintro ⟨mask, bits, hbits, -⟩
      exact ⟨bits, hbits⟩
    · rintro ⟨bits, hbits⟩
      exact ⟨union bits, bits, hbits, rfl⟩
  rw [hmask, exists_mapM]
  simp only [modifierBit_eq_ok, IsModifier]

/-- The error is the first name that is no modifier. -/
theorem modifierMask_eq_error : modifierMask names = .error e ↔
    ∃ before name after, names = before ++ name :: after ∧ (∀ n ∈ before, IsModifier n) ∧
      ¬ IsModifier name ∧ e = .unknownModifier name := by
  rw [modifierMask_eq, map_eq_error, mapM_eq_error]
  simp only [modifierBit_eq_error, modifierBit_eq_ok, IsModifier]

/-- What is in a mask is in the bit of a name. -/
theorem testBit_modifierMask (h : modifierMask names = .ok mask) (i : Nat) :
    mask.testBit i = true ↔ ∃ name ∈ names, ∃ bit, HasBit name bit ∧ bit.testBit i = true := by
  obtain ⟨bits, hbits, rfl⟩ := modifierMask_eq_ok.mp h
  rw [testBit_union]
  constructor
  · rintro ⟨bit, hmem, hi⟩
    obtain ⟨name, hname, hbit⟩ := exists_of_forall₂ hbits.flip hmem
    exact ⟨name, hname, bit, hbit, hi⟩
  · rintro ⟨name, hname, bit, hbit, hi⟩
    obtain ⟨bit', hmem, hbit'⟩ := exists_of_forall₂ hbits hname
    exact ⟨bit', hmem, hbit.unique hbit' ▸ hi⟩

theorem modifierMask_ne_zero (h : modifierMask names = .ok mask) (hne : names ≠ []) : mask ≠ 0 := by
  obtain ⟨name, hname⟩ := List.exists_mem_of_ne_nil names hne
  obtain ⟨bit, hbit⟩ := exists_modifierMask.mp ⟨mask, h⟩ name hname
  obtain ⟨i, hi⟩ := Nat.exists_testBit_of_ne_zero hbit.ne_zero
  intro hzero
  have hmem := (testBit_modifierMask h i).mpr ⟨name, hname, bit, hbit, hi⟩
  rw [hzero, Nat.zero_testBit] at hmem
  exact absurd hmem (by decide)

/-! ### Sets of names -/

/-- The same names up to the case of ASCII letters, in any order and any number. -/
def SameNames (names names' : List String) : Prop :=
  ∀ small : List Char, (∃ name ∈ names, name.toList.map Char.toLower = small) ↔
    ∃ name ∈ names', name.toList.map Char.toLower = small

theorem sameNames_iff : SameNames names names' ↔
    (∀ name ∈ names, ∃ name' ∈ names',
        name'.toList.map Char.toLower = name.toList.map Char.toLower) ∧
      ∀ name ∈ names', ∃ name' ∈ names,
        name'.toList.map Char.toLower = name.toList.map Char.toLower := by
  constructor
  · intro h
    exact ⟨fun name hname => (h _).mp ⟨name, hname, rfl⟩,
      fun name hname => (h _).mpr ⟨name, hname, rfl⟩⟩
  · rintro ⟨hto, hfrom⟩ small
    constructor
    · rintro ⟨name, hname, rfl⟩
      exact hto name hname
    · rintro ⟨name, hname, rfl⟩
      exact hfrom name hname

instance (names names' : List String) : Decidable (SameNames names names') :=
  decidable_of_iff' _ sameNames_iff

/-- The mask of names is that of the set of them. -/
theorem modifierMask_of_sameNames (h : modifierMask names = .ok mask)
    (hsame : SameNames names names') : modifierMask names' = .ok mask := by
  obtain ⟨hto, hfrom⟩ := sameNames_iff.mp hsame
  have hmodifiers : ∀ name ∈ names', IsModifier name := by
    intro name hname
    obtain ⟨name', hmem, hsmall⟩ := hfrom name hname
    obtain ⟨bit, hbit⟩ := exists_modifierMask.mp ⟨mask, h⟩ name' hmem
    exact ⟨bit, hbit.of_small hsmall⟩
  obtain ⟨mask', h'⟩ := exists_modifierMask.mpr hmodifiers
  -- The masks have the same bits, because each name of one list is in the other in some case.
  have hmask : mask' = mask := by
    refine Nat.eq_of_testBit_eq fun i => ?_
    rw [Bool.eq_iff_iff, testBit_modifierMask h', testBit_modifierMask h]
    constructor
    · rintro ⟨name, hname, bit, hbit, hi⟩
      obtain ⟨name', hmem, hsmall⟩ := hfrom name hname
      exact ⟨name', hmem, bit, hbit.of_small hsmall.symm, hi⟩
    · rintro ⟨name, hname, bit, hbit, hi⟩
      obtain ⟨name', hmem, hsmall⟩ := hto name hname
      exact ⟨name', hmem, bit, hbit.of_small hsmall.symm, hi⟩
  rw [h', hmask]

end ArchiveScout.Query
