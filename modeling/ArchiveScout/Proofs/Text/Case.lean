import ArchiveScout.Text.Blank
import ArchiveScout.Text.Case
import Mathlib.Data.List.Basic
import Mathlib.Tactic.IntervalCases

/-!
# ArchiveScout.Proofs.Text.Case

**Texts that are read without regard to blanks and case.** Trimming takes away exactly the blanks
around a text, a change of case leaves blanks alone, and of two texts that differ in the case of
ASCII letters only the capital forms are equal.
-/

namespace ArchiveScout.Text

variable {c : Char} {cs before body after : List Char}

/-! ### Blanks -/

/-- What is between blanks is left, if no blank is in it. -/
theorem trim_append (hbefore : ∀ c ∈ before, isBlank c = true)
    (hbody : ∀ c ∈ body, isBlank c = false) (hafter : ∀ c ∈ after, isBlank c = true) :
    trim (before ++ body ++ after) = body := by
  have hfront : (before ++ body ++ after).dropWhile isBlank = body ++ after.dropWhile isBlank ∨
      (before ++ body ++ after).dropWhile isBlank = body ++ after := by
    rw [List.append_assoc, List.dropWhile_append_of_pos hbefore]
    cases body with
    | nil => exact .inl rfl
    | cons c body =>
        right
        exact List.dropWhile_cons_of_neg (by simp [hbody c List.mem_cons_self])
  have hback {rest : List Char} (hrest : ∀ c ∈ rest, isBlank c = true) :
      trimRight (body ++ rest) = body := by
    rw [trimRight, List.reverse_append,
      List.dropWhile_append_of_pos fun c hc => hrest c (List.mem_reverse.mp hc)]
    cases hlast : body.reverse with
    | nil =>
        rw [List.reverse_eq_nil_iff.mp hlast]
        rfl
    | cons c front =>
        have hc : c ∈ body := List.mem_reverse.mp (hlast ▸ List.mem_cons_self)
        rw [List.dropWhile_cons_of_neg (by simp [hbody c hc]), ← hlast, List.reverse_reverse]
  rw [trim]
  rcases hfront with hfront | hfront
  · rw [hfront]
    exact hback fun c hc => hafter c ((List.dropWhile_sublist _).subset hc)
  · rw [hfront]
    exact hback hafter

/-- A text is what trimming leaves of it, between blanks. -/
theorem exists_trim (cs : List Char) : ∃ before after, cs = before ++ trim cs ++ after ∧
    (∀ c ∈ before, isBlank c = true) ∧ ∀ c ∈ after, isBlank c = true := by
  have hall (l : List Char) : ∀ c ∈ l.takeWhile isBlank, isBlank c = true :=
    List.all_eq_true.mp List.all_takeWhile
  refine ⟨cs.takeWhile isBlank, ((cs.dropWhile isBlank).reverse.takeWhile isBlank).reverse, ?_,
    hall cs, fun c hc => hall _ c (List.mem_reverse.mp hc)⟩
  rw [trim, trimRight, List.append_assoc, ← List.reverse_append, List.takeWhile_append_dropWhile,
    List.reverse_reverse, List.takeWhile_append_dropWhile]

/-! ### Small letters -/

theorem toLower_of_not_capital (h : c.toNat < 65 ∨ 90 < c.toNat) : c.toLower = c := by
  unfold Char.toLower
  rw [dif_neg]
  intro hrange
  have hbetween : 65 ≤ c.toNat ∧ c.toNat ≤ 90 := by
    simpa [UInt32.le_iff_toNat_le] using hrange
  omega

/-- Only capitals have another small form. -/
theorem lowerChar_of_not_capital (hcapital : c.toNat < 65 ∨ 90 < c.toNat)
    (hdotted : c.toNat ≠ 0x130) (hkelvin : c.toNat ≠ 0x212A) : lowerChar c = [c] := by
  unfold lowerChar
  split
  · rename_i h
    exact absurd h hdotted
  · rename_i h
    exact absurd h hkelvin
  · rw [toLower_of_not_capital hcapital]

theorem lowerChar_of_isBlank (h : isBlank c = true) : lowerChar c = [c] := by
  unfold isBlank at h
  simp only [Bool.or_eq_true, Bool.and_eq_true, decide_eq_true_iff, beq_iff_eq] at h
  exact lowerChar_of_not_capital (by omega) (by omega) (by omega)

/-- A blank is still there in small letters. -/
theorem isBlank_mem_lower (h : isBlank c = true) (hc : c ∈ cs) : c ∈ lower cs :=
  List.mem_flatMap.mpr ⟨c, hc, by rw [lowerChar_of_isBlank h]; exact List.mem_singleton_self c⟩

/-- A text of characters that are their own small forms is its own small form. -/
theorem lower_eq_self (h : ∀ c ∈ cs, lowerChar c = [c]) : lower cs = cs := by
  induction cs with
  | nil => rfl
  | cons c cs ih =>
      rw [lower, List.flatMap_cons, h c List.mem_cons_self, ← lower,
        ih fun d hd => h d (List.mem_cons_of_mem c hd)]
      rfl

/-- If a text has no blanks in small letters, trimming it takes away the blanks around it. -/
theorem lower_trim_append (hbefore : ∀ c ∈ before, isBlank c = true)
    (hbody : ∀ c ∈ lower body, isBlank c = false) (hafter : ∀ c ∈ after, isBlank c = true) :
    lower (trim (before ++ body ++ after)) = lower body := by
  rw [trim_append hbefore ?_ hafter]
  intro c hc
  cases hblank : isBlank c with
  | false => rfl
  | true => exact hblank.symm.trans (hbody c (isBlank_mem_lower hblank hc))

/-! ### Capitals -/

/-- The case of an ASCII letter does not matter to its capital form. -/
theorem upperChar_toLower (c : Char) : upperChar c.toLower = upperChar c := by
  by_cases hcapital : 65 ≤ c.toNat ∧ c.toNat ≤ 90
  · -- There are twenty-six capitals to look at.
    rw [← c.ofNat_toNat]
    generalize c.toNat = n at hcapital
    obtain ⟨hlow, hhigh⟩ := hcapital
    interval_cases n <;> decide
  · rw [toLower_of_not_capital (by omega)]

/-- Texts that differ in the case of ASCII letters only have one capital form. -/
theorem upper_eq_of_map_toLower {cs' : List Char}
    (h : cs.map Char.toLower = cs'.map Char.toLower) : upper cs = upper cs' := by
  have hupper (cs : List Char) : upper (cs.map Char.toLower) = upper cs := by
    simp only [upper, List.flatMap_map, upperChar_toLower]
  rw [← hupper cs, h, hupper]

end ArchiveScout.Text
