import Mathlib.Data.List.Forall2

/-!
# ArchiveScout.Proofs.Query.Traversal

**Computations that can fail, one after another.** Parts that are put together succeed if all of
them do, and the first one that fails decides on the error. What a list is folded into can be put
together when all of its elements have been computed.
-/

namespace ArchiveScout.Query

variable {ε α β γ : Type} {f : α → Except ε β} {l : List α} {e : ε}

/-- A computation succeeds if its first part does, and the rest with what that gave. -/
theorem bind_eq_ok {first : Except ε α} {rest : α → Except ε β} {b : β} :
    first >>= rest = .ok b ↔ ∃ a, first = .ok a ∧ rest a = .ok b := by
  cases first with
  | error e => simp [bind, Except.bind]
  | ok a => simp [bind, Except.bind]

/-- A computation fails if its first part does, or the rest with what that gave. -/
theorem bind_eq_error {first : Except ε α} {rest : α → Except ε β} {e : ε} :
    first >>= rest = .error e ↔ first = .error e ∨ ∃ a, first = .ok a ∧ rest a = .error e := by
  cases first with
  | error e' => simp [bind, Except.bind]
  | ok a => simp [bind, Except.bind]

theorem map_eq_ok {first : Except ε α} {g : α → β} {b : β} :
    (return g (← first)) = .ok b ↔ ∃ a, first = .ok a ∧ b = g a := by
  rw [bind_eq_ok]
  refine exists_congr fun a => and_congr_right fun _ => ?_
  exact ⟨fun h => (Except.ok.inj h).symm, fun h => congrArg Except.ok h.symm⟩

theorem map_eq_error {first : Except ε α} {g : α → β} :
    (return g (← first)) = .error e ↔ first = .error e := by
  rw [bind_eq_error, or_iff_left]
  rintro ⟨a, -, h⟩
  exact absurd h (by simp [pure, Except.pure])

/-! ### One after another -/

/-- All of a list can be computed if each of its elements can. -/
theorem mapM_eq_ok {bs : List β} :
    l.mapM f = .ok bs ↔ List.Forall₂ (fun a b => f a = .ok b) l bs := by
  induction l generalizing bs with
  | nil =>
      rw [List.forall₂_nil_left_iff, List.mapM_nil]
      exact ⟨fun h => (Except.ok.inj h).symm, fun h => congrArg Except.ok h.symm⟩
  | cons a l ih =>
      rw [List.mapM_cons, bind_eq_ok]
      constructor
      · rintro ⟨b, hb, hmore⟩
        obtain ⟨rest, hrest, hsame⟩ := bind_eq_ok.mp hmore
        exact Except.ok.inj hsame ▸ .cons hb (ih.mp hrest)
      · intro h
        cases h with
        | cons hb hrest => exact ⟨_, hb, bind_eq_ok.mpr ⟨_, ih.mpr hrest, rfl⟩⟩

theorem exists_mapM : (∃ bs, l.mapM f = .ok bs) ↔ ∀ a ∈ l, ∃ b, f a = .ok b := by
  simp only [mapM_eq_ok]
  induction l with
  | nil => exact iff_of_true ⟨[], .nil⟩ (by simp)
  | cons a l ih =>
      rw [List.forall_mem_cons, ← ih]
      constructor
      · rintro ⟨bs, h⟩
        cases h with
        | cons hb hrest => exact ⟨⟨_, hb⟩, _, hrest⟩
      · rintro ⟨⟨b, hb⟩, bs, hrest⟩
        exact ⟨b :: bs, .cons hb hrest⟩

/-- Each element of a list has its counterpart in a list that is tied to it entry by entry. -/
theorem exists_of_forall₂ {R : α → β → Prop} {bs : List β} (h : List.Forall₂ R l bs) {a : α}
    (ha : a ∈ l) : ∃ b ∈ bs, R a b := by
  induction h with
  | nil => exact absurd ha List.not_mem_nil
  | cons hb _ ih =>
      rcases List.mem_cons.mp ha with rfl | ha
      · exact ⟨_, List.mem_cons_self, hb⟩
      · obtain ⟨b, hmem, hab⟩ := ih ha
        exact ⟨b, List.mem_cons_of_mem _ hmem, hab⟩

/-- The error is that of the first element that fails. -/
theorem mapM_eq_error : l.mapM f = .error e ↔
    ∃ before a after, l = before ++ a :: after ∧ (∀ x ∈ before, ∃ b, f x = .ok b) ∧
      f a = .error e := by
  induction l with
  | nil =>
      refine iff_of_false (fun h => absurd h (by simp [pure, Except.pure])) ?_
      rintro ⟨before, a, after, h, -⟩
      exact absurd h (by simp)
  | cons a l ih =>
      rw [List.mapM_cons, bind_eq_error]
      constructor
      · rintro (hfails | ⟨b, hb, hmore⟩)
        · exact ⟨[], a, l, rfl, by simp, hfails⟩
        · rcases bind_eq_error.mp hmore with hrest | ⟨rest, -, hsame⟩
          · obtain ⟨before, failing, after, rfl, hbefore, hfails⟩ := ih.mp hrest
            exact ⟨a :: before, failing, after, rfl,
              List.forall_mem_cons.mpr ⟨⟨b, hb⟩, hbefore⟩, hfails⟩
          · exact absurd hsame (by simp [pure, Except.pure])
      · rintro ⟨_ | ⟨first, before⟩, failing, after, hl, hbefore, hfails⟩
        · obtain ⟨rfl, rfl⟩ := List.cons.inj hl
          exact .inl hfails
        · obtain ⟨rfl, rfl⟩ := List.cons.inj hl
          obtain ⟨⟨b, hb⟩, hbefore⟩ := List.forall_mem_cons.mp hbefore
          exact .inr ⟨b, hb, bind_eq_error.mpr
            (.inl (ih.mpr ⟨before, failing, after, rfl, hbefore, hfails⟩))⟩

/-- What is computed for the elements can be put together afterwards. -/
theorem foldlM_eq_mapM {g : γ → β → γ} (start : γ) :
    l.foldlM (fun c a => do return g c (← f a)) start = return (← l.mapM f).foldl g start := by
  induction l generalizing start with
  | nil => rfl
  | cons a l ih =>
      simp only [List.foldlM_cons, List.mapM_cons, bind_assoc, pure_bind, ih, List.foldl_cons]

/-- The same where what is put together takes the elements, too. -/
theorem foldlM_eq_mapM_zip {g : γ → α → β → γ} (start : γ) :
    l.foldlM (fun c a => do return g c a (← f a)) start =
      return (l.zip (← l.mapM f)).foldl (fun c entry => g c entry.1 entry.2) start := by
  induction l generalizing start with
  | nil => rfl
  | cons a l ih =>
      simp only [List.foldlM_cons, List.mapM_cons, bind_assoc, pure_bind, ih, List.zip_cons_cons,
        List.foldl_cons]

end ArchiveScout.Query
