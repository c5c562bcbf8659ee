import ArchiveScout.Text.Split

/-!
# ArchiveScout.Proofs.Text.Split

How `splitOn` acts on texts that are put together: a separator between two texts
concatenates their pieces, a text without separators only lengthens the last piece. Which
character separates is no matter, as long as it stands nowhere else.
-/

namespace ArchiveScout.Text

variable {sep : Char} {a b cs : List Char} {init : List (List Char)} {last piece : List Char}

theorem splitOn_cons_of_ne {c : Char} (h : c ≠ sep) (hs : splitOn sep cs = piece :: init) :
    splitOn sep (c :: cs) = (c :: piece) :: init := by
  simp [splitOn, h, hs]

/-- A separator between two texts separates their pieces. -/
theorem splitOn_append_sep (sep : Char) (a b : List Char) :
    splitOn sep (a ++ sep :: b) = splitOn sep a ++ splitOn sep b := by
  induction a with
  | nil => simp [splitOn]
  | cons c a ih =>
      by_cases h : c = sep
      · simp [splitOn, h, ih]
      · cases hs : splitOn sep a with
        | nil => exact absurd hs (splitOn_ne_nil sep a)
        | cons piece pieces =>
            rw [hs] at ih
            rw [List.cons_append, splitOn_cons_of_ne h ih, splitOn_cons_of_ne h hs]
            rfl

theorem splitOn_of_notMem (h : sep ∉ cs) : splitOn sep cs = [cs] := by
  induction cs with
  | nil => rfl
  | cons c cs ih =>
      rw [List.mem_cons, not_or] at h
      exact splitOn_cons_of_ne (Ne.symm h.1) (ih h.2)

/-- Pieces hold no separators. -/
theorem notMem_of_mem_splitOn (h : piece ∈ splitOn sep cs) : sep ∉ piece := by
  induction cs generalizing piece with
  | nil => simp_all [splitOn]
  | cons c cs ih =>
      by_cases hc : c = sep
      · rw [splitOn, if_pos hc, List.mem_cons] at h
        rcases h with rfl | h
        · exact List.not_mem_nil
        · exact ih h
      · cases hs : splitOn sep cs with
        | nil => exact absurd hs (splitOn_ne_nil sep cs)
        | cons first rest =>
            rw [splitOn_cons_of_ne hc hs, List.mem_cons] at h
            rcases h with rfl | h
            · rw [List.mem_cons, not_or]
              exact ⟨Ne.symm hc, ih (hs ▸ List.mem_cons_self)⟩
            · exact ih (hs ▸ List.mem_cons_of_mem _ h)

/-- A text without separators lengthens the last piece. -/
theorem splitOn_append_of_notMem (hb : sep ∉ b) (ha : splitOn sep a = init ++ [last]) :
    splitOn sep (a ++ b) = init ++ [last ++ b] := by
  induction a generalizing init last with
  | nil =>
      have hinit : init = [] ∧ last = [] := by
        cases init <;> simp_all [splitOn]
      simp [hinit, splitOn_of_notMem hb]
  | cons c a ih =>
      by_cases hc : c = sep
      · rw [splitOn, if_pos hc] at ha
        cases init with
        | nil => exact absurd (List.cons.inj ha).2 (splitOn_ne_nil sep a)
        | cons first init =>
            obtain ⟨rfl, htail⟩ := List.cons.inj ha
            rw [List.cons_append, splitOn, if_pos hc, ih htail]
            rfl
      · cases hs : splitOn sep a with
        | nil => exact absurd hs (splitOn_ne_nil sep a)
        | cons piece pieces =>
            rw [splitOn_cons_of_ne hc hs] at ha
            rw [List.cons_append]
            cases init with
            | nil =>
                obtain ⟨rfl, rfl⟩ := List.cons.inj ha
                have hlong := ih (hs.trans (List.nil_append [piece]).symm)
                rw [splitOn_cons_of_ne hc hlong]
                rfl
            | cons first init =>
                obtain ⟨rfl, rfl⟩ := List.cons.inj ha
                have hlong := ih (hs.trans List.cons_append.symm)
                rw [splitOn_cons_of_ne hc hlong]
                rfl

/-- Pieces that are put together come apart again. -/
theorem splitOn_intercalate {pieces : List (List Char)} (hne : pieces ≠ [])
    (h : ∀ piece ∈ pieces, sep ∉ piece) : splitOn sep ([sep].intercalate pieces) = pieces := by
  induction pieces with
  | nil => exact absurd rfl hne
  | cons piece pieces ih =>
      have hpiece := splitOn_of_notMem (h piece List.mem_cons_self)
      cases pieces with
      | nil => simpa using hpiece
      | cons next rest =>
          have hrest := ih (by simp) fun p hp => h p (List.mem_cons_of_mem _ hp)
          rw [List.intercalate_cons_cons, List.append_assoc, List.singleton_append,
            splitOn_append_sep, hpiece, hrest]
          rfl

theorem joinWith_eq_intercalate (sep : Char) (pieces : List (List Char)) :
    joinWith sep pieces = [sep].intercalate pieces := by
  induction pieces with
  | nil => rfl
  | cons piece pieces ih =>
      cases pieces with
      | nil => simp [joinWith]
      | cons next rest =>
          rw [List.intercalate_cons_cons, ← ih, List.append_assoc]
          rfl

/-- Pieces of a text: what stands between its separators. -/
structure Pieces (sep : Char) (text : List Char) (pieces : List (List Char)) : Prop where
  joined : [sep].intercalate pieces = text
  plain : ∀ piece ∈ pieces, sep ∉ piece
  ne_nil : pieces ≠ []

/-- A text has one list of pieces, and `splitOn` gives it. -/
theorem pieces_iff {pieces : List (List Char)} :
    Pieces sep cs pieces ↔ pieces = splitOn sep cs := by
  constructor
  · rintro ⟨rfl, hplain, hne⟩
    exact (splitOn_intercalate hne hplain).symm
  · rintro rfl
    exact ⟨by rw [← joinWith_eq_intercalate, joinWith_splitOn],
      fun piece h => notMem_of_mem_splitOn h, splitOn_ne_nil sep cs⟩

theorem length_splitOn_eq_one : (splitOn sep cs).length = 1 ↔ sep ∉ cs := by
  constructor
  · intro h
    obtain ⟨piece, hsplit⟩ := List.length_eq_one_iff.mp h
    have hpiece : piece = cs := by
      rw [← joinWith_splitOn sep cs, hsplit]
      rfl
    exact notMem_of_mem_splitOn (hsplit ▸ List.mem_singleton.mpr hpiece.symm)
  · intro h
    rw [splitOn_of_notMem h]
    rfl

theorem splitOn_injective (sep : Char) : Function.Injective (splitOn sep) :=
  Function.LeftInverse.injective (joinWith_splitOn sep)

/-- The pieces of a text begin with those of another one, and there are more, if the text goes on
behind a separator where the other one ends. -/
theorem splitOn_begins_iff : (∃ more, more ≠ [] ∧ splitOn sep cs = splitOn sep a ++ more) ↔
    ∃ rest, cs = a ++ sep :: rest := by
  constructor
  · intro h
    obtain ⟨more, hne, hsplit⟩ := h
    have hplain : ∀ piece ∈ more, sep ∉ piece := by
      intro piece hpiece
      have hmem : piece ∈ splitOn sep cs := hsplit ▸ List.mem_append_right _ hpiece
      exact notMem_of_mem_splitOn hmem
    refine ⟨[sep].intercalate more, splitOn_injective sep ?_⟩
    rw [splitOn_append_sep, splitOn_intercalate hne hplain, hsplit]
  · intro h
    obtain ⟨rest, rfl⟩ := h
    exact ⟨splitOn sep rest, splitOn_ne_nil sep rest, splitOn_append_sep sep a rest⟩

/-! ### Another separator -/

variable {old new : Char}

/-- A new separator in the place of the old one separates the same pieces. -/
theorem splitOn_replaced (h : new ∉ cs) :
    splitOn new (cs.map fun c => if c = old then new else c) = splitOn old cs := by
  induction cs with
  | nil => rfl
  | cons c cs ih =>
      rw [List.mem_cons, not_or] at h
      by_cases hc : c = old
      · simp [splitOn, hc, ih h.2]
      · simp [splitOn, hc, Ne.symm h.1, ih h.2]

/-- What is put in the place of a character can be taken back, if it stood nowhere before. -/
theorem replaceChar_replaceChar {s : String} (h : new ∉ s.toList) :
    replaceChar new old (replaceChar old new s) = s := by
  apply String.toList_injective
  simp only [replaceChar, String.toList_ofList, List.map_map]
  refine (List.map_congr_left fun c hc => ?_).trans (List.map_id _)
  have hnew : c ≠ new := by
    intro hsame
    exact h (hsame ▸ hc)
  by_cases hold : c = old <;> simp [hold, hnew]

/-! ### The ends of a text -/

theorem dropTail?_eq_some {tail s front : List Char} :
    dropTail? tail s = some front ↔ s = front ++ tail := by
  rw [dropTail?]
  constructor
  · intro h
    split at h
    · rename_i hsuffix
      obtain ⟨before, rfl⟩ := List.isSuffixOf_iff_suffix.mp hsuffix
      obtain rfl := Option.some.inj h
      simp
    · exact absurd h (by simp)
  · rintro rfl
    rw [if_pos (List.isSuffixOf_iff_suffix.mpr (List.suffix_append _ _))]
    simp

theorem dropHead?_eq_some {head s rest : List Char} :
    dropHead? head s = some rest ↔ s = head ++ rest := by
  rw [dropHead?]
  constructor
  · intro h
    split at h
    · rename_i hbegins
      obtain ⟨after, rfl⟩ := List.isPrefixOf_iff_prefix.mp hbegins
      obtain rfl := Option.some.inj h
      simp
    · exact absurd h (by simp)
  · rintro rfl
    rw [if_pos (List.isPrefixOf_iff_prefix.mpr (List.prefix_append _ _))]
    simp

theorem startsWith_iff {head text : String} :
    startsWith head text = true ↔ ∃ rest, text = head ++ rest := by
  rw [startsWith, List.isPrefixOf_iff_prefix]
  constructor
  · intro h
    obtain ⟨rest, hrest⟩ := h
    exact ⟨String.ofList rest, String.toList_injective (by simp [← hrest])⟩
  · intro h
    obtain ⟨rest, rfl⟩ := h
    exact ⟨rest.toList, by simp⟩

/-! ### The last piece -/

theorem notMem_of_cutLast {before after : List Char} (h : cutLast sep cs = some (before, after)) :
    sep ∉ after := by
  rw [cutLast, Option.map_eq_some_iff] at h
  obtain ⟨⟨first, rest⟩, hcut, heq⟩ := h
  obtain ⟨-, rfl⟩ := Prod.mk.inj heq
  simpa using (cutFirst_eq_some hcut).2

theorem eq_of_cutLast {before after : List Char} (h : cutLast sep cs = some (before, after)) :
    cs = before ++ sep :: after := by
  rw [cutLast, Option.map_eq_some_iff] at h
  obtain ⟨⟨first, rest⟩, hcut, heq⟩ := h
  obtain ⟨rfl, rfl⟩ := Prod.mk.inj heq
  have hreverse := congrArg List.reverse (cutFirst_eq_some hcut).1
  simpa using hreverse

theorem notMem_of_cutLast_none (h : cutLast sep cs = none) : sep ∉ cs := by
  rw [cutLast, Option.map_eq_none_iff, cutFirst_eq_none] at h
  simpa using h

theorem cutFirst_append (h : sep ∉ a) (b : List Char) :
    cutFirst sep (a ++ sep :: b) = some (a, b) := by
  induction a with
  | nil => simp [cutFirst]
  | cons c a ih =>
      rw [List.mem_cons, not_or] at h
      simp [cutFirst, Ne.symm h.1, ih h.2]

theorem cutLast_append (a : List Char) (h : sep ∉ b) :
    cutLast sep (a ++ sep :: b) = some (a, b) := by
  have hreverse : (a ++ sep :: b).reverse = b.reverse ++ sep :: a.reverse := by simp
  rw [cutLast, hreverse, cutFirst_append (by simpa using h)]
  simp

theorem cutLast_of_notMem (h : sep ∉ cs) : cutLast sep cs = none := by
  rw [cutLast, cutFirst_eq_none.mpr (by simpa using h)]
  rfl

end ArchiveScout.Text
