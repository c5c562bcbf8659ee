import ArchiveScout.Proofs.Regex.Escape
import Mathlib.Data.List.TakeWhile

/-!
# ArchiveScout.Proofs.Regex.Bracket

**Classes in brackets are read without looking ahead.** Inside of a bracket a hyphen and an opening
bracket do look ahead, but never past the closing one. So the moves that lead to it are the same
with and without what stands behind, and so is their number.
-/

namespace ArchiveScout.Regex

variable {f : Flags} {cs mid t rest behind : List Char} {c : Char} {x : Operand} {b : OpenBracket}

theorem exists_cons_suffix (h : rest <:+ mid) (hmid : c :: mid <:+ cs) : ∃ d, d :: rest <:+ cs := by
  obtain ⟨front, rfl⟩ := h
  rcases List.eq_nil_or_concat front with rfl | ⟨front, d, rfl⟩
  · exact ⟨c, hmid⟩
  · refine ⟨d, .trans ⟨c :: front, ?_⟩ hmid⟩
    simp

/-- What is left behind what is dropped is left of the text itself. -/
theorem skip_append_of_suffix (h : rest ++ t <:+ f.skip (cs ++ t)) :
    f.skip (cs ++ t) = f.skip cs ++ t ∧ rest <:+ f.skip cs := by
  have hskip := (drops_skip f).append ((List.suffix_append rest t).trans h)
  exact ⟨hskip, List.suffix_append_self_iff.mp (hskip ▸ h)⟩

/-! ### Items and ranges -/

theorem bracketItem_suffix {a : Atom} (h : bracketItem? f cs = some (a, rest)) :
    ∃ c, c :: rest <:+ cs := by
  rw [bracketItem?.eq_def] at h
  split at h
  · exact absurd h (by simp)
  · rename_i cs
    exact exists_cons_suffix (escape_suffix h) List.suffix_rfl
  · obtain ⟨-, rfl⟩ := Prod.mk.inj (Option.some.inj h)
    exact ⟨_, List.suffix_rfl⟩

theorem bracketItem_alone {a : Atom} (h : bracketItem? f (cs ++ t) = some (a, rest ++ t)) :
    bracketItem? f cs = some (a, rest) ∨ EndsInBrace f a rest := by
  cases cs with
  | nil =>
      obtain ⟨c, hsuffix⟩ := bracketItem_suffix h
      have hlength := hsuffix.length_le
      simp only [List.length_cons, List.length_append, List.length_nil] at hlength
      omega
  | cons c cs =>
      by_cases hc : c = '\\'
      · subst hc
        exact escape_alone h
      · have hplain : ∀ cs, bracketItem? f (c :: cs) = some (.char c false, cs) := by
          intro cs
          rw [bracketItem?]
          exact hc
        rw [List.cons_append, hplain] at h
        obtain ⟨rfl, hrest⟩ := Prod.mk.inj (Option.some.inj h)
        rw [hplain, List.append_cancel_right hrest]
        exact .inl rfl

/-- A hyphen in front of the end of a union makes no range. -/
def HyphenEnds (f : Flags) (behind : List Char) : Prop :=
  afterHyphen f behind = some ']' ∨ afterHyphen f behind = some '-'

instance (f : Flags) (behind : List Char) : Decidable (HyphenEnds f behind) :=
  inferInstanceAs (Decidable (_ ∨ _))

theorem dropWhile_append_of_mem {p : Char → Bool} (hc : c ∈ cs) (hp : p c = false) :
    (cs ++ t).dropWhile p = cs.dropWhile p ++ t ∧ c ∈ cs.dropWhile p := by
  induction cs with
  | nil => exact absurd hc List.not_mem_nil
  | cons d cs ih =>
      rw [List.cons_append, List.dropWhile_cons, List.dropWhile_cons]
      split
      · rename_i hd
        rcases List.mem_cons.mp hc with rfl | hc
        · rw [hp] at hd
          exact absurd hd (by simp)
        · exact ih hc
      · exact ⟨rfl, hc⟩

/-- A hyphen does not look past a closing bracket. -/
theorem afterHyphen_append (h : ']' ∈ cs) : afterHyphen f (cs ++ t) = afterHyphen f cs := by
  rw [afterHyphen, afterHyphen]
  by_cases hverbose : f.verbose = true
  · rw [if_pos hverbose, if_pos hverbose]
    obtain ⟨hdrop, hmem⟩ := dropWhile_append_of_mem (t := t) (p := Text.isBlank) h (by decide)
    obtain ⟨d, ds, hds⟩ := List.exists_cons_of_ne_nil (List.ne_nil_of_mem hmem)
    rw [hdrop, hds, List.cons_append]
    by_cases hd : d = '#'
    · subst hd
      have hinner : ']' ∈ ds := by simpa [hds] using hmem
      obtain ⟨hdrop', hmem'⟩ := dropWhile_append_of_mem (t := t) (p := Text.isBlank) hinner
        (by decide)
      obtain ⟨e, es, hes⟩ := List.exists_cons_of_ne_nil (List.ne_nil_of_mem hmem')
      simp [hdrop', hes]
    · simp only
      split
      · rename_i heq
        exact absurd (List.cons.inj heq).1 hd
      · split
        · rename_i heq
          exact absurd (List.cons.inj heq).1 hd
        · rfl
  · rw [if_neg hverbose, if_neg hverbose]
    exact List.head?_append_of_ne_nil _ (List.ne_nil_of_mem h)

/-- A range, behind its hyphen. -/
def rangeFrom? (f : Flags) (first : Atom) (cs : List Char) : Option (Operand × List Char) :=
  (bracketItem? f cs).bind fun found =>
    (first.classChar? f).bind fun lo => (found.1.classChar? f).bind fun hi =>
      if lo ≤ hi then some (⟨.span lo hi, 0⟩, found.2) else none

/-- An item alone. Something else has to be left behind it. -/
def itemAlone? (f : Flags) (item : Atom) (rest : List Char) : Option (Operand × List Char) :=
  (item.classSet? f).bind fun s => some (⟨s, 0⟩, rest)

/-- A range or an item alone, behind the first item. -/
def rangeBehind? (f : Flags) (first : Atom) : List Char → Option (Operand × List Char) :=
  onHead fun c behind =>
    if c = '-' ∧ ¬ HyphenEnds f behind then rangeFrom? f first (f.skip behind)
    else itemAlone? f first (c :: behind)

theorem bracketRange_eq (f : Flags) (cs : List Char) : bracketRange? f cs =
    (bracketItem? f cs).bind fun found => rangeBehind? f found.1 (f.skip found.2) := by
  rw [bracketRange?]
  cases bracketItem? f cs with
  | none => rfl
  | some found =>
      obtain ⟨first, mid⟩ := found
      simp only [bind, Option.bind_some, rangeBehind?]
      cases f.skip mid with
      | nil => rfl
      | cons c behind =>
          by_cases hc : c = '-'
          · subst hc
            simp only [onHead, true_and]
            by_cases hends : HyphenEnds f behind
            · rw [if_neg (not_not_intro hends)]
              exact if_pos hends
            · rw [if_pos hends]
              exact if_neg hends
          · rw [onHead, if_neg fun h => hc h.1]
            split
            · rename_i heq
              exact absurd heq (by simp)
            · rename_i heq
              exact absurd (List.cons.inj heq).1 hc
            · rfl

theorem rangeFrom_alone {first : Atom} (h : rangeFrom? f first (cs ++ t) = some (x, rest ++ t)) :
    rangeFrom? f first cs = some (x, rest) := by
  obtain ⟨⟨last, mid⟩, hlast, h⟩ := Option.bind_eq_some_iff.mp h
  obtain ⟨lo, hlo, h⟩ := Option.bind_eq_some_iff.mp h
  obtain ⟨hi, hhi, h⟩ := Option.bind_eq_some_iff.mp h
  split at h
  · rename_i horder
    obtain ⟨rfl, rfl⟩ := Prod.mk.inj (Option.some.inj h)
    rcases bracketItem_alone hlast with halone | ⟨⟨l, rfl⟩, -⟩
    · simp [rangeFrom?, halone, hlo, hhi, horder]
    · exact absurd hhi (by simp [Atom.classChar?])
  · exact absurd h (by simp)

theorem rangeFrom_suffix {first : Atom} (h : rangeFrom? f first cs = some (x, rest)) :
    ∃ c, c :: rest <:+ cs := by
  obtain ⟨⟨last, mid⟩, hlast, h⟩ := Option.bind_eq_some_iff.mp h
  obtain ⟨lo, -, h⟩ := Option.bind_eq_some_iff.mp h
  obtain ⟨hi, -, h⟩ := Option.bind_eq_some_iff.mp h
  split at h
  · obtain ⟨-, rfl⟩ := Prod.mk.inj (Option.some.inj h)
    exact bracketItem_suffix hlast
  · exact absurd h (by simp)

theorem rangeBehind_suffix {first : Atom} (h : rangeBehind? f first cs = some (x, rest)) :
    rest <:+ cs := by
  cases cs with
  | nil => exact absurd h (by simp [rangeBehind?, onHead])
  | cons c behind =>
      rw [rangeBehind?, onHead] at h
      split at h
      · obtain ⟨e, he⟩ := rangeFrom_suffix h
        have hback := ((drops_skip f).suffix behind).trans (List.suffix_cons c behind)
        exact ((List.suffix_cons e _).trans he).trans hback
      · obtain ⟨s, -, h⟩ := Option.bind_eq_some_iff.mp h
        obtain ⟨-, rfl⟩ := Prod.mk.inj (Option.some.inj h)
        exact List.suffix_rfl

/-- A hyphen looks at most at the closing bracket that stands behind it. -/
theorem rangeBehind_alone {first : Atom} (h : rangeBehind? f first (cs ++ t) = some (x, rest ++ t))
    (hclosing : ']' ∈ rest) : rangeBehind? f first cs = some (x, rest) := by
  have hmem : ']' ∈ cs := (List.suffix_append_self_iff.mp (rangeBehind_suffix h)).subset hclosing
  obtain ⟨c, behind, rfl⟩ := List.exists_cons_of_ne_nil (List.ne_nil_of_mem hmem)
  have hends : c = '-' ∧ ¬ HyphenEnds f (behind ++ t) ↔ c = '-' ∧ ¬ HyphenEnds f behind := by
    refine and_congr_right fun hc => ?_
    have hinside : ']' ∈ behind := by simpa [hc] using hmem
    rw [HyphenEnds, HyphenEnds, afterHyphen_append hinside]
  rw [List.cons_append, rangeBehind?, onHead] at h
  rw [rangeBehind?, onHead]
  split at h
  · rename_i hrange
    rw [if_pos (hends.mp hrange)]
    obtain ⟨e, he⟩ := rangeFrom_suffix h
    rw [(skip_append_of_suffix ((List.suffix_cons e _).trans he)).1] at h
    exact rangeFrom_alone h
  · rename_i hsingle
    rw [if_neg (mt hends.mpr hsingle)]
    obtain ⟨s, hs, h⟩ := Option.bind_eq_some_iff.mp h
    obtain ⟨rfl, hrest⟩ := Prod.mk.inj (Option.some.inj h)
    rw [← List.cons_append] at hrest
    rw [itemAlone?, hs, Option.bind_some, List.append_cancel_right hrest]

theorem bracketRange_suffix (h : bracketRange? f cs = some (x, rest)) : ∃ c, c :: rest <:+ cs := by
  rw [bracketRange_eq] at h
  obtain ⟨⟨first, mid⟩, hfirst, h⟩ := Option.bind_eq_some_iff.mp h
  obtain ⟨d, hmid⟩ := bracketItem_suffix hfirst
  exact exists_cons_suffix ((rangeBehind_suffix h).trans ((drops_skip f).suffix mid)) hmid

/-- An item or a range in front of a closing bracket is read without what stands behind that. -/
theorem bracketRange_alone (h : bracketRange? f (cs ++ t) = some (x, rest ++ t))
    (hclosing : ']' ∈ rest) : bracketRange? f cs = some (x, rest) := by
  rw [bracketRange_eq] at h ⊢
  obtain ⟨⟨first, mid⟩, hfirst, h⟩ := Option.bind_eq_some_iff.mp h
  have hleft : rest ++ t <:+ f.skip mid := rangeBehind_suffix h
  obtain ⟨mid, rfl⟩ : ∃ front, mid = front ++ t := by
    obtain ⟨front, hfront⟩ := (List.suffix_append rest t).trans
      (hleft.trans ((drops_skip f).suffix mid))
    exact ⟨front, hfront.symm⟩
  rw [(skip_append_of_suffix hleft).1] at h
  have hbehind := rangeBehind_alone h hclosing
  rcases bracketItem_alone hfirst with halone | ⟨⟨l, rfl⟩, -⟩
  · rw [halone, Option.bind_some, hbehind]
  · -- An edge of a word is no item of a class.
    cases hskip : f.skip mid <;>
      simp [hskip, rangeBehind?, onHead, rangeFrom?, itemAlone?, Atom.classChar?,
        Atom.classSet?] at hbehind

/-! ### Names -/

/-- A name between colons, and the closing bracket behind it. -/
def nameBody? (negated : Bool) (cs : List Char) : Option (String × Bool × List Char) :=
  match cs.dropWhile (· ≠ ':') with
  | ':' :: ']' :: rest =>
    if (bracketClass? (String.ofList (cs.takeWhile (· ≠ ':')))).isSome then
      some (String.ofList (cs.takeWhile (· ≠ ':')), negated, rest)
    else none
  | _ => none

theorem nameBody_eq_some {name : String} {negated negated' : Bool} :
    nameBody? negated cs = some (name, negated', rest) ↔ negated' = negated ∧
      ∃ letters, ':' ∉ letters ∧ cs = letters ++ ':' :: ']' :: rest ∧
        name = String.ofList letters ∧ (bracketClass? name).isSome := by
  rw [nameBody?]
  constructor
  · intro h
    split at h
    · rename_i rest' hbehind
      split at h
      · rename_i hknown
        obtain ⟨rfl, hboth⟩ := Prod.mk.inj (Option.some.inj h)
        obtain ⟨rfl, rfl⟩ := Prod.mk.inj hboth
        refine ⟨rfl, cs.takeWhile (· ≠ ':'), fun hmem => ?_, ?_, rfl, hknown⟩
        · simpa using List.mem_takeWhile_imp hmem
        · rw [← hbehind, List.takeWhile_append_dropWhile]
      · exact absurd h (by simp)
    · exact absurd h (by simp)
  · rintro ⟨rfl, letters, hletters, rfl, rfl, hknown⟩
    have hall : ∀ c ∈ letters, decide (c ≠ ':') = true := by
      intro c hc
      rw [decide_eq_true_iff]
      rintro rfl
      exact hletters hc
    rw [List.takeWhile_append_of_pos hall, List.dropWhile_append_of_pos hall]
    simp [hknown]

theorem bracketName_caret (cs : List Char) :
    bracketName? (':' :: '^' :: cs) = nameBody? true cs := rfl

theorem bracketName_of_ne (h : cs.head? ≠ some '^') :
    bracketName? (':' :: cs) = nameBody? false cs := by
  rw [bracketName?]
  · rfl
  · rintro cs rfl
    exact h rfl

theorem bracketName_eq_none (h : cs.head? ≠ some ':') : bracketName? cs = none := by
  rw [bracketName?.eq_def]
  split
  · exact absurd rfl h
  · rfl

/-- A name and all that belongs to it stand in front of what is left. -/
theorem bracketName_eq_some {name : String} {negated : Bool} :
    bracketName? cs = some (name, negated, rest) ↔
      ∃ letters, ':' ∉ letters ∧ (negated = false → letters.head? ≠ some '^') ∧
        cs = ':' :: ((if negated then ['^'] else []) ++ letters) ++ ':' :: ']' :: rest ∧
        name = String.ofList letters ∧ (bracketClass? name).isSome := by
  constructor
  · intro h
    have hcolon : cs.head? = some ':' := by
      by_contra hno
      rw [bracketName_eq_none hno] at h
      exact absurd h (by simp)
    obtain ⟨cs, rfl⟩ := List.head?_eq_some_iff.mp hcolon
    by_cases hmark : cs.head? = some '^'
    · obtain ⟨cs, rfl⟩ := List.head?_eq_some_iff.mp hmark
      rw [bracketName_caret, nameBody_eq_some] at h
      obtain ⟨rfl, letters, hletters, rfl, hname⟩ := h
      exact ⟨letters, hletters, fun h => absurd h (by simp), by simp, hname⟩
    · rw [bracketName_of_ne hmark, nameBody_eq_some] at h
      obtain ⟨rfl, letters, hletters, rfl, hname⟩ := h
      refine ⟨letters, hletters, fun _ hhead => hmark ?_, by simp, hname⟩
      rw [List.head?_append_of_ne_nil _ (by rintro rfl; simp at hhead), hhead]
  · rintro ⟨letters, hletters, hhead, rfl, hname⟩
    have hbody : nameBody? negated (letters ++ ':' :: ']' :: rest) = some (name, negated, rest) :=
      nameBody_eq_some.mpr ⟨rfl, letters, hletters, rfl, hname⟩
    cases negated with
    | true => simpa [bracketName_caret] using hbody
    | false =>
        have hne : (letters ++ ':' :: ']' :: rest).head? ≠ some '^' := by
          cases letters with
          | nil => simp
          | cons c letters => simpa using hhead rfl
        rw [← hbody, ← bracketName_of_ne hne]
        rfl

/-- Whether a name stands there, and which, does not depend on what stands behind it. -/
theorem bracketName_append {name : String} {negated : Bool} :
    bracketName? (cs ++ t) = some (name, negated, rest ++ t) ↔
      bracketName? cs = some (name, negated, rest) := by
  rw [bracketName_eq_some, bracketName_eq_some]
  refine exists_congr fun letters => and_congr_right fun _ => and_congr_right fun _ =>
    and_congr_left fun _ => ?_
  have hbehind : ':' :: ((if negated then ['^'] else []) ++ letters) ++
      ':' :: ']' :: (rest ++ t) =
      (':' :: ((if negated then ['^'] else []) ++ letters) ++ ':' :: ']' :: rest) ++ t := by
    simp
  rw [hbehind, List.append_cancel_right_eq]

/-! ### Openings -/

/-- What stands behind the hyphens of a bracket: something has to, and a closing bracket that
nothing stands in front of is a character. -/
def openEnd? (f : Flags) (start : OpenBracket) (hyphens cs : List Char) :
    Option (OpenBracket × List Char) :=
  match hyphens, cs with
  | _, [] => none
  | [], ']' :: cs => if f.skip cs = [] then none else some (start.add ⟨.single ']', 0⟩, cs)
  | _, cs => some (start, cs)

/-- A bracket behind the mark that negates it. -/
def openWith? (f : Flags) (negated : Bool) (cs : List Char) :
    Option (OpenBracket × List Char) :=
  openEnd? f ((f.takeRun (· = '-') cs).1.foldl (fun b c => b.add ⟨.single c, 0⟩) { negated })
    (f.takeRun (· = '-') cs).1 (f.skip (f.takeRun (· = '-') cs).2)

theorem openBracket_eq (f : Flags) (cs : List Char) :
    openBracket? f cs = onMark '^' (openWith? f true) (openWith? f false) (f.skip cs) := by
  rw [openBracket?]
  cases f.skip cs with
  | nil => rfl
  | cons c cs =>
      by_cases hc : c = '^'
      · subst hc
        rfl
      · rw [onMark_of_ne hc]
        split
        rename_i negated inside heq
        split at heq
        · rename_i hmark
          exact absurd (List.cons.inj hmark).1 hc
        · obtain ⟨rfl, rfl⟩ := Prod.mk.inj heq
          rfl

section OpenEnd

variable {start : OpenBracket} {hyphens : List Char}

theorem openEnd_closing (f : Flags) (start : OpenBracket) (cs : List Char) :
    openEnd? f start [] (']' :: cs) =
      if f.skip cs = [] then none else some (start.add ⟨.single ']', 0⟩, cs) := rfl

theorem openEnd_of_ne (h : hyphens = [] → c ≠ ']') :
    openEnd? f start hyphens (c :: cs) = some (start, c :: cs) := by
  rw [openEnd?.eq_def]
  split
  · exact absurd ‹c :: cs = []› (by simp)
  · rename_i heq
    exact absurd (List.cons.inj heq).1 (h rfl)
  · rfl

theorem openEnd_suffix (h : openEnd? f start hyphens cs = some (b, rest)) : rest <:+ cs := by
  cases cs with
  | nil => exact absurd h (by simp [openEnd?])
  | cons c cs =>
      by_cases hc : hyphens = [] → c ≠ ']'
      · rw [openEnd_of_ne hc] at h
        obtain ⟨-, rfl⟩ := Prod.mk.inj (Option.some.inj h)
        exact List.suffix_rfl
      · obtain ⟨rfl, hclosing⟩ := Classical.not_imp.mp hc
        obtain rfl := not_not.mp hclosing
        rw [openEnd_closing] at h
        split at h
        · exact absurd h (by simp)
        · obtain ⟨-, rfl⟩ := Prod.mk.inj (Option.some.inj h)
          exact List.suffix_cons _ _

theorem openEnd_alone (h : openEnd? f start hyphens (cs ++ t) = some (b, rest ++ t))
    (hrest : f.skip rest ≠ []) : openEnd? f start hyphens cs = some (b, rest) := by
  cases cs with
  | nil =>
      have hsuffix : rest <:+ [] := List.suffix_append_self_iff.mp (openEnd_suffix h)
      have hnil : rest = [] := List.suffix_nil.mp hsuffix
      rw [hnil, (drops_skip f).nil] at hrest
      exact absurd rfl hrest
  | cons c cs =>
      by_cases hc : hyphens = [] → c ≠ ']'
      · rw [List.cons_append, openEnd_of_ne hc] at h
        obtain ⟨rfl, hsame⟩ := Prod.mk.inj (Option.some.inj h)
        rw [← List.cons_append] at hsame
        rw [openEnd_of_ne hc, List.append_cancel_right hsame]
      · obtain ⟨rfl, hclosing⟩ := Classical.not_imp.mp hc
        obtain rfl := not_not.mp hclosing
        rw [List.cons_append, openEnd_closing] at h
        split at h
        · exact absurd h (by simp)
        · obtain ⟨rfl, hsame⟩ := Prod.mk.inj (Option.some.inj h)
          obtain rfl := List.append_cancel_right hsame
          rw [openEnd_closing, if_neg hrest]

end OpenEnd

theorem openWith_suffix {negated : Bool} (h : openWith? f negated cs = some (b, rest)) :
    rest <:+ cs :=
  ((openEnd_suffix h).trans ((drops_skip f).suffix _)).trans (takeRun_suffix f _ cs)

theorem openWith_alone {negated : Bool} (h : openWith? f negated (cs ++ t) = some (b, rest ++ t))
    (hrest : f.skip rest ≠ []) : openWith? f negated cs = some (b, rest) := by
  have hrun : t <:+ (f.takeRun (· = '-') (cs ++ t)).2 :=
    ((List.suffix_append rest t).trans (openEnd_suffix h)).trans ((drops_skip f).suffix _)
  rw [openWith?, takeRun_append hrun] at h
  rw [(skip_append_of_suffix (openEnd_suffix h)).1] at h
  exact openEnd_alone h hrest

theorem openBracket_suffix (h : openBracket? f cs = some (b, rest)) : rest <:+ f.skip cs := by
  rw [openBracket_eq] at h
  generalize f.skip cs = cs at h ⊢
  cases cs with
  | nil => exact openWith_suffix h
  | cons c cs =>
      by_cases hc : c = '^'
      · subst hc
        exact (openWith_suffix h).trans (List.suffix_cons _ _)
      · rw [onMark_of_ne hc] at h
        exact openWith_suffix h

/-- A bracket opens without what stands behind its first character. -/
theorem openBracket_alone (h : openBracket? f (cs ++ t) = some (b, rest ++ t))
    (hrest : f.skip rest ≠ []) : openBracket? f cs = some (b, rest) := by
  obtain ⟨hskip, hsuffix⟩ := skip_append_of_suffix (openBracket_suffix h)
  obtain ⟨c, inside, hinside⟩ : ∃ c inside, f.skip cs = c :: inside := by
    refine List.exists_cons_of_ne_nil fun hnil => hrest ?_
    rw [hnil] at hsuffix
    rw [List.suffix_nil.mp hsuffix, (drops_skip f).nil]
  rw [openBracket_eq, hskip, hinside, List.cons_append] at h
  rw [openBracket_eq, hinside]
  by_cases hc : c = '^'
  · subst hc
    exact openWith_alone h hrest
  · rw [onMark_of_ne hc, ← List.cons_append] at h
    rw [onMark_of_ne hc]
    exact openWith_alone h hrest

/-! ### Moves -/

/-- What one round of reading a class does. -/
inductive BracketMove where
  | item (x : Operand)
  | opens (inner : OpenBracket)
  | closes
  | operator (op : SetOp)

/-- An operator, which is a character twice. -/
def operator? : List Char → Option (SetOp × List Char)
  | '&' :: '&' :: cs => some (.both, cs)
  | '-' :: '-' :: cs => some (.firstOnly, cs)
  | '~' :: '~' :: cs => some (.exactlyOne, cs)
  | _ => none

theorem operator_eq_some {op : SetOp} : operator? cs = some (op, rest) ↔
    (op = .both ∧ cs = '&' :: '&' :: rest) ∨ (op = .firstOnly ∧ cs = '-' :: '-' :: rest) ∨
      (op = .exactlyOne ∧ cs = '~' :: '~' :: rest) := by
  constructor
  · intro h
    rw [operator?.eq_def] at h
    split at h
    all_goals simp_all
  · rintro (⟨rfl, rfl⟩ | ⟨rfl, rfl⟩ | ⟨rfl, rfl⟩) <;> rfl

theorem operator_append {op : SetOp} : operator? (cs ++ t) = some (op, rest ++ t) ↔
    operator? cs = some (op, rest) := by
  simp only [operator_eq_some, ← List.cons_append, List.append_cancel_right_eq]

/-- What stands behind an opening bracket: a name, or a class. -/
def inner? (f : Flags) (cs : List Char) : Option (BracketMove × List Char) :=
  match bracketName? cs with
  | some (name, negated, rest) =>
    (bracketClass? name).bind fun set => (f.classOf? set negated).bind fun set =>
      some (.item ⟨set, 0⟩, rest)
  | none => (openBracket? f cs).bind fun found => some (.opens found.1, found.2)

/-- What a class goes on with. -/
def bracketMove? (f : Flags) (cs : List Char) : Option (BracketMove × List Char) :=
  match f.skip cs with
  | [] => none
  | c :: inside =>
    if c = '[' then inner? f inside
    else if c = ']' then some (.closes, inside)
    else match operator? (c :: inside) with
      | some (op, rest) => some (.operator op, rest)
      | none => (bracketRange? f (c :: inside)).bind fun found => some (.item found.1, found.2)

/-- What a move makes of the open brackets: a class is finished, or reading goes on. -/
def BracketMove.step? (f : Flags) (outer : List OpenBracket) (b : OpenBracket) :
    BracketMove → Option (Operand ⊕ (List OpenBracket × OpenBracket))
  | .item x => some (.inr (outer, b.add x))
  | .opens inner => some (.inr (b :: outer, inner))
  | .operator op => some (.inr (outer, b.operator f op))
  | .closes => (b.close? f).bind fun x =>
    match outer with
    | [] => some (.inl x)
    | b :: outer => some (.inr (outer, b.add x))

/-- Only what closes finishes a class. -/
theorem BracketMove.eq_closes {move : BracketMove} {outer : List OpenBracket}
    (h : move.step? f outer b = some (.inl x)) : move = .closes := by
  cases move with
  | closes => rfl
  | item x => exact absurd h (by simp [step?])
  | opens inner => exact absurd h (by simp [step?])
  | operator op => exact absurd h (by simp [step?])

/-- Reading a class goes from move to move. -/
theorem bracketRest_succ (fuel : Nat) (outer : List OpenBracket) :
    bracketRest? f (fuel + 1) outer b cs = (bracketMove? f cs).bind fun found =>
      (found.1.step? f outer b).bind fun
        | .inl x => some (x, found.2)
        | .inr (outer, b) => bracketRest? f fuel outer b found.2 := by
  rw [bracketRest?, bracketMove?]
  cases f.skip cs with
  | nil => rfl
  | cons c inside =>
      by_cases hopening : c = '['
      · subst hopening
        simp only [if_true, inner?]
        cases bracketName? inside with
        | none => cases openBracket? f inside <;> rfl
        | some found =>
            obtain ⟨name, negated, rest⟩ := found
            simp only [bind]
            cases bracketClass? name with
            | none => rfl
            | some set =>
                cases hclass : f.classOf? set negated <;> simp [hclass, BracketMove.step?]
      · by_cases hclosing : c = ']'
        · subst hclosing
          simp only [if_true, if_neg hopening, Option.bind_some, BracketMove.step?]
          cases b.close? f with
          | none => rfl
          | some x => cases outer <;> rfl
        · simp only [if_neg hopening, if_neg hclosing]
          split
          · exact absurd ‹c :: inside = []› (by simp)
          · rename_i heq
            exact absurd (List.cons.inj heq).1 hopening
          · rename_i heq
            exact absurd (List.cons.inj heq).1 hclosing
          · rename_i heq
            rw [heq]
            rfl
          · rename_i heq
            rw [heq]
            rfl
          · rename_i heq
            rw [heq]
            rfl
          · rename_i hboth hfirst hone
            rw [operator?]
            · cases bracketRange? f (c :: inside) <;> rfl
            all_goals assumption

theorem inner_suffix {move : BracketMove} (h : inner? f cs = some (move, rest)) : rest <:+ cs := by
  rw [inner?] at h
  split at h
  · rename_i name negated rest' hname
    obtain ⟨set, -, h⟩ := Option.bind_eq_some_iff.mp h
    obtain ⟨set', -, h⟩ := Option.bind_eq_some_iff.mp h
    obtain ⟨-, rfl⟩ := Prod.mk.inj (Option.some.inj h)
    obtain ⟨letters, -, -, rfl, -⟩ := bracketName_eq_some.mp hname
    exact ((List.suffix_cons _ _).trans (List.suffix_cons _ _)).trans (List.suffix_append _ _)
  · obtain ⟨found, hopen, h⟩ := Option.bind_eq_some_iff.mp h
    obtain ⟨-, rfl⟩ := Prod.mk.inj (Option.some.inj h)
    exact (openBracket_suffix hopen).trans ((drops_skip f).suffix cs)

theorem inner_alone {move : BracketMove} (h : inner? f (cs ++ t) = some (move, rest ++ t))
    (hrest : f.skip rest ≠ []) : inner? f cs = some (move, rest) := by
  rw [inner?] at h
  split at h
  · rename_i name negated rest' hname
    obtain ⟨set, hset, h⟩ := Option.bind_eq_some_iff.mp h
    obtain ⟨set', hset', h⟩ := Option.bind_eq_some_iff.mp h
    obtain ⟨rfl, rfl⟩ := Prod.mk.inj (Option.some.inj h)
    rw [inner?, bracketName_append.mp hname]
    simp [hset, hset']
  · rename_i hname
    obtain ⟨⟨inner, rest'⟩, hopen, h⟩ := Option.bind_eq_some_iff.mp h
    obtain ⟨rfl, rfl⟩ := Prod.mk.inj (Option.some.inj h)
    have hnone : bracketName? cs = none := by
      by_contra hsome
      obtain ⟨⟨name, negated, behind⟩, hfound⟩ := Option.ne_none_iff_exists'.mp hsome
      rw [bracketName_append.mpr hfound] at hname
      exact absurd hname (by simp)
    rw [inner?, hnone]
    simp [openBracket_alone hopen hrest]

theorem bracketMove_suffix {move : BracketMove} (h : bracketMove? f cs = some (move, rest)) :
    ∃ c, c :: rest <:+ f.skip cs := by
  rw [bracketMove?] at h
  cases hskip : f.skip cs with
  | nil => simp [hskip] at h
  | cons c inside =>
      simp only [hskip] at h
      split at h
      · exact exists_cons_suffix (inner_suffix h) List.suffix_rfl
      · split at h
        · obtain ⟨-, rfl⟩ := Prod.mk.inj (Option.some.inj h)
          exact ⟨c, List.suffix_rfl⟩
        · split at h
          · rename_i op rest' hop
            obtain ⟨-, rfl⟩ := Prod.mk.inj (Option.some.inj h)
            rcases operator_eq_some.mp hop with ⟨-, hop⟩ | ⟨-, hop⟩ | ⟨-, hop⟩
            all_goals
              rw [hop]
              exact ⟨_, List.suffix_cons _ _⟩
          · obtain ⟨found, hrange, h⟩ := Option.bind_eq_some_iff.mp h
            obtain ⟨-, rfl⟩ := Prod.mk.inj (Option.some.inj h)
            exact bracketRange_suffix hrange

theorem inner_ne_closes : inner? f cs ≠ some (.closes, rest) := by
  intro h
  rw [inner?] at h
  split at h
  · obtain ⟨set, -, h⟩ := Option.bind_eq_some_iff.mp h
    obtain ⟨set', -, h⟩ := Option.bind_eq_some_iff.mp h
    exact absurd (congrArg Prod.fst (Option.some.inj h)) (by simp)
  · obtain ⟨found, -, h⟩ := Option.bind_eq_some_iff.mp h
    exact absurd (congrArg Prod.fst (Option.some.inj h)) (by simp)

theorem bracketMove_closes : bracketMove? f cs = some (.closes, rest) ↔
    f.skip cs = ']' :: rest := by
  rw [bracketMove?]
  cases f.skip cs with
  | nil => simp
  | cons c inside =>
      constructor
      · intro h
        simp only at h
        split at h
        · exact absurd h inner_ne_closes
        · split at h
          · rename_i hc
            obtain ⟨-, rfl⟩ := Prod.mk.inj (Option.some.inj h)
            rw [hc]
          · split at h
            · exact absurd (congrArg Prod.fst (Option.some.inj h)) (by simp)
            · obtain ⟨found, -, h⟩ := Option.bind_eq_some_iff.mp h
              exact absurd (congrArg Prod.fst (Option.some.inj h)) (by simp)
      · intro h
        rw [h]
        rfl

/-- A move in front of a closing bracket is the same without what stands behind that. -/
theorem bracketMove_alone {move : BracketMove}
    (h : bracketMove? f (cs ++ t) = some (move, rest ++ t)) (hrest : ']' ∈ f.skip rest) :
    bracketMove? f cs = some (move, rest) := by
  obtain ⟨d, hd⟩ := bracketMove_suffix h
  rw [← List.cons_append] at hd
  obtain ⟨hskip, hsuffix⟩ := skip_append_of_suffix hd
  obtain ⟨c, inside, hinside⟩ := List.exists_cons_of_ne_nil
    (List.ne_nil_of_mem (hsuffix.subset List.mem_cons_self))
  rw [bracketMove?, hskip, hinside, List.cons_append] at h
  rw [bracketMove?, hinside]
  simp only at h ⊢
  split at h
  · rename_i hc
    rw [if_pos hc]
    exact inner_alone h (List.ne_nil_of_mem hrest)
  · rename_i hopening
    rw [if_neg hopening]
    split at h
    · rename_i hc
      obtain ⟨rfl, hsame⟩ := Prod.mk.inj (Option.some.inj h)
      rw [if_pos hc, List.append_cancel_right hsame]
    · rename_i hclosing
      rw [if_neg hclosing]
      rw [← List.cons_append] at h
      split at h
      · rename_i op rest' hop
        obtain ⟨rfl, rfl⟩ := Prod.mk.inj (Option.some.inj h)
        rw [operator_append.mp hop]
      · rename_i hop
        obtain ⟨⟨x, rest'⟩, hrange, h⟩ := Option.bind_eq_some_iff.mp h
        obtain ⟨rfl, rfl⟩ := Prod.mk.inj (Option.some.inj h)
        have hnone : operator? (c :: inside) = none := by
          by_contra hsome
          obtain ⟨⟨op, behind⟩, hfound⟩ := Option.ne_none_iff_exists'.mp hsome
          rw [operator_append.mpr hfound] at hop
          exact absurd hop (by simp)
        rw [hnone, bracketRange_alone hrange (((drops_skip f).suffix rest).subset hrest)]
        rfl

/-! ### Classes -/

/-- What is read of a class ends in a closing bracket. -/
theorem bracketRest_suffix {n : Nat} {outer : List OpenBracket}
    (h : bracketRest? f n outer b cs = some (x, rest)) : ']' :: rest <:+ f.skip cs := by
  induction n generalizing outer b cs with
  | zero => exact absurd h (by simp [bracketRest?])
  | succ n ih =>
      rw [bracketRest_succ] at h
      obtain ⟨⟨move, mid⟩, hmove, h⟩ := Option.bind_eq_some_iff.mp h
      obtain ⟨next, happly, h⟩ := Option.bind_eq_some_iff.mp h
      cases next with
      | inl y =>
          obtain ⟨-, rfl⟩ := Prod.mk.inj (Option.some.inj h)
          obtain rfl := BracketMove.eq_closes happly
          rw [bracketMove_closes.mp hmove]
      | inr next =>
          obtain ⟨d, hd⟩ := bracketMove_suffix hmove
          exact ((ih h).trans ((drops_skip f).suffix mid)).trans ((List.suffix_cons d mid).trans hd)

/-- In front of a class that is read lies all that it is read from. -/
theorem exists_append_of_bracketRest {n : Nat} {outer : List OpenBracket}
    (h : bracketRest? f n outer b mid = some (x, rest ++ t)) :
    ∃ front, mid = front ++ t ∧ ']' ∈ f.skip front := by
  have hclosing := bracketRest_suffix h
  obtain ⟨front, hfront⟩ := ((List.suffix_append rest t).trans (List.suffix_cons ']' _)).trans
    (hclosing.trans ((drops_skip f).suffix mid))
  subst hfront
  rw [← List.cons_append] at hclosing
  exact ⟨front, rfl, (skip_append_of_suffix hclosing).2.subset List.mem_cons_self⟩

/-- A class is read without what stands behind its closing bracket, in as many moves. -/
theorem bracketRest_alone {n m : Nat} {outer : List OpenBracket}
    (h : bracketRest? f n outer b (cs ++ t) = some (x, rest ++ t)) (hm : cs.length < m) :
    bracketRest? f m outer b cs = some (x, rest) := by
  induction n generalizing outer b cs m with
  | zero => exact absurd h (by simp [bracketRest?])
  | succ n ih =>
      obtain ⟨m, rfl⟩ := Nat.exists_eq_add_one_of_ne_zero (Nat.ne_zero_of_lt hm)
      rw [bracketRest_succ] at h ⊢
      obtain ⟨⟨move, mid⟩, hmove, h⟩ := Option.bind_eq_some_iff.mp h
      obtain ⟨next, happly, h⟩ := Option.bind_eq_some_iff.mp h
      cases next with
      | inl y =>
          obtain ⟨rfl, rfl⟩ := Prod.mk.inj (Option.some.inj h)
          obtain rfl := BracketMove.eq_closes happly
          have hskip := bracketMove_closes.mp hmove
          rw [← List.cons_append] at hskip
          have hleft : ']' :: rest ++ t <:+ f.skip (cs ++ t) := hskip.symm ▸ List.suffix_rfl
          rw [(skip_append_of_suffix hleft).1] at hskip
          have halone := bracketMove_closes.mpr (List.append_cancel_right hskip)
          rw [halone, Option.bind_some, happly]
          rfl
      | inr next =>
          obtain ⟨mid, rfl, hclosing⟩ := exists_append_of_bracketRest h
          have halone := bracketMove_alone hmove hclosing
          obtain ⟨d, hd⟩ := bracketMove_suffix halone
          have hlength := (hd.trans ((drops_skip f).suffix cs)).length_le
          rw [List.length_cons] at hlength
          rw [halone, Option.bind_some, happly]
          exact ih h (show mid.length < m by omega)

theorem local_bracket (f : Flags) : Local (bracket? f) := by
  refine ⟨fun {cs x rest} h => ?_, fun {cs t x rest} h => ?_⟩
  · obtain ⟨⟨b, mid⟩, hopen, h⟩ := Option.bind_eq_some_iff.mp h
    have hinside := (openBracket_suffix hopen).trans ((drops_skip f).suffix cs)
    have hrest := (bracketRest_suffix h).trans ((drops_skip f).suffix mid)
    exact ((List.suffix_cons _ _).trans hrest).trans hinside
  · obtain ⟨⟨b, mid⟩, hopen, h⟩ := Option.bind_eq_some_iff.mp h
    obtain ⟨mid, rfl, hclosing⟩ := exists_append_of_bracketRest h
    have halone := openBracket_alone hopen (List.ne_nil_of_mem hclosing)
    exact Option.bind_eq_some_iff.mpr ⟨_, halone, bracketRest_alone h (Nat.lt_succ_self _)⟩

end ArchiveScout.Regex
