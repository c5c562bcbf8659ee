import ArchiveScout.Proofs.Regex.Local

/-!
# ArchiveScout.Proofs.Regex.Escape

**What a backslash introduces is read without looking ahead, but for the edges of words.** An edge
may have a name in braces, so a brace behind it is looked into before it is left alone. It is left
alone only if something else stands in it, and then it has to start a repetition.
-/

namespace ArchiveScout.Regex

variable {f : Flags} {cs t rest : List Char} {c : Char}

/-! ### Codes and classes -/

theorem local_hexDigits (f : Flags) (n : Nat) : Local (hexDigits? f n) := by
  induction n with
  | zero =>
      have hsame : hexDigits? f 0 = fun cs => some ([], cs) := by
        funext cs
        rw [hexDigits?]
      rw [hsame]
      exact .give []
  | succ n ih =>
      have hsame : hexDigits? f (n + 1) = onHead fun c cs => if isHexDigit c then
          andThen (fun cs => hexDigits? f n (f.skip cs))
            (fun digits rest => some (c :: digits, rest)) cs
          else none := by
        funext cs
        cases cs with
        | nil => rfl
        | cons c cs =>
            rw [hexDigits?, onHead, andThen, Option.map_eq_bind]
            rfl
      rw [hsame]
      refine .onHead fun c => .ite ?_ .fail
      exact (ih.behind (drops_skip f)).andThen fun digits => .give (c :: digits)

theorem local_hexCode (f : Flags) (n : Nat) : Local (hexCode? f n) := by
  have hsame : hexCode? f n = fun cs => onMark '\x7b'
      (andThen f.braced? fun digits rest => if digits = [] ∨ !digits.all isHexDigit then none
        else (charOfHex? digits).bind fun c => some (Atom.char c false, rest))
      (andThen (hexDigits? f n) fun digits rest =>
        (charOfHex? digits).bind fun c => some (Atom.char c (n = 2), rest)) (f.skip cs) := by
    funext cs
    rw [hexCode?]
    cases f.skip cs with
    | nil => rfl
    | cons c cs =>
        by_cases hc : c = '\x7b'
        · subst hc
          rfl
        · rw [onMark_of_ne hc]
          split
          · rename_i heq
            exact absurd (List.cons.inj heq).1 hc
          · rfl
  rw [hsame]
  refine Local.behind (.onMark '\x7b' ?_ ?_) (drops_skip f)
  · exact (local_braced f).andThen fun digits => .ite .fail (.of _ fun c => .give _)
  · exact (local_hexDigits f n).andThen fun digits => .of _ fun c => .give _

theorem local_propertyClass (f : Flags) (negated : Bool) : Local (propertyClass? f negated) := by
  have hsame : propertyClass? f negated = fun cs => if !f.unicode then none
      else onMark '\x7b'
        (andThen f.braced? fun inside rest => (namedProperty? negated inside).bind fun found =>
          (f.classOf? found.1 found.2).bind fun set => some (Atom.set set, rest))
        (onHead fun c cs => if c = '\\' then none
          else (property? [c]).bind fun set =>
            (f.classOf? set negated).bind fun set => some (Atom.set set, cs)) (f.skip cs) := by
    funext cs
    rw [propertyClass?]
    by_cases hunicode : f.unicode = true
    · rw [if_neg (by simp [hunicode]), if_neg (by simp [hunicode])]
      cases f.skip cs with
      | nil => rfl
      | cons c cs =>
          by_cases hc : c = '\x7b'
          · subst hc
            rfl
          · rw [onMark_of_ne hc, onHead]
            by_cases hmark : c = '\\'
            · subst hmark
              rfl
            · rw [if_neg hmark]
              split
              · rename_i heq
                exact absurd (List.cons.inj heq).1 hc
              · rename_i heq
                exact absurd (List.cons.inj heq).1 hmark
              · rename_i heq
                obtain ⟨rfl, rfl⟩ := List.cons.inj heq
                rfl
              · rename_i heq
                exact absurd heq (by simp)
    · rw [if_pos (by simpa using hunicode), if_pos (by simpa using hunicode)]
  rw [hsame]
  refine .ite .fail (Local.behind (.onMark '\x7b' ?_ (.onHead fun c => .ite .fail ?_))
    (drops_skip f))
  · exact (local_braced f).andThen fun inside => .of _ fun found => .of _ fun set => .give _
  · exact .of _ fun set => .of _ fun set => .give _

/-! ### Edges of words -/

/-- A character of the name of an edge. -/
def isEdgeChar (c : Char) : Bool := c.isAlpha || c = '-'

theorem wordEdge_brace (f : Flags) (inside : List Char) : wordEdge? f ('\x7b' :: inside) =
    match f.skip inside with
    | [] => none
    | c :: _ =>
      if !isEdgeChar c then some (.look (.wordEdge !f.unicode), '\x7b' :: inside)
      else match f.takeRun isEdgeChar inside with
        | (name, '\x7d' :: rest) =>
          (namedEdge? f (String.ofList name)).map fun l => (.look l, rest)
        | _ => none := rfl

theorem wordEdge_of_ne (h : ∀ inside, cs ≠ '\x7b' :: inside) :
    wordEdge? f cs = some (.look (.wordEdge !f.unicode), cs) := by
  rw [wordEdge?.eq_def]
  split
  · rename_i inside
    exact absurd rfl (h inside)
  · rfl

/-- How an edge is read in front of a brace: it is left alone, or it has a name. -/
theorem wordEdge_brace_eq_some {inside : List Char} {x : Atom} :
    wordEdge? f ('\x7b' :: inside) = some (x, rest) ↔ ∃ c behind, f.skip inside = c :: behind ∧
      ((isEdgeChar c = false ∧ x = .look (.wordEdge !f.unicode) ∧ rest = '\x7b' :: inside) ∨
        (isEdgeChar c = true ∧ ∃ name l, f.takeRun isEdgeChar inside = (name, '\x7d' :: rest) ∧
          namedEdge? f (String.ofList name) = some l ∧ x = .look l)) := by
  rw [wordEdge_brace]
  cases f.skip inside with
  | nil =>
      refine iff_of_false (by simp) ?_
      rintro ⟨c, behind, hskip, -⟩
      exact absurd hskip (by simp)
  | cons c behind =>
      by_cases hc : isEdgeChar c = true
      · simp only [hc, Bool.not_true, Bool.false_eq_true, if_false]
        constructor
        · intro h
          split at h
          · rename_i name rest' hrun
            obtain ⟨l, hname, hl⟩ := Option.map_eq_some_iff.mp h
            obtain ⟨rfl, rfl⟩ := Prod.mk.inj hl
            exact ⟨c, behind, rfl, .inr ⟨hc, name, l, hrun, hname, rfl⟩⟩
          · exact absurd h (by simp)
        · rintro ⟨d, behind', heq, ⟨hd, -⟩ | ⟨-, name, l, hrun, hname, rfl⟩⟩
          · rw [← (List.cons.inj heq).1, hc] at hd
            exact absurd hd (by simp)
          · rw [hrun]
            simp only [hname, Option.map_some]
      · rw [Bool.not_eq_true] at hc
        simp only [hc, Bool.not_false, if_true]
        constructor
        · intro h
          obtain ⟨rfl, rfl⟩ := Prod.mk.inj (Option.some.inj h)
          exact ⟨c, behind, rfl, .inl ⟨hc, rfl, rfl⟩⟩
        · rintro ⟨d, behind', heq, ⟨-, rfl, rfl⟩ | ⟨hd, -⟩⟩
          · rfl
          · rw [← (List.cons.inj heq).1, hc] at hd
            exact absurd hd (by simp)

theorem wordEdge_suffix {x : Atom} (h : wordEdge? f cs = some (x, rest)) : rest <:+ cs := by
  by_cases hbrace : ∃ inside, cs = '\x7b' :: inside
  · obtain ⟨inside, rfl⟩ := hbrace
    obtain ⟨c, behind, -, ⟨-, -, rfl⟩ | ⟨-, name, l, hrun, -⟩⟩ := wordEdge_brace_eq_some.mp h
    · exact List.suffix_rfl
    · have hsuffix := takeRun_suffix f isEdgeChar inside
      rw [hrun] at hsuffix
      exact ((List.suffix_cons _ _).trans hsuffix).trans (List.suffix_cons _ _)
  · rw [wordEdge_of_ne (not_exists.mp hbrace)] at h
    obtain ⟨-, rfl⟩ := Prod.mk.inj (Option.some.inj h)
    exact List.suffix_rfl

/-- An edge of a word in front of a brace behind which nothing stands. -/
def EndsInBrace (f : Flags) (x : Atom) (rest : List Char) : Prop :=
  (∃ l, x = .look l) ∧ ∃ inside, rest = '\x7b' :: inside ∧ f.skip inside = []

theorem skip_eq_cons_of_append {inside behind : List Char} (hne : f.skip inside ≠ [])
    (h : f.skip (inside ++ t) = c :: behind) : ∃ behind', f.skip inside = c :: behind' := by
  obtain ⟨d, behind', halone⟩ := List.exists_cons_of_ne_nil hne
  rw [skip_append hne, halone] at h
  exact ⟨behind', by rw [halone, (List.cons.inj h).1]⟩

/-- What stands in a brace is looked at; only if nothing does, more text can make a difference. -/
theorem wordEdge_brace_alone {inside : List Char} {x : Atom}
    (h : wordEdge? f ('\x7b' :: (inside ++ t)) = some (x, rest ++ t)) :
    wordEdge? f ('\x7b' :: inside) = some (x, rest) ∨ EndsInBrace f x rest := by
  obtain ⟨c, behind, hskip, hedge⟩ := wordEdge_brace_eq_some.mp h
  rcases hedge with ⟨hc, rfl, hrest⟩ | ⟨hc, name, l, hrun, hname, rfl⟩
  · obtain rfl : rest = '\x7b' :: inside := List.append_cancel_right hrest
    by_cases hnone : f.skip inside = []
    · exact .inr ⟨⟨_, rfl⟩, inside, rfl, hnone⟩
    · obtain ⟨behind', halone⟩ := skip_eq_cons_of_append hnone hskip
      exact .inl (wordEdge_brace_eq_some.mpr ⟨c, behind', halone, .inl ⟨hc, rfl, rfl⟩⟩)
  · have hsuffix : t <:+ (f.takeRun isEdgeChar (inside ++ t)).2 := by
      rw [hrun]
      exact (List.suffix_append rest t).trans (List.suffix_cons _ _)
    rw [takeRun_append hsuffix, Prod.mk.injEq, ← List.cons_append] at hrun
    have halone : f.takeRun isEdgeChar inside = (name, '\x7d' :: rest) :=
      Prod.ext hrun.1 (List.append_cancel_right hrun.2)
    have hsome : f.skip inside ≠ [] := by
      intro hnone
      rw [takeRun_of_skip_eq_nil hnone] at halone
      exact absurd (congrArg Prod.snd halone) (by simp)
    obtain ⟨behind', hbehind⟩ := skip_eq_cons_of_append hsome hskip
    exact .inl (wordEdge_brace_eq_some.mpr
      ⟨c, behind', hbehind, .inr ⟨hc, name, l, halone, hname, rfl⟩⟩)

/-- An edge that leaves all the text is the same edge at the end of a text. -/
theorem wordEdge_nil_alone {x : Atom} (h : wordEdge? f t = some (x, rest ++ t)) :
    wordEdge? f [] = some (x, rest) := by
  obtain rfl : rest = [] := by
    have hlength := (wordEdge_suffix h).length_le
    rw [List.length_append] at hlength
    exact List.eq_nil_of_length_eq_zero (by omega)
  rw [wordEdge_of_ne (by simp)]
  by_cases hbrace : ∃ inside, t = '\x7b' :: inside
  · obtain ⟨inside, rfl⟩ := hbrace
    obtain ⟨c, behind, -, ⟨-, rfl, -⟩ | ⟨-, name, l, hrun, -⟩⟩ := wordEdge_brace_eq_some.mp h
    · rfl
    · -- A name in braces would have taken the brace.
      have hlength := (takeRun_suffix f isEdgeChar inside).length_le
      rw [hrun] at hlength
      simp only [List.nil_append, List.length_cons] at hlength
      omega
  · rw [wordEdge_of_ne (not_exists.mp hbrace)] at h
    obtain ⟨rfl, -⟩ := Prod.mk.inj (Option.some.inj h)
    rfl

theorem wordEdge_alone {x : Atom} (h : wordEdge? f (cs ++ t) = some (x, rest ++ t)) :
    wordEdge? f cs = some (x, rest) ∨ EndsInBrace f x rest := by
  cases cs with
  | nil => exact .inl (wordEdge_nil_alone h)
  | cons c cs =>
      by_cases hc : c = '\x7b'
      · subst hc
        exact wordEdge_brace_alone h
      · have hother : ∀ cs inside, c :: cs ≠ '\x7b' :: inside :=
          fun _ _ heq => hc (List.cons.inj heq).1
        rw [List.cons_append, wordEdge_of_ne (hother _)] at h
        rw [wordEdge_of_ne (hother _)]
        obtain ⟨rfl, hrest⟩ := Prod.mk.inj (Option.some.inj h)
        obtain rfl : c :: cs = rest := List.append_cancel_right hrest
        exact .inl rfl

/-! ### Escapes -/

/-- What a single character behind a backslash stands for. -/
def escapedAtom? (f : Flags) (c : Char) : Option Atom :=
  if c ∈ ['d', 's', 'w', 'D', 'S', 'W'] then (letterClass? f c).map .set
  else if isEscapable c then some (.char c false)
  else ((controlChar? c).map fun c => .char c false) <|> (lookOf? f c).map .look

/-- All but the edges of words is read without looking ahead. -/
theorem local_escape (hc : c ≠ 'b') : Local fun cs => escape? f (c :: cs) := by
  by_cases hx : c = 'x'
  · subst hx
    exact local_hexCode f 2
  by_cases hu : c = 'u'
  · subst hu
    exact local_hexCode f 4
  by_cases hU : c = 'U'
  · subst hU
    exact local_hexCode f 8
  by_cases hp : c = 'p'
  · subst hp
    exact local_propertyClass f false
  by_cases hP : c = 'P'
  · subst hP
    exact local_propertyClass f true
  have hsame : (fun cs => escape? f (c :: cs)) = fun cs =>
      (escapedAtom? f c).bind fun x => some (x, cs) := by
    funext cs
    rw [escape?, escapedAtom?]
    · split
      · cases letterClass? f c <;> rfl
      · split
        · rfl
        · cases controlChar? c <;> cases lookOf? f c <;> rfl
    all_goals
      rintro rfl
      contradiction
  rw [hsame]
  exact .of _ fun x => .give x

theorem escape_suffix {x : Atom} (h : escape? f cs = some (x, rest)) : rest <:+ cs := by
  cases cs with
  | nil => exact absurd h (by simp [escape?])
  | cons c cs =>
      by_cases hb : c = 'b'
      · subst hb
        exact (wordEdge_suffix h).trans (List.suffix_cons _ _)
      · exact ((local_escape hb).suffix h).trans (List.suffix_cons _ _)

theorem escape_alone {x : Atom} (h : escape? f (cs ++ t) = some (x, rest ++ t)) :
    escape? f cs = some (x, rest) ∨ EndsInBrace f x rest := by
  cases cs with
  | nil =>
      cases t with
      | nil => exact .inl (by simpa using h)
      | cons c t =>
          rw [List.nil_append] at h
          have hlength : (rest ++ c :: t).length ≤ t.length := by
            by_cases hb : c = 'b'
            · subst hb
              exact (wordEdge_suffix h).length_le
            · exact ((local_escape hb).suffix h).length_le
          simp only [List.length_append, List.length_cons] at hlength
          omega
  | cons c cs =>
      by_cases hb : c = 'b'
      · subst hb
        exact wordEdge_alone h
      · exact .inl ((local_escape hb).alone h)

end ArchiveScout.Regex
