import ArchiveScout.Regex.Pattern
import Mathlib.Data.List.Infix

/-!
# ArchiveScout.Proofs.Regex.Local

**Reading without looking ahead.** A part of a pattern is read from the front of a text. Where
reading stops in front of some text, it gives the same without that text: what stands behind a part
does not change it. This holds of readers one by one and is kept when they are put together.
-/

namespace ArchiveScout.Regex

variable {α β : Type} {f : Flags} {cs t rest : List Char} {c : Char}

/-! ### Dropping -/

/-- Something is dropped in front of a text, whatever stands behind what is left. -/
structure Drops (drop : List Char → List Char) : Prop where
  suffix : ∀ cs, drop cs <:+ cs
  append : ∀ {cs t}, t <:+ drop (cs ++ t) → drop (cs ++ t) = drop cs ++ t

theorem Drops.nil {drop : List Char → List Char} (h : Drops drop) : drop [] = [] :=
  List.suffix_nil.mp (h.suffix [])

theorem drops_id : Drops id := ⟨fun _ => List.suffix_rfl, fun _ => rfl⟩

/-- A character is dropped, or nothing more is. -/
theorem skipTrivia_cons (inComment : Bool) (c : Char) :
    (∃ next, ∀ cs, skipTrivia inComment (c :: cs) = skipTrivia next cs) ∨
      ∀ cs, skipTrivia inComment (c :: cs) = c :: cs := by
  by_cases hcomment : inComment = true
  · exact .inl ⟨_, fun cs => by rw [skipTrivia, if_pos hcomment]⟩
  · by_cases hblank : Text.isBlank c = true
    · exact .inl ⟨_, fun cs => by rw [skipTrivia, if_neg hcomment, if_pos hblank]⟩
    · by_cases hmark : c = '#'
      · exact .inl ⟨_, fun cs => by rw [skipTrivia, if_neg hcomment, if_neg hblank, if_pos hmark]⟩
      · exact .inr fun cs => by rw [skipTrivia, if_neg hcomment, if_neg hblank, if_neg hmark]

theorem skipTrivia_suffix (inComment : Bool) (cs : List Char) :
    skipTrivia inComment cs <:+ cs := by
  induction cs generalizing inComment with
  | nil => exact List.suffix_rfl
  | cons c cs ih =>
      rcases skipTrivia_cons inComment c with ⟨next, hdrop⟩ | hstop
      · rw [hdrop]
        exact (ih next).trans (List.suffix_cons c cs)
      · rw [hstop]

theorem drops_skipTrivia (inComment : Bool) : Drops (skipTrivia inComment) := by
  refine ⟨skipTrivia_suffix inComment, fun {cs t} h => ?_⟩
  induction cs generalizing inComment with
  | nil => exact List.infix_antisymm (skipTrivia_suffix inComment t).isInfix h.isInfix
  | cons c cs ih =>
      rw [List.cons_append] at h ⊢
      rcases skipTrivia_cons inComment c with ⟨next, hdrop⟩ | hstop
      · rw [hdrop] at h ⊢
        rw [hdrop]
        exact ih next h
      · rw [hstop, hstop]
        rfl

theorem drops_skip (f : Flags) : Drops f.skip := by
  by_cases h : f.verbose = true
  · have hskip : f.skip = skipTrivia false := by
      funext cs
      rw [Flags.skip, if_pos h]
    rw [hskip]
    exact drops_skipTrivia false
  · have hskip : f.skip = id := by
      funext cs
      rw [Flags.skip, if_neg h]
      rfl
    rw [hskip]
    exact drops_id

theorem skipTrivia_append {inComment : Bool} (h : skipTrivia inComment cs ≠ []) :
    skipTrivia inComment (cs ++ t) = skipTrivia inComment cs ++ t := by
  induction cs generalizing inComment with
  | nil => exact absurd rfl h
  | cons c cs ih =>
      rw [List.cons_append]
      rcases skipTrivia_cons inComment c with ⟨next, hdrop⟩ | hstop
      · rw [hdrop] at h ⊢
        rw [hdrop]
        exact ih h
      · rw [hstop, hstop]
        rfl

/-- Where something stops the dropping, it stops it in front of any other text too. -/
theorem skip_append (h : f.skip cs ≠ []) : f.skip (cs ++ t) = f.skip cs ++ t := by
  rw [Flags.skip] at h
  rw [Flags.skip, Flags.skip]
  split at h
  · rename_i hverbose
    rw [if_pos hverbose, if_pos hverbose]
    exact skipTrivia_append h
  · rename_i hverbose
    rw [if_neg hverbose, if_neg hverbose]

/-- A character that is neither a blank nor the mark of a comment stops the dropping. -/
theorem skip_cons (hblank : Text.isBlank c = false) (hmark : c ≠ '#') :
    f.skip (c :: cs) = c :: cs := by
  rw [Flags.skip, skipTrivia, if_neg Bool.false_ne_true, hblank, if_neg Bool.false_ne_true,
    if_neg hmark, ite_self]

theorem drops_dropWhile (p : Char → Bool) : Drops (List.dropWhile p) := by
  refine ⟨fun cs => List.dropWhile_suffix p, fun {cs t} h => ?_⟩
  induction cs with
  | nil => exact List.infix_antisymm (List.dropWhile_suffix p).isInfix h.isInfix
  | cons c cs ih =>
      rw [List.cons_append, List.dropWhile_cons] at h ⊢
      rw [List.dropWhile_cons]
      split at h
      · rename_i hc
        rw [if_pos hc, if_pos hc]
        exact ih h
      · rename_i hc
        rw [if_neg hc, if_neg hc]
        rfl

/-! ### Readers -/

/-- A reader takes its part from the front of a text, and reads the same without what stands
behind. -/
structure Local (read : List Char → Option (α × List Char)) : Prop where
  suffix : ∀ {cs x rest}, read cs = some (x, rest) → rest <:+ cs
  alone : ∀ {cs t x rest}, read (cs ++ t) = some (x, rest ++ t) → read cs = some (x, rest)

/-- Reads on behind the first character, which decides how. -/
def onHead (next : Char → List Char → Option (α × List Char)) :
    List Char → Option (α × List Char)
  | [] => none
  | c :: cs => next c cs

/-- Reads on behind a mark, and where there is none, reads in another way. -/
def onMark (mark : Char) (read other : List Char → Option (α × List Char)) :
    List Char → Option (α × List Char)
  | [] => other []
  | c :: cs => if c = mark then read cs else other (c :: cs)

theorem onMark_self {mark : Char} {read other : List Char → Option (α × List Char)} :
    onMark mark read other (mark :: cs) = read cs := if_pos rfl

theorem onMark_other {mark : Char} {read other : List Char → Option (α × List Char)}
    (h : ∀ rest, cs = mark :: rest → False) : onMark mark read other cs = other cs := by
  cases cs with
  | nil => rfl
  | cons c cs => exact if_neg fun hc : c = mark => h cs (hc ▸ rfl)

theorem onMark_of_ne {mark : Char} {read other : List Char → Option (α × List Char)}
    (h : c ≠ mark) : onMark mark read other (c :: cs) = other (c :: cs) := if_neg h

/-- One reader after another, which depends on what the first one reads. -/
def andThen (read : List Char → Option (α × List Char))
    (next : α → List Char → Option (β × List Char)) (cs : List Char) : Option (β × List Char) :=
  (read cs).bind fun found => next found.1 found.2

theorem of_onHead {next : Char → List Char → Option (α × List Char)} {found : α × List Char}
    (h : onHead next cs = some found) : ∃ c rest, next c rest = some found := by
  cases cs with
  | nil => exact absurd h (by simp [onHead])
  | cons c cs => exact ⟨c, cs, h⟩

theorem of_onMark {mark : Char} {read other : List Char → Option (α × List Char)}
    {found : α × List Char} (h : onMark mark read other cs = some found) :
    (∃ rest, read rest = some found) ∨ other cs = some found := by
  by_cases hmark : ∃ rest, cs = mark :: rest
  · obtain ⟨rest, rfl⟩ := hmark
    rw [onMark_self] at h
    exact .inl ⟨rest, h⟩
  · rw [onMark_other (not_exists.mp hmark)] at h
    exact .inr h

theorem of_andThen {read : List Char → Option (α × List Char)}
    {next : α → List Char → Option (β × List Char)} {found : β × List Char}
    (h : andThen read next cs = some found) :
    ∃ x mid, read cs = some (x, mid) ∧ next x mid = some found := by
  obtain ⟨⟨x, mid⟩, hfirst, hnext⟩ := Option.bind_eq_some_iff.mp h
  exact ⟨x, mid, hfirst, hnext⟩

namespace Local

variable {read other : List Char → Option (α × List Char)}

theorem fail : Local fun _ => (none : Option (α × List Char)) :=
  ⟨fun h => absurd h (by simp), fun h => absurd h (by simp)⟩

theorem give (x : α) : Local fun cs => some (x, cs) := by
  refine ⟨fun h => ?_, fun h => ?_⟩
  · simp only [Option.some.injEq, Prod.mk.injEq] at h
    exact h.2 ▸ List.suffix_rfl
  · simpa using h

theorem andThen {next : α → List Char → Option (β × List Char)} (h : Local read)
    (hnext : ∀ x, Local (next x)) : Local (andThen read next) := by
  refine ⟨fun {cs y rest} hread => ?_, fun {cs t y rest} hread => ?_⟩
  · obtain ⟨⟨x, mid⟩, hfirst, hrest⟩ := Option.bind_eq_some_iff.mp hread
    exact ((hnext x).suffix hrest).trans (h.suffix hfirst)
  · obtain ⟨⟨x, mid⟩, hfirst, hrest⟩ := Option.bind_eq_some_iff.mp hread
    obtain ⟨taken, rfl⟩ := (hnext x).suffix hrest
    rw [← List.append_assoc] at hfirst hrest
    exact Option.bind_eq_some_iff.mpr ⟨_, h.alone hfirst, (hnext x).alone hrest⟩

/-- What is read depends on something that may fail. -/
theorem of {next : β → List Char → Option (α × List Char)} (found : Option β)
    (h : ∀ y, Local (next y)) : Local fun cs => found.bind fun y => next y cs := by
  cases found with
  | none => exact fail
  | some y => exact h y

theorem ite {p : Prop} [Decidable p] (h : Local read) (h' : Local other) :
    Local fun cs => if p then read cs else other cs := by
  by_cases hp : p
  · simpa only [hp, if_true] using h
  · simpa only [hp, if_false] using h'

/-- A reader behind what is dropped. -/
theorem behind {drop : List Char → List Char} (h : Local read) (hdrop : Drops drop) :
    Local fun cs => read (drop cs) := by
  refine ⟨fun {cs x rest} hread => (h.suffix hread).trans (hdrop.suffix cs),
    fun {cs t x rest} hread => ?_⟩
  have hsuffix := (List.suffix_append rest t).trans (h.suffix hread)
  rw [hdrop.append hsuffix] at hread
  exact h.alone hread

theorem onHead {next : Char → List Char → Option (α × List Char)} (h : ∀ c, Local (next c)) :
    Local (onHead next) := by
  refine ⟨fun {cs x rest} hread => ?_, fun {cs t x rest} hread => ?_⟩
  · cases cs with
    | nil => exact absurd hread (by simp [Regex.onHead])
    | cons c cs => exact ((h c).suffix hread).trans (List.suffix_cons c cs)
  · cases cs with
    | nil =>
        -- Nothing is left of the text that was to be left.
        cases t with
        | nil => exact absurd hread (by simp [Regex.onHead])
        | cons c t =>
            have hlength := ((h c).suffix hread).length_le
            simp only [List.length_append, List.length_cons] at hlength
            omega
    | cons c cs => exact (h c).alone hread

theorem onMark (mark : Char) (h : Local read) (h' : Local other) :
    Local (onMark mark read other) := by
  refine ⟨fun {cs x rest} hread => ?_, fun {cs t x rest} hread => ?_⟩
  · cases cs with
    | nil => exact h'.suffix hread
    | cons c cs =>
        rw [Regex.onMark] at hread
        split at hread
        · exact (h.suffix hread).trans (List.suffix_cons c cs)
        · exact h'.suffix hread
  · cases cs with
    | nil =>
        cases t with
        | nil => simpa using hread
        | cons c t =>
            rw [List.nil_append, Regex.onMark] at hread
            split at hread
            · have hlength := (h.suffix hread).length_le
              simp only [List.length_append, List.length_cons] at hlength
              omega
            · exact h'.alone hread
    | cons c cs =>
        rw [List.cons_append, Regex.onMark] at hread
        rw [Regex.onMark]
        split at hread
        · rename_i hc
          rw [if_pos hc]
          exact h.alone hread
        · rename_i hc
          rw [if_neg hc]
          exact h'.alone hread

end Local

/-! ### Runs of characters -/

/-- A character is dropped, taken, or left with all that stands behind it. -/
theorem takeSkipping_cons (verbose : Bool) (p : Char → Bool) (inComment : Bool) (c : Char) :
    (∃ next, ∀ cs, takeSkipping verbose p inComment (c :: cs) = takeSkipping verbose p next cs) ∨
    (∀ cs, takeSkipping verbose p inComment (c :: cs) =
      (c :: (takeSkipping verbose p false cs).1, (takeSkipping verbose p false cs).2)) ∨
    ∀ cs, takeSkipping verbose p inComment (c :: cs) = ([], c :: cs) := by
  by_cases hcomment : inComment = true
  · exact .inl ⟨_, fun cs => by rw [takeSkipping, if_pos hcomment]⟩
  · by_cases hblank : (verbose && Text.isBlank c) = true
    · exact .inl ⟨_, fun cs => by rw [takeSkipping, if_neg hcomment, if_pos hblank]⟩
    · by_cases hmark : (verbose && c = '#') = true
      · refine .inl ⟨true, fun cs => ?_⟩
        rw [takeSkipping, if_neg hcomment, if_neg hblank, if_pos hmark]
      · by_cases hp : p c = true
        · refine .inr (.inl fun cs => ?_)
          rw [takeSkipping, if_neg hcomment, if_neg hblank, if_neg hmark, if_pos hp]
        · refine .inr (.inr fun cs => ?_)
          rw [takeSkipping, if_neg hcomment, if_neg hblank, if_neg hmark, if_neg hp]

/-- What is taken and what is left are no longer than the text together, and what is left is its
end. -/
theorem takeSkipping_spec (verbose : Bool) (p : Char → Bool) (inComment : Bool) (cs : List Char) :
    (takeSkipping verbose p inComment cs).2 <:+ cs ∧
      (takeSkipping verbose p inComment cs).1.length +
        (takeSkipping verbose p inComment cs).2.length ≤ cs.length := by
  induction cs generalizing inComment with
  | nil => exact ⟨List.suffix_rfl, Nat.le_refl 0⟩
  | cons c cs ih =>
      rcases takeSkipping_cons verbose p inComment c with ⟨next, hdrop⟩ | htake | hstop
      · rw [hdrop]
        obtain ⟨hsuffix, hlength⟩ := ih next
        exact ⟨hsuffix.trans (List.suffix_cons c cs), Nat.le_succ_of_le hlength⟩
      · rw [htake]
        obtain ⟨hsuffix, hlength⟩ := ih false
        refine ⟨hsuffix.trans (List.suffix_cons c cs), ?_⟩
        simp only [List.length_cons]
        omega
      · rw [hstop]
        exact ⟨List.suffix_rfl, by simp⟩

theorem takeRun_suffix (f : Flags) (p : Char → Bool) (cs : List Char) :
    (f.takeRun p cs).2 <:+ cs :=
  (takeSkipping_spec f.verbose p false cs).1

theorem takeSkipping_append {verbose inComment : Bool} {p : Char → Bool}
    (h : t <:+ (takeSkipping verbose p inComment (cs ++ t)).2) :
    takeSkipping verbose p inComment (cs ++ t) =
      ((takeSkipping verbose p inComment cs).1, (takeSkipping verbose p inComment cs).2 ++ t) := by
  induction cs generalizing inComment with
  | nil =>
      obtain ⟨hsuffix, hlength⟩ := takeSkipping_spec verbose p inComment t
      have hleft := List.infix_antisymm hsuffix.isInfix h.isInfix
      rw [hleft] at hlength
      have hnone : (takeSkipping verbose p inComment t).1 = [] :=
        List.eq_nil_of_length_eq_zero (by omega)
      exact Prod.ext hnone hleft
  | cons c cs ih =>
      rw [List.cons_append] at h ⊢
      rcases takeSkipping_cons verbose p inComment c with ⟨next, hdrop⟩ | htake | hstop
      · rw [hdrop] at h ⊢
        rw [hdrop]
        exact ih h
      · rw [htake] at h ⊢
        rw [htake, ih h]
      · rw [hstop, hstop]
        rfl

theorem takeRun_append {p : Char → Bool} (h : t <:+ (f.takeRun p (cs ++ t)).2) :
    f.takeRun p (cs ++ t) = ((f.takeRun p cs).1, (f.takeRun p cs).2 ++ t) :=
  takeSkipping_append h

theorem local_takeRun (f : Flags) (p : Char → Bool) : Local fun cs => some (f.takeRun p cs) := by
  refine ⟨fun {cs x rest} h => ?_, fun {cs t x rest} h => ?_⟩
  · obtain rfl := congrArg Prod.snd (Option.some.inj h)
    exact takeRun_suffix f p cs
  · have hwhole := Option.some.inj h
    have hsuffix : t <:+ (f.takeRun p (cs ++ t)).2 := by
      rw [hwhole]
      exact List.suffix_append rest t
    rw [takeRun_append hsuffix, Prod.mk.injEq] at hwhole
    exact congrArg some (Prod.ext hwhole.1 (List.append_cancel_right hwhole.2))

/-- What is dropped in front of nothing else is taken in no run. -/
theorem takeRun_of_skip_eq_nil {p : Char → Bool} (h : f.skip cs = []) :
    f.takeRun p cs = ([], []) := by
  by_cases hverbose : f.verbose = true
  · rw [Flags.skip, if_pos hverbose] at h
    rw [Flags.takeRun, hverbose]
    generalize false = inComment at h ⊢
    induction cs generalizing inComment with
    | nil => rfl
    | cons c cs ih =>
        rw [skipTrivia] at h
        rw [takeSkipping]
        split at h
        · rename_i hcomment
          rw [if_pos hcomment]
          exact ih _ h
        · rename_i hcomment
          rw [if_neg hcomment]
          split at h
          · rename_i hblank
            rw [if_pos (by simpa using hblank)]
            exact ih _ h
          · rename_i hblank
            rw [if_neg (by simpa using hblank)]
            split at h
            · rename_i hmark
              rw [if_pos (by simpa using hmark)]
              exact ih _ h
            · exact absurd h (by simp)
  · rw [Flags.skip, if_neg hverbose] at h
    rw [h]
    rfl

theorem takeSkipping_plain (p : Char → Bool) (cs : List Char) :
    takeSkipping false p false cs = (cs.takeWhile p, cs.dropWhile p) := by
  induction cs with
  | nil => rfl
  | cons c cs ih =>
      rw [takeSkipping, List.takeWhile_cons, List.dropWhile_cons, ih]
      by_cases hp : p c = true
      · simp [hp]
      · simp [hp]

theorem local_takeWhile (p : Char → Bool) :
    Local fun cs => some (cs.takeWhile p, cs.dropWhile p) := by
  have hsame : (fun cs => some (cs.takeWhile p, cs.dropWhile p)) =
      fun cs => some (({} : Flags).takeRun p cs) := by
    funext cs
    rw [Flags.takeRun, takeSkipping_plain]
  rw [hsame]
  exact local_takeRun {} p

theorem local_braced (f : Flags) : Local f.braced? := by
  have hsame : f.braced? = andThen (fun cs => some (f.takeRun (· ≠ '\x7d') cs))
      fun inside => onHead fun _ rest => some (inside, rest) := by
    funext cs
    rw [Flags.braced?, andThen, Option.bind_some]
    cases f.takeRun (· ≠ '\x7d') cs with
    | mk inside rest => cases rest <;> rfl
  rw [hsame]
  exact (local_takeRun f _).andThen fun inside => .onHead fun _ => .give inside

end ArchiveScout.Regex
