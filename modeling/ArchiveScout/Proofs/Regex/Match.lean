import ArchiveScout.Regex.Match
import Mathlib.Data.Nat.Bitwise

/-!
# ArchiveScout.Proofs.Regex.Match

**Sets of places decide matches.** `ends` leads from a set of places to exactly those places at
which a match from one of them can end. Each kind of expression has a lemma of its own; the rounds
of a repetition are counted by `MatchesTimes`. Rounds that stay where they are can be left out, so a
match never needs more rounds than the text has characters, and to stop there loses nothing.

The bounds of a repetition have to be in order for this, which those that are read always are.
-/

namespace ArchiveScout.Regex

open ArchiveScout.Unicode (CharSet)

variable {w : List Char} {a b r : Node} {s : CharSet} {l : Look} {c : Char} {ps : Places}
  {f : Places → Places} {i j k n m : Nat}

/-- Whether the bounds of all repetitions are in order. -/
def Node.Orderly : Node → Prop
  | .empty | .set _ | .look _ => True
  | .cat a b | .alt a b => a.Orderly ∧ b.Orderly
  | .repeat a least most => a.Orderly ∧ ∀ m, most = some m → least ≤ m

/-! ### Matches go forward -/

theorem MatchesTimes.le_of (ha : ∀ i j, Matches w a i j → i ≤ j ∧ j ≤ w.length)
    (h : MatchesTimes w a n i j) : i ≤ j ∧ j ≤ w.length := by
  induction n generalizing i with
  | zero =>
      cases h with
      | zero hi => exact ⟨Nat.le_refl _, hi⟩
  | succ n ih =>
      cases h with
      | succ hfirst hrest =>
          exact ⟨Nat.le_trans (ha _ _ hfirst).1 (ih hrest).1, (ih hrest).2⟩

theorem Matches.le (h : Matches w r i j) : i ≤ j ∧ j ≤ w.length := by
  induction r generalizing i j with
  | empty =>
      cases h with
      | empty hi => exact ⟨Nat.le_refl _, hi⟩
  | set s =>
      cases h with
      | set hc _ => exact ⟨Nat.le_succ i, (List.getElem?_eq_some_iff.mp hc).1⟩
  | look l =>
      cases h with
      | look hi _ => exact ⟨Nat.le_refl _, hi⟩
  | cat a b iha ihb =>
      cases h with
      | cat hfirst hrest => exact ⟨Nat.le_trans (iha hfirst).1 (ihb hrest).1, (ihb hrest).2⟩
  | alt a b iha ihb =>
      cases h with
      | left h => exact iha h
      | right h => exact ihb h
  | «repeat» a least most iha =>
      cases h with
      | «repeat» htimes _ _ => exact htimes.le_of fun _ _ => iha

theorem MatchesTimes.le (h : MatchesTimes w a n i j) : i ≤ j ∧ j ≤ w.length :=
  h.le_of fun _ _ => Matches.le

/-! ### Rounds -/

theorem matchesTimes_zero : MatchesTimes w a 0 i j ↔ i = j ∧ i ≤ w.length := by
  constructor
  · intro h
    cases h with
    | zero hi => exact ⟨rfl, hi⟩
  · rintro ⟨rfl, hi⟩
    exact .zero hi

theorem matchesTimes_succ :
    MatchesTimes w a (n + 1) i j ↔ ∃ k, Matches w a i k ∧ MatchesTimes w a n k j := by
  constructor
  · intro h
    cases h with
    | succ hfirst hrest => exact ⟨_, hfirst, hrest⟩
  · rintro ⟨k, hfirst, hrest⟩
    exact .succ hfirst hrest

theorem matchesTimes_add :
    MatchesTimes w a (n + m) i j ↔ ∃ k, MatchesTimes w a n i k ∧ MatchesTimes w a m k j := by
  induction n generalizing i with
  | zero =>
      rw [Nat.zero_add]
      constructor
      · intro h
        have hle := h.le
        exact ⟨i, .zero (Nat.le_trans hle.1 hle.2), h⟩
      · rintro ⟨k, hnone, h⟩
        obtain ⟨rfl, -⟩ := matchesTimes_zero.mp hnone
        exact h
  | succ n ih =>
      rw [Nat.succ_add_eq_add_succ, Nat.add_succ, matchesTimes_succ]
      simp only [ih, matchesTimes_succ]
      constructor
      · rintro ⟨k, hfirst, k', hn, hm⟩
        exact ⟨k', ⟨k, hfirst, hn⟩, hm⟩
      · rintro ⟨k', ⟨k, hfirst, hn⟩, hm⟩
        exact ⟨k, hfirst, k', hn, hm⟩

/-- Rounds that stay where they are can be left out; every other one takes a character. -/
theorem MatchesTimes.exists_few (h : MatchesTimes w a n i j) :
    ∃ m, m ≤ n ∧ m ≤ j - i ∧ MatchesTimes w a m i j := by
  induction n generalizing i with
  | zero => exact ⟨0, Nat.le_refl 0, Nat.zero_le _, h⟩
  | succ n ih =>
      obtain ⟨k, hfirst, hrest⟩ := matchesTimes_succ.mp h
      obtain ⟨m, hmn, hmj, hm⟩ := ih hrest
      have hik := hfirst.le.1
      have hkj := hrest.le.1
      by_cases hstay : k = i
      · subst hstay
        exact ⟨m, by omega, hmj, hm⟩
      · exact ⟨m + 1, by omega, by omega, matchesTimes_succ.mpr ⟨k, hfirst, hm⟩⟩

/-! ### Sets of places -/

/-- The places of a set are places of the text. -/
def Places.Within (w : List Char) (ps : Places) : Prop := ∀ i, ps.testBit i = true → i ≤ w.length

/-- A function on sets of places follows the matches of an expression. -/
def Follows (w : List Char) (a : Node) (f : Places → Places) : Prop :=
  ∀ ps, Places.Within w ps →
    ∀ j, (f ps).testBit j = true ↔ ∃ i, ps.testBit i = true ∧ Matches w a i j

theorem Follows.within (hf : Follows w a f) (hps : Places.Within w ps) :
    Places.Within w (f ps) := by
  intro j hj
  obtain ⟨i, -, h⟩ := (hf ps hps j).mp hj
  exact h.le.2

/-- A number that is doubled and may have one added, bit by bit. -/
theorem testBit_double (x : Nat) (p : Bool) (j : Nat) :
    (2 * x + if p then 1 else 0).testBit j = match j with
      | 0 => p
      | j + 1 => x.testBit j := by
  cases j with
  | zero => cases p <;> simp [Nat.testBit_zero]
  | succ j =>
      have hhalf : (2 * x + if p then 1 else 0) / 2 = x := by split <;> omega
      rw [Nat.testBit_succ, hhalf]

theorem testBit_two_mul (x j : Nat) : (2 * x).testBit j = match j with
    | 0 => false
    | j + 1 => x.testBit j :=
  testBit_double x false j

/-- The places behind a character are even as bits: none is the first of the text. -/
theorem exists_stepOver (s : CharSet) (w : List Char) (ps : Places) :
    ∃ half, stepOver s w ps = 2 * half := by
  cases w with
  | nil => exact ⟨0, rfl⟩
  | cons c cs => exact ⟨_, rfl⟩

theorem testBit_stepOver : (stepOver s w ps).testBit j = true ↔
    ∃ i c, j = i + 1 ∧ ps.testBit i = true ∧ w[i]? = some c ∧ s.has c.toNat = true := by
  induction w generalizing ps j with
  | nil => simp [stepOver]
  | cons c cs ih =>
      obtain ⟨half, hhalf⟩ := exists_stepOver s cs (ps / 2)
      rw [stepOver, testBit_two_mul]
      match j with
      | 0 => simp
      | 1 =>
          simp only [hhalf, testBit_double]
          constructor
          · intro h
            rw [Bool.and_eq_true, decide_eq_true_eq] at h
            exact ⟨0, c, rfl, by rw [Nat.testBit_zero, h.1]; rfl, rfl, h.2⟩
          · rintro ⟨i, d, hi, hbit, hd, hhas⟩
            obtain rfl : i = 0 := by omega
            obtain rfl : c = d := by simpa using hd
            rw [Nat.testBit_zero] at hbit
            rw [hbit, hhas]
            rfl
      | j + 2 =>
          have hbit := @ih (ps / 2) (j + 1)
          rw [hhalf, testBit_two_mul] at hbit
          simp only [hhalf, testBit_double]
          rw [hbit]
          constructor
          · rintro ⟨i, d, hi, hbit, hd, hhas⟩
            exact ⟨i + 1, d, by omega, by rwa [Nat.testBit_succ], by simpa using hd, hhas⟩
          · rintro ⟨i, d, hi, hbit, hd, hhas⟩
            obtain rfl : i = j + 1 := by omega
            exact ⟨j, d, rfl, by rwa [Nat.testBit_succ] at hbit, by simpa using hd, hhas⟩

theorem testBit_holdingAt (before : Option Char) : (holdingAt l before w ps).testBit j = true ↔
    ps.testBit j = true ∧ j ≤ w.length ∧
      l.holds (if j = 0 then before else w[j - 1]?) w[j]? = true := by
  induction w generalizing before ps j with
  | nil =>
      have hdouble := testBit_double 0 (ps % 2 = 1 && l.holds before none) j
      rw [Nat.mul_zero, Nat.zero_add] at hdouble
      rw [holdingAt, hdouble]
      match j with
      | 0 => simp [Nat.testBit_zero]
      | j + 1 => simp
  | cons c cs ih =>
      rw [holdingAt, testBit_double]
      match j with
      | 0 => simp [Nat.testBit_zero]
      | j + 1 =>
          rw [ih, Nat.testBit_succ]
          cases j <;> simp

/-! ### Rounds on sets -/

theorem Follows.times (hf : Follows w a f) (hps : Places.Within w ps) :
    (times f n ps).testBit j = true ↔
      ∃ i, ps.testBit i = true ∧ MatchesTimes w a n i j := by
  induction n generalizing ps with
  | zero =>
      rw [Regex.times]
      constructor
      · exact fun hj => ⟨j, hj, .zero (hps j hj)⟩
      · rintro ⟨i, hi, h⟩
        obtain ⟨rfl, -⟩ := matchesTimes_zero.mp h
        exact hi
  | succ n ih =>
      rw [Regex.times]
      split
      · rename_i hnone
        simp [hnone]
      · rw [ih (hf.within hps)]
        simp only [hf ps hps, matchesTimes_succ]
        constructor
        · rintro ⟨k, ⟨i, hi, hfirst⟩, hrest⟩
          exact ⟨i, hi, k, hfirst, hrest⟩
        · rintro ⟨i, hi, k, hfirst, hrest⟩
          exact ⟨k, ⟨i, hi, hfirst⟩, hrest⟩

/-- Where one round reaches no new place, no number of rounds does. -/
theorem Follows.closed (hf : Follows w a f) (hps : Places.Within w ps) (h : ps ||| f ps = ps)
    (hi : ps.testBit i = true) (htimes : MatchesTimes w a n i j) : ps.testBit j = true := by
  induction n generalizing i with
  | zero =>
      obtain ⟨rfl, -⟩ := matchesTimes_zero.mp htimes
      exact hi
  | succ n ih =>
      obtain ⟨k, hfirst, hrest⟩ := matchesTimes_succ.mp htimes
      refine ih ?_ hrest
      rw [← h, Nat.testBit_or, (hf ps hps k).mpr ⟨i, hi, hfirst⟩, Bool.or_true]

theorem Follows.within_iff (hf : Follows w a f) (hps : Places.Within w ps) :
    (Regex.within f n ps).testBit j = true ↔
      ∃ m ≤ n, ∃ i, ps.testBit i = true ∧ MatchesTimes w a m i j := by
  induction n generalizing ps with
  | zero =>
      rw [Regex.within]
      constructor
      · exact fun hj => ⟨0, Nat.le_refl 0, j, hj, .zero (hps j hj)⟩
      · rintro ⟨m, hm, i, hi, h⟩
        obtain rfl := Nat.le_zero.mp hm
        obtain ⟨rfl, -⟩ := matchesTimes_zero.mp h
        exact hi
  | succ n ih =>
      rw [Regex.within]
      split
      · rename_i hclosed
        constructor
        · exact fun hj => ⟨0, Nat.zero_le _, j, hj, .zero (hps j hj)⟩
        · rintro ⟨m, -, i, hi, h⟩
          exact hf.closed hps hclosed hi h
      · have hnext : Places.Within w (ps ||| f ps) := by
          intro i hi
          rw [Nat.testBit_or, Bool.or_eq_true] at hi
          exact hi.elim (hps i) (hf.within hps i)
        rw [ih hnext]
        simp only [Nat.testBit_or, Bool.or_eq_true]
        constructor
        · rintro ⟨m, hm, i, hi | hi, h⟩
          · exact ⟨m, by omega, i, hi, h⟩
          · obtain ⟨k, hk, hfirst⟩ := (hf ps hps i).mp hi
            exact ⟨m + 1, by omega, k, hk, matchesTimes_succ.mpr ⟨i, hfirst, h⟩⟩
        · rintro ⟨m, hm, i, hi, h⟩
          cases m with
          | zero => exact ⟨0, Nat.zero_le n, i, .inl hi, h⟩
          | succ m =>
              obtain ⟨k, hfirst, hrest⟩ := matchesTimes_succ.mp h
              exact ⟨m, by omega, k, .inr ((hf ps hps k).mpr ⟨i, hi, hfirst⟩), hrest⟩

/-- Some rounds and then some more, which can be left out. -/
theorem Follows.within_times (hf : Follows w a f) (hps : Places.Within w ps) :
    (Regex.within f m (Regex.times f n ps)).testBit j = true ↔
      ∃ i, ps.testBit i = true ∧ ∃ k, n ≤ k ∧ k ≤ n + m ∧ MatchesTimes w a k i j := by
  have htimes : Places.Within w (Regex.times f n ps) := by
    intro k hk
    obtain ⟨i, -, h⟩ := (hf.times hps).mp hk
    exact h.le.2
  rw [hf.within_iff htimes]
  simp only [hf.times hps]
  constructor
  · rintro ⟨m', hm', k, ⟨i, hi, hn⟩, hm⟩
    exact ⟨i, hi, n + m', by omega, by omega, matchesTimes_add.mpr ⟨k, hn, hm⟩⟩
  · rintro ⟨i, hi, k, hn, hm, h⟩
    obtain ⟨m', rfl⟩ := Nat.exists_eq_add_of_le hn
    obtain ⟨k, hfirst, hrest⟩ := matchesTimes_add.mp h
    exact ⟨m', by omega, k, ⟨i, hi, hfirst⟩, hrest⟩

/-! ### Each kind of expression -/

theorem matches_repeat {least : Nat} {most : Option Nat} :
    Matches w (.repeat a least most) i j ↔
      ∃ n, least ≤ n ∧ (∀ m, most = some m → n ≤ m) ∧ MatchesTimes w a n i j := by
  constructor
  · intro h
    cases h with
    | «repeat» htimes hleast hmost => exact ⟨_, hleast, hmost, htimes⟩
  · rintro ⟨n, hleast, hmost, htimes⟩
    exact .repeat htimes hleast hmost

theorem follows_empty : Follows w .empty (ends w .empty) := by
  intro ps hps j
  rw [ends]
  constructor
  · exact fun hj => ⟨j, hj, .empty (hps j hj)⟩
  · rintro ⟨i, hi, hmatch⟩
    cases hmatch
    exact hi

theorem follows_set : Follows w (.set s) (ends w (.set s)) := by
  intro ps hps j
  rw [ends, testBit_stepOver]
  constructor
  · rintro ⟨i, c, rfl, hi, hc, hhas⟩
    exact ⟨i, hi, .set hc hhas⟩
  · rintro ⟨i, hi, hmatch⟩
    cases hmatch with
    | set hc hhas => exact ⟨i, _, rfl, hi, hc, hhas⟩

theorem follows_look : Follows w (.look l) (ends w (.look l)) := by
  intro ps hps j
  rw [ends, testBit_holdingAt]
  constructor
  · rintro ⟨hj, hle, hholds⟩
    exact ⟨j, hj, .look hle hholds⟩
  · rintro ⟨i, hi, hmatch⟩
    cases hmatch with
    | look hle hholds => exact ⟨hi, hle, hholds⟩

theorem Follows.cat (ha : Follows w a (ends w a)) (hb : Follows w b (ends w b)) :
    Follows w (.cat a b) (ends w (.cat a b)) := by
  intro ps hps j
  rw [ends, hb _ (ha.within hps)]
  simp only [ha ps hps]
  constructor
  · rintro ⟨k, ⟨i, hi, hfirst⟩, hrest⟩
    exact ⟨i, hi, .cat hfirst hrest⟩
  · rintro ⟨i, hi, hmatch⟩
    cases hmatch with
    | cat hfirst hrest => exact ⟨_, ⟨i, hi, hfirst⟩, hrest⟩

theorem Follows.alt (ha : Follows w a (ends w a)) (hb : Follows w b (ends w b)) :
    Follows w (.alt a b) (ends w (.alt a b)) := by
  intro ps hps j
  rw [ends, Nat.testBit_or, Bool.or_eq_true, ha ps hps, hb ps hps]
  constructor
  · rintro (⟨i, hi, hmatch⟩ | ⟨i, hi, hmatch⟩)
    · exact ⟨i, hi, .left hmatch⟩
    · exact ⟨i, hi, .right hmatch⟩
  · rintro ⟨i, hi, hmatch⟩
    cases hmatch with
    | left hmatch => exact .inl ⟨i, hi, hmatch⟩
    | right hmatch => exact .inr ⟨i, hi, hmatch⟩

/-- Behind the rounds that there must be, no more are needed than the text has characters. -/
theorem MatchesTimes.exists_within {least : Nat} (h : MatchesTimes w a n i j) (hleast : least ≤ n) :
    ∃ k, least ≤ k ∧ k ≤ least + (w.length + 1) ∧ MatchesTimes w a k i j := by
  obtain ⟨more, rfl⟩ := Nat.exists_eq_add_of_le hleast
  obtain ⟨k, hfirst, hrest⟩ := matchesTimes_add.mp h
  obtain ⟨few, -, hfew, hrest⟩ := hrest.exists_few
  have hend := h.le.2
  exact ⟨least + few, by omega, by omega, matchesTimes_add.mpr ⟨k, hfirst, hrest⟩⟩

theorem Follows.repeat_unbounded {least : Nat} (ha : Follows w a (ends w a)) :
    Follows w (.repeat a least none) (ends w (.repeat a least none)) := by
  intro ps hps j
  rw [ends, ha.within_times hps]
  refine exists_congr fun i => and_congr_right fun _ => ?_
  rw [matches_repeat]
  constructor
  · rintro ⟨n, hleast, -, htimes⟩
    exact ⟨n, hleast, by simp, htimes⟩
  · rintro ⟨n, hleast, -, htimes⟩
    exact htimes.exists_within hleast

theorem Follows.repeat_bounded {least most : Nat} (ha : Follows w a (ends w a))
    (horder : least ≤ most) :
    Follows w (.repeat a least (some most)) (ends w (.repeat a least (some most))) := by
  intro ps hps j
  rw [ends, ha.within_times hps]
  refine exists_congr fun i => and_congr_right fun _ => ?_
  rw [matches_repeat]
  simp only [Option.some.injEq, forall_eq', Nat.add_sub_cancel' horder]

/-! ### All expressions -/

/-- The places to which an expression leads are the ends of its matches. -/
theorem follows_ends (h : r.Orderly) : Follows w r (ends w r) := by
  induction r with
  | empty => exact follows_empty
  | set s => exact follows_set
  | look l => exact follows_look
  | cat a b iha ihb => exact (iha h.1).cat (ihb h.2)
  | alt a b iha ihb => exact (iha h.1).alt (ihb h.2)
  | «repeat» a least most iha =>
      cases most with
      | none => exact (iha h.1).repeat_unbounded
      | some most => exact (iha h.1).repeat_bounded (h.2 most rfl)

/-- A search says whether some part of a text matches. -/
theorem isMatch_iff (h : r.Orderly) {text : String} :
    r.isMatch text = true ↔ MatchesSomewhere r text.toList := by
  have hall : ∀ i, (allPlaces text.toList).testBit i = true ↔ i ≤ text.toList.length := by
    intro i
    have hbit := Nat.testBit_two_pow_sub_one (text.toList.length + 1) i
    rw [allPlaces, show Nat.pow 2 (text.toList.length + 1) = 2 ^ (text.toList.length + 1) from rfl,
      hbit, decide_eq_true_eq, Nat.lt_succ_iff]
  have hends := follows_ends h (allPlaces text.toList) fun i => (hall i).mp
  rw [Node.isMatch, decide_eq_true_eq, MatchesSomewhere]
  constructor
  · intro hne
    obtain ⟨j, hj⟩ := Nat.exists_testBit_of_ne_zero hne
    obtain ⟨i, -, hmatch⟩ := (hends j).mp hj
    exact ⟨i, j, hmatch⟩
  · rintro ⟨i, j, hmatch⟩ hzero
    have hle := hmatch.le
    have hj := (hends j).mpr ⟨i, (hall i).mpr (Nat.le_trans hle.1 hle.2), hmatch⟩
    simp [hzero] at hj

end ArchiveScout.Regex
