import ArchiveScout.Proofs.Regex.Reading
import ArchiveScout.Query.ClassPattern

/-!
# ArchiveScout.Proofs.Query.ClassPattern

**A pattern for class names matches whole names.** The pattern of the user stands in a group between
two anchors, and is read there as it is read by itself, up to the parenthesis that closes the group.
Where this is the one behind the pattern, the anchors hold for all of it.

A pattern can have a closing parenthesis of its own that closes nothing. It is no pattern by itself
then, but what stands behind the parenthesis may open another group, and the whole is accepted. Its
anchors hold for parts of it only, and a name can match in between.
-/

namespace ArchiveScout.Query.ClassPattern

open ArchiveScout.Regex

variable {text : String} {pattern : Pattern} {c : ClassPattern} {a : Node} {w cs mid : List Char}
  {i j : Nat} {r R : Reader} {part : Part}

/-- Whether a pattern, read by itself, has a closing parenthesis that closes nothing. -/
def ClosesNothing (text : String) : Prop :=
  ∃ r behind, Reader.Reads {} text.toList r (')' :: behind) ∧ r.outer = []

theorem read_of_closesNothing (h : ClosesNothing text) : Part.read? text = none := by
  obtain ⟨r, behind, hreads, houter⟩ := h
  refine Option.eq_none_iff_forall_ne_some.mpr fun part hread => ?_
  obtain ⟨r', hend, -⟩ := read_eq_some.mp hread
  exact hreads.not_to_end houter hend

/-! ### Anchors -/

theorem matches_textStart : Matches w (.look .textStart) i j ↔ i = 0 ∧ j = 0 := by
  constructor
  · intro h
    cases h with
    | look hi hholds =>
        rcases Nat.eq_zero_or_pos i with rfl | hpos
        · exact ⟨rfl, rfl⟩
        · have hbefore : w[i - 1]? = none := by
            simpa [Look.holds, neighbours, Nat.pos_iff_ne_zero.mp hpos] using hholds
          have hlength := List.getElem?_eq_none_iff.mp hbefore
          omega
  · rintro ⟨rfl, rfl⟩
    exact .look (Nat.zero_le _) rfl

theorem matches_textEnd : Matches w (.look .textEnd) i j ↔ i = w.length ∧ j = w.length := by
  constructor
  · intro h
    cases h with
    | look hi hholds =>
        have hlength := List.getElem?_eq_none_iff.mp (Option.isNone_iff_eq_none.mp hholds)
        have hend : i = w.length := Nat.le_antisymm hi hlength
        exact ⟨hend, hend⟩
  · rintro ⟨rfl, rfl⟩
    exact .look (Nat.le_refl _) (by simp [Look.holds, neighbours])

/-- What matches between anchors matches the whole text. -/
theorem matchesSomewhere_between :
    MatchesSomewhere (.cat (.look .textStart) (.cat a (.look .textEnd))) w ↔ MatchesWhole a w := by
  constructor
  · rintro ⟨i, j, h⟩
    cases h with
    | cat hstart h =>
        cases h with
        | cat ha hend =>
            obtain ⟨rfl, rfl⟩ := matches_textStart.mp hstart
            obtain ⟨rfl, rfl⟩ := matches_textEnd.mp hend
            exact ha
  · intro h
    exact ⟨0, w.length, .cat (matches_textStart.mpr ⟨rfl, rfl⟩)
      (.cat h (matches_textEnd.mpr ⟨rfl, rfl⟩))⟩

/-! ### The group between the anchors -/

/-- What stands around the pattern of the user: the first anchor. -/
def around : OuterGroup := ⟨({} : Group).add (.ofLook .textStart), {}, none⟩

theorem anchored_toList : (anchored text).toList =
    '^' :: '(' :: '?' :: ':' :: (text.toList ++ [')', '$']) := by
  rw [anchored, String.toList_append, String.toList_append]
  rfl

/-- Behind the first anchor and the parenthesis, the pattern is read within a group. -/
theorem reads_anchored (h : Reader.Reads {} (anchored text).toList R []) :
    Reader.Reads (({} : Reader).within [around]) (text.toList ++ [')', '$']) R [] := by
  rw [anchored_toList] at h
  cases h with
  | stop hskip => exact absurd hskip (by simp [Flags.skip])
  | step hskip htoken hstep h =>
      obtain ⟨rfl, rfl⟩ := List.cons.inj hskip
      obtain ⟨rfl, rfl⟩ := Prod.mk.inj (Option.some.inj htoken)
      obtain rfl := Option.some.inj hstep
      cases h with
      | stop hskip => exact absurd hskip (by simp [Flags.skip, Reader.add])
      | step hskip htoken hstep h =>
          obtain ⟨rfl, rfl⟩ := List.cons.inj hskip
          obtain ⟨rfl, rfl⟩ := Prod.mk.inj (Option.some.inj htoken)
          obtain rfl := Option.some.inj hstep
          exact h

/-- A part of the text that begins with a closing parenthesis ends in the last anchor. -/
theorem exists_front (h : ')' :: mid <:+ cs ++ [')', '$']) :
    ∃ front, ')' :: mid = front ++ [')', '$'] := by
  rcases List.suffix_or_suffix_of_suffix h (List.suffix_append cs [')', '$']) with hshort | hlong
  · rcases List.suffix_cons_iff.mp hshort with hwhole | hbehind
    · exact ⟨[], hwhole⟩
    · rcases List.suffix_cons_iff.mp hbehind with hend | hnone
      · exact absurd (List.cons.inj hend).1 (by decide)
      · exact absurd (List.suffix_nil.mp hnone) (by simp)
  · obtain ⟨front, hfront⟩ := hlong
    exact ⟨front, hfront.symm⟩

/-- The group around a pattern closes behind the pattern, or within it. -/
theorem closes_anchored (h : Reader.Reads {} (anchored text).toList R []) (hR : R.outer = []) :
    ClosesNothing text ∨ ∃ r R₁, Reader.Reads {} text.toList r [] ∧ r.outer = [] ∧
      (r.within [around]).pop? = some R₁ ∧ Reader.Reads R₁ ['$'] R [] := by
  have hbelow : R.outer.length < [around].length := by simp [hR]
  obtain ⟨r, mid, R₁, hfront, houter, hpop, hbehind⟩ := (reads_anchored h).exists_closing hbelow
  obtain ⟨front, hmid⟩ := exists_front hfront.suffix
  have halone : Reader.Reads {} text.toList r front := by
    refine Reader.Reads.alone (t := [')', '$']) rfl (by rw [← hmid, List.head?_cons]) ?_
    rwa [← hmid]
  cases front with
  | nil =>
      obtain rfl : mid = ['$'] := (List.cons.inj hmid).2
      exact .inr ⟨r, R₁, halone, houter, hpop, hbehind⟩
  | cons d behind =>
      obtain rfl : d = ')' := (List.cons.inj hmid).1.symm
      exact .inl ⟨r, behind, halone, houter⟩

/-- Behind the group, only the last anchor is read. -/
theorem group_anchored {R₁ : Reader} (houter : r.outer = [])
    (hpop : (r.within [around]).pop? = some R₁) (h : Reader.Reads R₁ ['$'] R []) :
    R.group.close.node =
        .cat (.look .textStart) (.cat r.group.close.node (.look .textEnd)) ∧
      r.group.close.depth ≤ R.group.close.depth := by
  rw [Reader.pop?, Reader.within, houter] at hpop
  obtain rfl := Option.some.inj hpop
  cases h with
  | stop hskip => exact absurd hskip (by simp [Flags.skip])
  | step hskip htoken hstep h =>
      obtain ⟨rfl, rfl⟩ := List.cons.inj hskip
      obtain ⟨rfl, rfl⟩ := Prod.mk.inj (Option.some.inj htoken)
      obtain rfl := Option.some.inj hstep
      cases h with
      | stop =>
          refine ⟨rfl, ?_⟩
          -- The group is one level, and the sequence with the anchors is another.
          have hdepth : r.group.close.depth ≤ max (max 0 (r.group.close.depth + 1)) 0 + 1 := by
            omega
          exact hdepth
      | step hskip => exact absurd hskip (by simp [Flags.skip, Reader.add])

/-- An accepted pattern has been read between its anchors. -/
theorem compile_eq_ok (h : compile text = .ok c) : ∃ node, Node.parse? (anchored text) = some node ∧
    c = .whole text { text := anchored text, node } := by
  rw [compile, Pattern.compile?] at h
  cases hparse : Node.parse? (anchored text) with
  | none =>
      rw [hparse] at h
      exact absurd h (by simp)
  | some node =>
      rw [hparse] at h
      exact ⟨node, rfl, (Except.ok.inj h).symm⟩

/-- The constraint of an accepted pattern that is a pattern by itself holds for exactly the names
that the pattern matches as a whole. Only a pattern with a closing parenthesis that closes nothing
can be accepted without being one, and its constraint holds for each name of which the text between
the anchors, taken together with them, matches some part. -/
theorem accepted_pattern_matches_whole_names (h : compile text = .ok c) :
    (¬ ClosesNothing text → ∃ part, Part.read? text = some part ∧
      ∀ name, c.isMatch name = true ↔ MatchesWhole part.node name.toList) ∧
    (ClosesNothing text → Part.read? text = none ∧
      ∃ node, Node.parse? (anchored text) = some node ∧
        ∀ name, c.isMatch name = true ↔ MatchesSomewhere node name.toList) := by
  obtain ⟨node, hparse, rfl⟩ := compile_eq_ok h
  have hread := hparse
  rw [parse_eq, Option.bind_eq_some_iff] at hread
  obtain ⟨whole, hwhole, hfits⟩ := hread
  rw [Option.ite_none_right_eq_some, Option.some.injEq] at hfits
  obtain ⟨-, rfl⟩ := hfits
  obtain ⟨R, hreads, hR, hdepth, rfl⟩ := read_eq_some.mp hwhole
  have hmatch : ∀ name : String, R.group.close.node.isMatch name = true ↔
      MatchesSomewhere R.group.close.node name.toList :=
    fun name => isMatch_iff (Reader.Orderly.start.reads hreads).1.close
  refine ⟨fun hnot => ?_, fun hcloses => ⟨read_of_closesNothing hcloses, _, hparse, hmatch⟩⟩
  obtain ⟨r, R₁, halone, houter, hpop, hbehind⟩ := (closes_anchored hreads hR).resolve_left hnot
  obtain ⟨hnode, hle⟩ := group_anchored houter hpop hbehind
  have hpart := read_eq_some.mpr ⟨r, halone, houter, Nat.le_trans hle hdepth, rfl⟩
  refine ⟨r.group.close, hpart, fun name => (hmatch name).trans ?_⟩
  rw [hnode]
  exact matchesSomewhere_between

theorem alternatives_match_whole_names : ∃ c, compile "a|bc" = .ok c ∧ ¬ ClosesNothing "a|bc" ∧
    ∃ part, Part.read? "a|bc" = some part ∧ MatchesWhole part.node "bc".toList ∧
      ¬ MatchesWhole part.node "abc".toList := by
  have hmatches : (match compile "a|bc" with
      | .ok c => c.isMatch "bc" && !c.isMatch "abc"
      | .error _ => false) = true := by decide +kernel
  have hread : (Part.read? "a|bc").isSome = true := by decide +kernel
  have hnot : ¬ ClosesNothing "a|bc" := fun hcloses => by
    rw [read_of_closesNothing hcloses] at hread
    exact absurd hread (by decide)
  cases hcompile : compile "a|bc" with
  | error e =>
      rw [hcompile] at hmatches
      exact absurd hmatches Bool.false_ne_true
  | ok c =>
      rw [hcompile] at hmatches
      obtain ⟨hbc, habc⟩ := Bool.and_eq_true_iff.mp hmatches
      obtain ⟨part, hpart, hnames⟩ := (accepted_pattern_matches_whole_names hcompile).1 hnot
      refine ⟨c, rfl, hnot, part, hpart, (hnames "bc").mp hbc, fun hwhole => ?_⟩
      rw [(hnames "abc").mpr hwhole] at habc
      exact absurd habc (by decide)

/-- The pattern stands for names that begin with one letter or end with another. -/
theorem unbalanced_pattern_is_accepted :
    Node.parse? "a)|(?:b" = none ∧
      ∃ c, compile "a)|(?:b" = .ok c ∧ c.isMatch "ax" = true ∧ c.isMatch "xb" = true := by
  have hread : (Node.parse? "a)|(?:b").isNone = true := by decide +kernel
  have hmatches : (match compile "a)|(?:b" with
      | .ok c => c.isMatch "ax" && c.isMatch "xb"
      | .error _ => false) = true := by decide +kernel
  refine ⟨Option.isNone_iff_eq_none.mp hread, ?_⟩
  cases hcompile : compile "a)|(?:b" with
  | error e =>
      rw [hcompile] at hmatches
      exact absurd hmatches Bool.false_ne_true
  | ok c =>
      rw [hcompile] at hmatches
      exact ⟨c, rfl, Bool.and_eq_true_iff.mp hmatches⟩

end ArchiveScout.Query.ClassPattern
