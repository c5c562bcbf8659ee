import ArchiveScout.Proofs.Regex.Token

/-!
# ArchiveScout.Proofs.Regex.Reading

**Reading a pattern in a context.** `Reads` follows the reader from token to token. What it reads
does not depend on the groups around the open one, as long as none of them closes, and not on what
stands behind a closing parenthesis. So a pattern that stands in a group is read as if it stood
alone, up to the parenthesis that closes the group.

All that is read has its bounds in order.
-/

namespace ArchiveScout.Regex

variable {f : Flags} {cs mid rest t : List Char} {c : Char} {p : Part} {g g' : Group}
  {r r' r₁ R : Reader} {token : Token} {base : List OuterGroup} {n : Nat}

/-- Reading goes on from one place, with what has been read there, to a later one. -/
inductive Reader.Reads : Reader → List Char → Reader → List Char → Prop where
  | stop {r : Reader} {cs rest : List Char} : r.flags.skip cs = rest → Reads r cs r rest
  | step {r r₁ r' : Reader} {c : Char} {cs inside mid rest : List Char} {token : Token} :
      r.flags.skip cs = c :: inside → token? r.flags c inside = some (token, mid) →
      token.step? r = some r₁ → Reads r₁ mid r' rest → Reads r cs r' rest

open Reader (Reads)

theorem part_eq_some : r.part? c cs = some (r₁, mid) ↔
    ∃ token, token? r.flags c cs = some (token, mid) ∧ token.step? r = some r₁ := by
  rw [part_eq, Reader.act, Option.bind_eq_some_iff]
  constructor
  · rintro ⟨⟨token, mid'⟩, htoken, hact⟩
    obtain ⟨r₁', hstep, heq⟩ := Option.map_eq_some_iff.mp hact
    obtain ⟨rfl, rfl⟩ := Prod.mk.inj heq
    exact ⟨token, htoken, hstep⟩
  · rintro ⟨token, htoken, hstep⟩
    exact ⟨(token, mid), htoken, by rw [hstep]; rfl⟩

/-- What is left behind a token is the end of what stands behind its first character. -/
theorem mid_suffix {inside : List Char} (hskip : f.skip cs = c :: inside)
    (htoken : token? f c inside = some (token, mid)) : mid <:+ inside ∧ c :: inside <:+ cs :=
  ⟨token_suffix htoken, hskip ▸ (drops_skip f).suffix cs⟩

namespace Reader

theorem Reads.suffix (h : Reads r cs r' rest) : rest <:+ cs := by
  induction h with
  | stop hskip => exact hskip ▸ (drops_skip _).suffix _
  | step hskip htoken _ _ ih =>
      obtain ⟨hmid, hinside⟩ := mid_suffix hskip htoken
      exact (ih.trans hmid).trans ((List.suffix_cons _ _).trans hinside)

/-- Enough fuel takes the reader to the end of the pattern. -/
theorem run_iff (hn : cs.length < n) : Reader.run n r cs = some r' ↔ Reads r cs r' [] := by
  induction n generalizing r cs with
  | zero => exact absurd hn (Nat.not_lt_zero _)
  | succ n ih =>
      have hlength : ∀ {c inside mid token}, r.flags.skip cs = c :: inside →
          token? r.flags c inside = some (token, mid) → mid.length < n := by
        intro c inside mid token hskip htoken
        obtain ⟨hmid, hinside⟩ := mid_suffix hskip htoken
        have hle := hmid.length_le
        have hlt := hinside.length_le
        rw [List.length_cons] at hlt
        omega
      rw [Reader.run]
      constructor
      · intro h
        split at h
        · rename_i hskip
          exact Option.some.inj h ▸ .stop hskip
        · rename_i c inside hskip
          obtain ⟨⟨r₁, mid⟩, hpart, hrun⟩ := Option.bind_eq_some_iff.mp h
          obtain ⟨token, htoken, hstep⟩ := part_eq_some.mp hpart
          exact .step hskip htoken hstep ((ih (hlength hskip htoken)).mp hrun)
      · intro h
        cases h with
        | stop hskip => rw [hskip]
        | step hskip htoken hstep hreads =>
            rw [hskip]
            exact Option.bind_eq_some_iff.mpr ⟨_, part_eq_some.mpr ⟨_, htoken, hstep⟩,
              (ih (hlength hskip htoken)).mpr hreads⟩

/-! ### What stands behind a closing parenthesis -/

/-- A brace is neither read in front of a closing parenthesis nor left out. -/
theorem not_reads_brace (ht : t.head? = some ')') (hrest : (rest ++ t).head? = some ')')
    (hskip : r.flags.skip cs = []) : ¬ Reads r ('\x7b' :: (cs ++ t)) r' (rest ++ t) := by
  have hbrace : r.flags.skip ('\x7b' :: (cs ++ t)) = '\x7b' :: (cs ++ t) :=
    skip_cons rfl (by decide)
  intro h
  cases h with
  | stop hstop =>
      rw [← hstop, hbrace, List.head?_cons] at hrest
      exact absurd hrest (by decide)
  | step hstep htoken _ hreads =>
      obtain ⟨rfl, rfl⟩ := List.cons.inj (hbrace.symm.trans hstep)
      -- The mark of a comment would hide the closing parenthesis, which is still to come.
      have hleft : rest ++ t <:+ r.flags.skip (cs ++ t) := by
        obtain ⟨⟨pair, mid⟩, hbounds, htoken⟩ := Option.bind_eq_some_iff.mp htoken
        have hmid := (local_repeatToken r.flags _ _).suffix htoken
        have hbehind := (hmid.trans ((drops_skip _).suffix _)).trans
          ((local_boundPair r.flags).suffix hbounds)
        exact hreads.suffix.trans hbehind
      obtain ⟨closing, behind, rfl⟩ : ∃ c cs, t = c :: cs :=
        List.exists_cons_of_ne_nil fun hnil => absurd ht (by simp [hnil])
      obtain rfl := Option.some.inj ht
      have hnone : boundPair? r.flags (r.flags.skip (cs ++ ')' :: behind)) = none := by
        rw [(skip_append_of_suffix hleft).1, hskip, List.nil_append, boundPair_closing]
      rw [token?, hnone] at htoken
      exact absurd htoken (by simp)

/-- Up to a closing parenthesis, what stands behind it does not matter. -/
theorem Reads.alone (ht : t.head? = some ')') (hrest : (rest ++ t).head? = some ')')
    (h : Reads r (cs ++ t) r' (rest ++ t)) : Reads r cs r' rest := by
  generalize hwhole : cs ++ t = whole at h
  generalize hleft : rest ++ t = left at h
  induction h generalizing cs with
  | @stop r cs' left hskip =>
      subst hwhole hleft
      have hsuffix : rest ++ t <:+ r.flags.skip (cs ++ t) := hskip.symm ▸ List.suffix_rfl
      rw [(skip_append_of_suffix hsuffix).1] at hskip
      exact .stop (List.append_cancel_right hskip)
  | @step r r₁ r' c _ inside mid _ token hskip htoken hstep hreads ih =>
      subst hwhole hleft
      have hbehind := hreads.suffix
      have hinside := hbehind.trans (token_suffix htoken)
      have hsuffix : rest ++ t <:+ r.flags.skip (cs ++ t) :=
        hskip ▸ hinside.trans (List.suffix_cons c inside)
      rw [(skip_append_of_suffix hsuffix).1] at hskip
      cases hfront : r.flags.skip cs with
      | nil =>
          rw [hfront, List.nil_append] at hskip
          have hlength := hinside.length_le
          simp only [hskip, List.length_append, List.length_cons] at hlength
          omega
      | cons d ins =>
          rw [hfront, List.cons_append] at hskip
          obtain ⟨rfl, rfl⟩ := List.cons.inj hskip
          obtain ⟨mid, rfl⟩ := (List.suffix_append rest t).trans hbehind
          rcases token_alone htoken with halone | ⟨⟨ins, rfl, hbrace⟩, part, rfl⟩
          · exact .step hfront halone hstep (ih rfl rfl)
          · obtain rfl := Option.some.inj hstep
            exact absurd hreads (not_reads_brace ht hrest hbrace)

/-! ### The groups around the open one -/

/-- The state with further groups around all that are open. -/
def within (r : Reader) (base : List OuterGroup) : Reader := { r with outer := r.outer ++ base }

/-- Only what closes depends on the groups around the open one. -/
theorem step_within (h : token = .closes → r.outer ≠ []) :
    token.step? (r.within base) = (token.step? r).map (·.within base) := by
  cases token with
  | part | opens | sets | branches => rfl
  | captures name =>
      cases name with
      | none => rfl
      | some name =>
          rw [Token.step?, Token.step?, apply_ite (Option.map _)]
          rfl
  | closes =>
      obtain ⟨o, outer, houter⟩ := List.exists_cons_of_ne_nil (h rfl)
      rw [Token.step?, Token.step?, Reader.pop?, Reader.pop?, within, houter]
      rfl
  | repeats least most greedy =>
      rw [Token.step?, Token.step?, Option.map_map, within]
      rfl

/-- A run that leaves groups comes to the closing parenthesis of the innermost of them, having read
all in front of it as if there were no groups around. -/
theorem Reads.exists_closing (h : Reads (r.within base) cs R rest)
    (hR : R.outer.length < base.length) :
    ∃ r₁ mid R₁, Reads r cs r₁ (')' :: mid) ∧ r₁.outer = [] ∧
      (r₁.within base).pop? = some R₁ ∧ Reads R₁ mid R rest := by
  generalize hq : r.within base = q at h
  induction h generalizing r with
  | stop hskip =>
      subst hq
      rw [within, List.length_append] at hR
      omega
  | @step q q₁ R c cs inside mid rest token hskip htoken hstep hreads ih =>
      subst hq
      by_cases hcloses : token = .closes ∧ r.outer = []
      · obtain ⟨rfl, houter⟩ := hcloses
        obtain ⟨rfl, rfl⟩ := token_closes htoken
        exact ⟨r, inside, q₁, .stop hskip, houter, hstep, hreads⟩
      · rw [step_within fun h houter => hcloses ⟨h, houter⟩] at hstep
        obtain ⟨r', hstep', rfl⟩ := Option.map_eq_some_iff.mp hstep
        obtain ⟨r₁, mid, R₁, hfront, houter, hpop, hbehind⟩ := ih hR rfl
        exact ⟨r₁, mid, R₁, .step hskip htoken hstep' hfront, houter, hpop, hbehind⟩

/-- Where a closing parenthesis closes nothing, reading does not come to the end. -/
theorem Reads.not_to_end (h : Reads r cs r₁ (')' :: mid)) (houter : r₁.outer = []) :
    ¬ Reads r cs R [] := by
  generalize hleft : ')' :: mid = left at h
  induction h with
  | stop hskip =>
      subst hleft
      intro hend
      cases hend with
      | stop hstop => exact absurd (hstop.symm.trans hskip) (by simp)
      | step hskip' htoken hstep _ =>
          obtain ⟨rfl, rfl⟩ := List.cons.inj (hskip.symm.trans hskip')
          obtain ⟨rfl, rfl⟩ := Prod.mk.inj (Option.some.inj htoken)
          rw [Token.step?, Reader.pop?, houter] at hstep
          exact absurd hstep (by simp)
  | step hskip htoken hstep _ ih =>
      intro hend
      cases hend with
      | stop hstop => exact absurd (hstop.symm.trans hskip) (by simp)
      | step hskip' htoken' hstep' hreads =>
          obtain ⟨rfl, rfl⟩ := List.cons.inj (hskip.symm.trans hskip')
          obtain ⟨rfl, rfl⟩ := Prod.mk.inj (Option.some.inj (htoken.symm.trans htoken'))
          obtain rfl := Option.some.inj (hstep.symm.trans hstep')
          exact ih houter hleft hreads

end Reader

/-! ### Bounds in order -/

/-- Whether all bounds in the parts of a group are in order. -/
def Group.Orderly (g : Group) : Prop :=
  (∀ p ∈ g.branches, p.node.Orderly) ∧ ∀ p ∈ g.parts, p.node.Orderly

/-- Whether all bounds that a reader has read are in order. -/
def Reader.Orderly (r : Reader) : Prop := r.group.Orderly ∧ ∀ o ∈ r.outer, o.group.Orderly

theorem foldl_orderly {combine : Node → Node → Node} {parts : List Part} {node : Node}
    (hcombine : ∀ a b : Node, a.Orderly → b.Orderly → (combine a b).Orderly)
    (hparts : ∀ p ∈ parts, p.node.Orderly) (hnode : node.Orderly) :
    (parts.foldl (fun rest part => combine part.node rest) node).Orderly := by
  induction parts generalizing node with
  | nil => exact hnode
  | cons p parts ih =>
      obtain ⟨hp, hparts⟩ := List.forall_mem_cons.mp hparts
      exact ih hparts (hcombine p.node node hp hnode)

theorem sequenceOf_orderly {parts : List Part} (h : ∀ p ∈ parts, p.node.Orderly) :
    (sequenceOf parts).node.Orderly := by
  match parts with
  | [] => trivial
  | [p] => exact h p (List.mem_singleton_self p)
  | last :: p :: earlier =>
      obtain ⟨hlast, hearlier⟩ := List.forall_mem_cons.mp h
      exact foldl_orderly (fun a b ha hb => ⟨ha, hb⟩) hearlier hlast

theorem Node.Orderly.repeated {a : Node} {least : Nat} {most : Option Nat} (h : a.Orderly)
    (hbounds : ∀ m, most = some m → least ≤ m) : (a.repeated least most).Orderly := by
  rw [Node.repeated]
  split
  · refine ⟨h, fun m hm => ?_⟩
    obtain rfl := Option.some.inj hm
    cases most with
    | none => exact Nat.min_le_right least 1
    | some m =>
        have hle : least ≤ m := hbounds m rfl
        exact Nat.le_min.mpr ⟨Nat.le_trans (Nat.min_le_left least 1) hle, Nat.min_le_right least 1⟩
  · exact ⟨h, hbounds⟩

namespace Group

theorem Orderly.empty : ({} : Group).Orderly := ⟨by simp, by simp⟩

theorem Orderly.close (h : g.Orderly) : g.close.node.Orderly := by
  rw [Group.close]
  split
  · exact sequenceOf_orderly h.2
  · exact foldl_orderly (fun a b ha hb => ⟨ha, hb⟩) h.1 (sequenceOf_orderly h.2)

theorem Orderly.add (h : g.Orderly) (hp : p.node.Orderly) : (g.add p).Orderly :=
  ⟨h.1, List.forall_mem_cons.mpr ⟨hp, h.2⟩⟩

theorem Orderly.branch (h : g.Orderly) : g.branch.Orderly :=
  ⟨List.forall_mem_cons.mpr ⟨sequenceOf_orderly h.2, h.1⟩, by simp [Group.branch]⟩

theorem Orderly.repeat {least : Nat} {most : Option Nat} {greedy : Bool} (h : g.Orderly)
    (hbounds : ∀ m, most = some m → least ≤ m) (hrepeat : g.repeat? least most greedy = some g') :
    g'.Orderly := by
  rw [Group.repeat?] at hrepeat
  split at hrepeat
  · rename_i part parts hparts
    split at hrepeat
    · obtain rfl := Option.some.inj hrepeat
      obtain ⟨hpart, hparts⟩ := List.forall_mem_cons.mp (hparts ▸ h.2)
      exact ⟨h.1, List.forall_mem_cons.mpr ⟨hpart.repeated hbounds, hparts⟩⟩
    · exact absurd hrepeat (by simp)
  · exact absurd hrepeat (by simp)

end Group

namespace Reader

theorem Orderly.start : ({} : Reader).Orderly := ⟨.empty, by simp⟩

theorem Orderly.step (h : r.Orderly) (htoken : token.Orderly) (hstep : token.step? r = some r₁) :
    r₁.Orderly := by
  obtain ⟨hgroup, houter⟩ := h
  cases token with
  | part p =>
      obtain rfl := Option.some.inj hstep
      exact ⟨hgroup.add htoken, houter⟩
  | opens flags =>
      obtain rfl := Option.some.inj hstep
      exact ⟨.empty, List.forall_mem_cons.mpr ⟨hgroup, houter⟩⟩
  | captures name =>
      have hpush : r.pushCapture.Orderly := ⟨.empty, List.forall_mem_cons.mpr ⟨hgroup, houter⟩⟩
      cases name with
      | none =>
          obtain rfl := Option.some.inj hstep
          exact hpush
      | some name =>
          rw [Token.step?] at hstep
          split at hstep
          · exact absurd hstep (by simp)
          · obtain rfl := Option.some.inj hstep
            exact hpush
  | sets flags =>
      obtain rfl := Option.some.inj hstep
      exact ⟨hgroup.add trivial, houter⟩
  | closes =>
      rw [Token.step?, Reader.pop?] at hstep
      split at hstep
      · exact absurd hstep (by simp)
      · rename_i group flags number outer heq
        obtain rfl := Option.some.inj hstep
        obtain ⟨hopen, houter⟩ := List.forall_mem_cons.mp (heq ▸ houter)
        exact ⟨hopen.add hgroup.close, houter⟩
  | branches =>
      obtain rfl := Option.some.inj hstep
      exact ⟨hgroup.branch, houter⟩
  | repeats least most greedy =>
      obtain ⟨group, hrepeat, rfl⟩ := Option.map_eq_some_iff.mp hstep
      exact ⟨hgroup.repeat htoken hrepeat, houter⟩

theorem Orderly.reads (h : r.Orderly) (hreads : Reads r cs r' rest) : r'.Orderly := by
  induction hreads with
  | stop _ => exact h
  | step _ htoken hstep _ ih => exact ih (h.step (token_orderly htoken) hstep)

end Reader

/-! ### Whole patterns -/

/-- Reads a pattern, however large its automata are. -/
def Part.read? (pattern : String) : Option Part :=
  (Reader.run (pattern.toList.length + 1) {} pattern.toList).bind fun r =>
    if r.outer = [] ∧ r.group.close.depth ≤ depthLimit then some r.group.close else none

theorem parse_eq (pattern : String) : Node.parse? pattern =
    (Part.read? pattern).bind fun part => if part.shape.fits then some part.node else none := by
  rw [Node.parse?, Part.read?]
  cases Reader.run (pattern.toList.length + 1) {} pattern.toList with
  | none => rfl
  | some r =>
      simp only [Option.bind_some, bind, List.isEmpty_iff, pure]
      by_cases hread : r.outer = [] ∧ r.group.close.depth ≤ depthLimit
      · rw [if_pos hread, Option.bind_some]
        simp [hread]
      · rw [if_neg hread, Option.bind_none, if_neg fun h => hread ⟨h.1, h.2.1⟩]

theorem read_eq_some {pattern : String} : Part.read? pattern = some p ↔
    ∃ r, Reads {} pattern.toList r [] ∧ r.outer = [] ∧ r.group.close.depth ≤ depthLimit ∧
      r.group.close = p := by
  rw [Part.read?, Option.bind_eq_some_iff]
  refine exists_congr fun r => and_congr (Reader.run_iff (Nat.lt_succ_self _)) ?_
  rw [Option.ite_none_right_eq_some, Option.some.injEq, and_assoc]

end ArchiveScout.Regex
