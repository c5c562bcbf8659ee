import ArchiveScout.File.Tree
import ArchiveScout.Proofs.Text.Split
import Mathlib.Data.List.Basic

/-!
# ArchiveScout.Proofs.File.Path

**The steps of a path**, its pieces that are names or two points, and what joining paths
and taking parents does to them. A path `Leads` from another one through some steps when it
starts at the same place and takes these steps behind those of the other one; this is all
that operations on trees ask of a path.
-/

namespace ArchiveScout.File

open ArchiveScout.Text
open ArchiveScout.File.Tree (steps)

namespace Path

variable {base path rel piece first last : String} {init rest : List String}

/-! ### Pieces -/

theorem pieces_ne_nil (path : String) : pieces path ≠ [] := by
  simpa [pieces] using splitOn_ne_nil '/' path.toList

/-- A path is what its pieces make. -/
theorem pieces_injective : Function.Injective pieces := by
  intro path path' h
  have hsplit : splitOn '/' path.toList = splitOn '/' path'.toList :=
    List.map_injective_iff.mpr (fun _ _ => String.ofList_injective) h
  have hjoin := congrArg (joinWith '/') hsplit
  rw [joinWith_splitOn, joinWith_splitOn] at hjoin
  exact String.toList_injective hjoin

theorem exists_last_piece (path : String) : ∃ init last, pieces path = init ++ [last] := by
  rcases List.eq_nil_or_concat (pieces path) with h | ⟨init, last, h⟩
  · exact absurd h (pieces_ne_nil path)
  · exact ⟨init, last, by rw [h, List.concat_eq_append]⟩

theorem slash_notMem_of_mem_pieces (h : piece ∈ pieces path) : '/' ∉ piece.toList := by
  obtain ⟨cs, hcs, rfl⟩ := List.mem_map.mp h
  simpa using notMem_of_mem_splitOn hcs

theorem pieces_append_slash (a b : String) : pieces (a ++ "/" ++ b) = pieces a ++ pieces b := by
  have hlist : (a ++ "/" ++ b).toList = a.toList ++ '/' :: b.toList := by simp
  rw [pieces, hlist, splitOn_append_sep, List.map_append]
  rfl

/-- A text without slashes lengthens the last piece. -/
theorem pieces_append_of_notMem {b : String} (hb : '/' ∉ b.toList)
    (h : pieces path = init ++ [last]) : pieces (path ++ b) = init ++ [last ++ b] := by
  obtain ⟨front, back, hsplit, rfl, hback⟩ := List.map_eq_append_iff.mp h
  obtain ⟨cs, rfl, rfl⟩ := List.map_eq_singleton_iff.mp hback
  rw [pieces, String.toList_append, splitOn_append_of_notMem hb hsplit]
  simp [String.ofList_append]

theorem pieces_intercalate (hne : init ≠ []) (h : ∀ piece ∈ init, '/' ∉ piece.toList) :
    pieces ("/".intercalate init) = init := by
  have hlist : ("/".intercalate init).toList = ['/'].intercalate (init.map String.toList) := by
    simp
  have hsplit : splitOn '/' (['/'].intercalate (init.map String.toList)) =
      init.map String.toList := by
    refine splitOn_intercalate (by simpa using hne) fun piece hpiece => ?_
    obtain ⟨text, htext, rfl⟩ := List.mem_map.mp hpiece
    exact h text htext
  rw [pieces, hlist, hsplit, List.map_map]
  simp [Function.comp_def]

/-- A path starts at the root when an empty piece stands in front of another one. -/
theorem isAbsolute_iff : isAbsolute path = true ↔ ∃ rest, rest ≠ [] ∧ pieces path = "" :: rest := by
  have hpieces : pieces path = (splitOn '/' path.toList).map String.ofList := rfl
  rw [isAbsolute, decide_eq_true_iff]
  cases hcs : path.toList with
  | nil => simp [hpieces, hcs, splitOn]
  | cons c cs =>
      by_cases hc : c = '/'
      · subst hc
        simp [hpieces, hcs, splitOn, splitOn_ne_nil]
      · cases hs : splitOn '/' cs with
        | nil => exact absurd hs (splitOn_ne_nil '/' cs)
        | cons piece pieces => simp [hpieces, hcs, splitOn_cons_of_ne hc hs, hc]

theorem isAbsolute_iff_head? :
    isAbsolute path = true ↔ (pieces path).head? = some "" ∧ pieces path ≠ [""] := by
  rw [isAbsolute_iff]
  constructor
  · rintro ⟨rest, hne, hpieces⟩
    simp [hpieces, hne]
  · rintro ⟨hhead, hone⟩
    obtain ⟨rest, hpieces⟩ := List.head?_eq_some_iff.mp hhead
    exact ⟨rest, fun hnil => hone (by rw [hpieces, hnil]), hpieces⟩

theorem isAbsolute_append (h : path ≠ "") (b : String) :
    isAbsolute (path ++ b) = isAbsolute path := by
  have hne : path.toList ≠ [] := by simpa using h
  rw [isAbsolute, isAbsolute, String.toList_append, List.head?_append_of_ne_nil _ hne]

/-! ### Steps -/

/-- Whether a piece is a step. -/
def isStep (piece : String) : Bool := piece != "" && piece != "."

theorem steps_eq (path : String) : steps path = (pieces path).filter isStep := rfl

/-- The last piece of a path is a step. -/
structure EndsIn (path last : String) : Prop where
  pieces : ∃ front, Path.pieces path = front ++ [last]
  step : isStep last = true

theorem EndsIn.steps (h : EndsIn path last) : steps path = (steps path).dropLast ++ [last] := by
  obtain ⟨front, hpieces⟩ := h.pieces
  have hsteps : Tree.steps path = front.filter isStep ++ [last] := by
    rw [steps_eq, hpieces, List.filter_append, List.filter_singleton, h.step]
    rfl
  rw [hsteps, List.dropLast_concat]

/-- The component that a step stands for. -/
def stepComponent (step : String) : Component := if step = ".." then .parent else .name step

theorem stepComponent_injective : Function.Injective stepComponent := by
  intro a b h
  by_cases ha : a = ".." <;> by_cases hb : b = ".." <;> simp_all [stepComponent]

theorem filterMap_componentOf? (pieces : List String) :
    pieces.filterMap componentOf? = (pieces.filter isStep).map stepComponent := by
  induction pieces with
  | nil => rfl
  | cons piece pieces ih =>
      by_cases h : piece = "" ∨ piece = "."
      · have hstep : isStep piece = false := by
          rcases h with rfl | rfl <;> rfl
        rw [List.filterMap_cons_none (by simp [componentOf?, h]), ih,
          List.filter_cons_of_neg (by simp [hstep])]
      · have hstep : isStep piece = true := by
          simpa [isStep, not_or] using h
        have hcomp : componentOf? piece = some (stepComponent piece) := by
          simp only [componentOf?, if_neg h, stepComponent]
          split <;> rfl
        rw [List.filterMap_cons_some hcomp, ih, List.filter_cons_of_pos hstep]
        rfl

/-- The component in front of the steps: the root, or a single point. -/
def lead (path : String) : List Component :=
  if isAbsolute path then [.root]
  else if (pieces path).head? = some "." then [.current] else []

theorem components_eq (path : String) :
    components path = lead path ++ (steps path).map stepComponent := by
  rw [components, filterMap_componentOf?]
  rfl

/-! ### Joining -/

/-- What stands in front of the pieces of a path that was put behind another one. -/
theorem pieces_join (h : isAbsolute rel = false) (hbase : base ≠ "") :
    ∃ front, pieces (join base rel) = front ++ pieces rel ∧
      front.filter isStep = steps base ∧ front.head? = (pieces base).head? := by
  have hempty : base.isEmpty = false := by simpa using hbase
  rw [join, h, hempty]
  by_cases hslash : base.toList.getLast? = some '/'
  · -- The slash at the end is the one between the two.
    obtain ⟨cs, hcs⟩ : ∃ cs, base.toList = cs ++ ['/'] := List.getLast?_eq_some_iff.mp hslash
    have hpieces : pieces base = pieces (String.ofList cs) ++ [""] := by
      rw [pieces, hcs, splitOn_append_sep]
      simp [pieces, splitOn]
    have hwhole : base ++ rel = String.ofList cs ++ "/" ++ rel := by
      apply String.toList_injective
      simp [hcs]
    refine ⟨pieces (String.ofList cs), ?_, ?_, ?_⟩
    · rw [if_neg (by simp), if_pos hslash, hwhole, pieces_append_slash]
    · simp [steps_eq, hpieces, isStep]
    · rw [hpieces, List.head?_append_of_ne_nil _ (pieces_ne_nil _)]
  · refine ⟨pieces base, ?_, rfl, rfl⟩
    rw [if_neg (by simp), if_neg hslash, pieces_append_slash]

theorem join_empty (rel : String) : join "" rel = rel := by
  simp [join]

theorem steps_join (h : isAbsolute rel = false) :
    steps (join base rel) = steps base ++ steps rel := by
  by_cases hbase : base = ""
  · subst hbase
    rw [join_empty]
    rfl
  · obtain ⟨front, hpieces, hfront, -⟩ := pieces_join h hbase
    rw [steps_eq, hpieces, List.filter_append, hfront]
    rfl

theorem isAbsolute_join (h : isAbsolute rel = false) :
    isAbsolute (join base rel) = isAbsolute base := by
  by_cases hbase : base = ""
  · subst hbase
    rw [join_empty, h]
    rfl
  · have hempty : base.isEmpty = false := by simpa using hbase
    rw [join, h, hempty]
    by_cases hslash : base.toList.getLast? = some '/'
    · rw [if_neg (by simp), if_pos hslash, isAbsolute_append hbase]
    · rw [if_neg (by simp), if_neg hslash, String.append_assoc, isAbsolute_append hbase]

theorem join_ne_empty (h : rel ≠ "") : join base rel ≠ "" := by
  rw [join]
  split
  · exact h
  · split <;> simp_all

theorem lead_join (h : isAbsolute rel = false)
    (hlead : base ≠ "" ∨ (pieces rel).head? ≠ some ".") : lead (join base rel) = lead base := by
  by_cases hbase : base = ""
  · subst hbase
    rw [join_empty, lead, h, if_neg (by simp), if_neg (hlead.resolve_left (by simp))]
    rfl
  · obtain ⟨front, hpieces, -, hhead⟩ := pieces_join h hbase
    have hfront : front ≠ [] := by
      rintro rfl
      exact pieces_ne_nil base (List.head?_eq_none_iff.mp hhead.symm)
    rw [lead, lead, isAbsolute_join h, hpieces, List.head?_append_of_ne_nil _ hfront, hhead]

/-- The components of a path that was put behind another one. A point at its start counts
only where nothing stands in front of it. -/
theorem components_join (h : isAbsolute rel = false)
    (hlead : base ≠ "" ∨ (pieces rel).head? ≠ some ".") :
    components (join base rel) = components base ++ (steps rel).map stepComponent := by
  rw [components_eq, components_eq, lead_join h hlead, steps_join h, List.map_append,
    List.append_assoc]

/-! ### Parents -/

/-- `dropNull` leaves a suffix with the same steps, which is a single piece or has a step in
front. -/
theorem dropNull_spec (pieces : List String) (h : pieces ≠ []) :
    ∃ front back, dropNull pieces = front :: back ∧ (back = [] ∨ isStep front = true) ∧
      dropNull pieces <:+ pieces ∧ (dropNull pieces).filter isStep = pieces.filter isStep := by
  induction pieces with
  | nil => exact absurd rfl h
  | cons piece pieces ih =>
      cases pieces with
      | nil => exact ⟨piece, [], rfl, .inl rfl, List.suffix_rfl, rfl⟩
      | cons next rest =>
          by_cases hnull : piece = "" ∨ piece = "."
          · obtain ⟨front, back, heq, hstep, hsuffix, hfilter⟩ := ih (by simp)
            have hdrop : dropNull (piece :: next :: rest) = dropNull (next :: rest) := by
              rw [dropNull, if_pos hnull]
              exact fun hnil => absurd hnil (by simp)
            have hno : isStep piece = false := by
              rcases hnull with rfl | rfl <;> rfl
            refine ⟨front, back, hdrop.trans heq, hstep, ?_, ?_⟩
            · rw [hdrop]
              exact hsuffix.trans (List.suffix_cons piece _)
            · rw [hdrop, hfilter, List.filter_cons_of_neg (a := piece) (by simp [hno])]
          · have hdrop : dropNull (piece :: next :: rest) = piece :: next :: rest := by
              rw [dropNull, if_neg hnull]
              exact fun hnil => absurd hnil (by simp)
            refine ⟨piece, next :: rest, hdrop, .inr ?_, ?_, by rw [hdrop]⟩
            · simpa [isStep, not_or] using hnull
            · exact ⟨[], by rw [List.nil_append, hdrop]⟩

theorem getLast?_of_suffix {front back : List String} (h : front <:+ back) (hne : front ≠ []) :
    front.getLast? = back.getLast? := by
  obtain ⟨dropped, rfl⟩ := h
  rw [List.getLast?_append_of_ne_nil _ hne]

/-- What `dropNull` leaves of the pieces of a path still tells where the path starts and which
steps it takes. -/
theorem dropNull_pieces (path : String) :
    ∃ front back, dropNull (pieces path).reverse = front :: back ∧
      (back = [] ∨ isStep front = true) ∧ (front :: back) <:+ (pieces path).reverse ∧
      (pieces path).head? = (front :: back).getLast? ∧
      steps path = ((front :: back).filter isStep).reverse := by
  obtain ⟨front, back, heq, hfront, hsuffix, hfilter⟩ :=
    dropNull_spec (pieces path).reverse (by simpa using pieces_ne_nil path)
  rw [heq] at hsuffix hfilter
  refine ⟨front, back, heq, hfront, hsuffix, ?_, ?_⟩
  · rw [getLast?_of_suffix hsuffix (by simp), List.getLast?_reverse]
  · rw [hfilter, List.filter_reverse, List.reverse_reverse]
    rfl

/-- The path that `parent?` makes of reversed pieces. -/
theorem parent_of_pieces {kept : List String} {outer : String} (hne : kept ≠ [])
    (hslash : ∀ piece ∈ kept, '/' ∉ piece.toList)
    (houter : (if kept = [""] then "/" else "/".intercalate kept.reverse) = outer) :
    (isAbsolute outer = true ↔ kept.getLast? = some "") ∧
      steps outer = (kept.filter isStep).reverse := by
  by_cases hroot : kept = [""]
  · rw [if_pos hroot] at houter
    subst houter hroot
    exact ⟨by simp [isAbsolute], rfl⟩
  · rw [if_neg hroot] at houter
    have hpieces : pieces outer = kept.reverse := by
      rw [← houter]
      exact pieces_intercalate (by simpa using hne) (by simpa using hslash)
    have hlonger : pieces outer ≠ [""] := by
      intro hsingle
      rw [hpieces] at hsingle
      exact hroot (List.reverse_eq_iff.mp hsingle)
    constructor
    · rw [isAbsolute_iff_head?, hpieces, List.head?_reverse, ← hpieces, and_iff_left hlonger]
    · rw [steps_eq, hpieces, List.filter_reverse]

/-- A parent takes all steps but the last one. -/
theorem parent?_spec {outer : String} (h : parent? path = some outer) :
    isAbsolute outer = isAbsolute path ∧ steps outer = (steps path).dropLast := by
  obtain ⟨front, back, heq, hfront, hsuffix, hhead, hsteps⟩ := dropNull_pieces path
  rw [parent?, heq] at h
  cases back with
  | nil =>
      -- A single piece, which is not the empty one in front of the root.
      have hne : front ≠ "" := fun hempty => by simp [hempty] at h
      obtain rfl : "" = outer := by simpa [hne] using h
      constructor
      · have habs : isAbsolute path = false := by
          rw [← Bool.not_eq_true, isAbsolute_iff_head?, hhead]
          simp [hne]
        rw [habs]
        rfl
      · rw [hsteps]
        by_cases hstep : isStep front = true <;> simp [hstep] <;> rfl
  | cons next rest =>
      obtain ⟨first, shorter, heq', -, hsuffix', hfilter'⟩ :=
        dropNull_spec (next :: rest) (by simp)
      have hslash : ∀ piece ∈ dropNull (next :: rest), '/' ∉ piece.toList := by
        intro piece hpiece
        have hin := hsuffix.subset (List.mem_cons_of_mem front (hsuffix'.subset hpiece))
        exact slash_notMem_of_mem_pieces (List.mem_reverse.mp hin)
      have houter : (if dropNull (next :: rest) = [""] then "/"
          else "/".intercalate (dropNull (next :: rest)).reverse) = outer := by
        by_cases hroot : dropNull (next :: rest) = [""] <;> simpa [hroot] using h
      obtain ⟨hstart, hsteps'⟩ := parent_of_pieces (by simp [heq']) hslash houter
      have hlonger : pieces path ≠ [""] := by
        intro hsingle
        have hlength := hsuffix.length_le
        simp [hsingle] at hlength
      constructor
      · rw [Bool.eq_iff_iff, hstart, isAbsolute_iff_head?, and_iff_left hlonger, hhead,
          List.getLast?_cons_cons, getLast?_of_suffix hsuffix' (by simp [heq'])]
      · have hstep : isStep front = true := hfront.resolve_left (by simp)
        rw [hsteps', hsteps, hfilter', List.filter_cons_of_pos hstep, List.reverse_cons,
          List.dropLast_concat]

/-- A path that takes a step has a parent. -/
theorem exists_parent (h : steps path ≠ []) : ∃ outer, parent? path = some outer := by
  obtain ⟨front, back, heq, -, -, -, hsteps⟩ := dropNull_pieces path
  rw [parent?, heq]
  cases back with
  | nil =>
      have hne : front ≠ "" := by
        rintro rfl
        exact h hsteps
      exact ⟨"", by simp [hne]⟩
  | cons next rest =>
      simp only
      split <;> exact ⟨_, rfl⟩

/-- A parent keeps pieces from the front of a path. It is written without any, as the root, or with
these pieces, of which the last one is a step unless it is the only one. -/
theorem parent?_pieces {outer : String} (h : parent? path = some outer) :
    ∃ kept more, pieces path = kept ++ more ∧ (∃ piece ∈ more, piece ≠ "") ∧
      (outer = "" ∧ kept = [] ∨ outer = "/" ∧ kept = [""] ∨
        pieces outer = kept ∧ ∃ front last, kept = front ++ [last] ∧
          (front = [] ∨ isStep last = true)) := by
  obtain ⟨front, back, heq, hfront, hsuffix, -, -⟩ := dropNull_pieces path
  rw [parent?, heq] at h
  cases back with
  | nil =>
      have hne : front ≠ "" := fun hempty => by simp [hempty] at h
      obtain rfl : "" = outer := by simpa [hne] using h
      have hin : front ∈ pieces path := List.mem_reverse.mp (hsuffix.subset List.mem_cons_self)
      exact ⟨[], pieces path, rfl, ⟨front, hin, hne⟩, .inl ⟨rfl, rfl⟩⟩
  | cons next rest =>
      obtain ⟨last, shorter, heq', hlast, hsuffix', -⟩ := dropNull_spec (next :: rest) (by simp)
      have hstep : isStep front = true := hfront.resolve_left (by simp)
      -- The pieces that are left out are the last step and whatever stands around it.
      obtain ⟨dropped, hdropped⟩ := hsuffix
      obtain ⟨null, hnull⟩ := hsuffix'
      have hpieces : pieces path =
          (dropNull (next :: rest)).reverse ++ (null.reverse ++ front :: dropped.reverse) := by
        have hreverse := congrArg List.reverse hdropped
        rw [← hnull] at hreverse
        simpa using hreverse.symm
      have hne : front ≠ "" := by
        rintro rfl
        exact absurd hstep (by decide)
      refine ⟨_, _, hpieces, ⟨front, by simp, hne⟩, .inr ?_⟩
      by_cases hroot : dropNull (next :: rest) = [""]
      · simp only [hroot, Option.some.injEq] at h
        exact .inl ⟨h.symm, by rw [hroot]; rfl⟩
      · obtain rfl : "/".intercalate (dropNull (next :: rest)).reverse = outer := by
          simpa [hroot] using h
        refine .inr ⟨pieces_intercalate (by simp [heq']) fun piece hpiece => ?_, shorter.reverse,
          last, by rw [heq', List.reverse_cons], by simpa using hlast⟩
        have hin : piece ∈ pieces path := by
          rw [hpieces]
          exact List.mem_append_left _ hpiece
        exact slash_notMem_of_mem_pieces hin

/-- A parent is the front of a path, without its last step. -/
theorem parent?_append {outer : String} (h : parent? path = some outer) :
    ∃ more, more ≠ "" ∧ path = outer ++ more := by
  obtain ⟨kept, more, hpieces, ⟨piece, hpiece, hne⟩, hcases⟩ := parent?_pieces h
  have hslash : ∀ piece ∈ more, '/' ∉ piece.toList := fun piece hpiece =>
    slash_notMem_of_mem_pieces (hpieces ▸ List.mem_append_right kept hpiece)
  have hmore : pieces ("/".intercalate more) = more :=
    pieces_intercalate (List.ne_nil_of_mem hpiece) hslash
  rcases hcases with ⟨rfl, rfl⟩ | ⟨rfl, rfl⟩ | ⟨houter, -⟩
  · refine ⟨path, ?_, by simp⟩
    rintro rfl
    rw [List.nil_append] at hpieces
    rw [← hpieces] at hpiece
    exact hne (by simpa [pieces, splitOn] using hpiece)
  · refine ⟨"/".intercalate more, ?_, pieces_injective ?_⟩
    · intro hempty
      rw [← hmore, hempty] at hpiece
      exact hne (by simpa [pieces, splitOn] using hpiece)
    · have hroot := pieces_append_slash "" ("/".intercalate more)
      rw [String.empty_append, hmore] at hroot
      rw [hroot, hpieces]
      rfl
  · refine ⟨"/" ++ "/".intercalate more, by simp, pieces_injective ?_⟩
    rw [← String.append_assoc, pieces_append_slash, hmore, houter, hpieces]

theorem length_lt_of_parent? {outer : String} (h : parent? path = some outer) :
    outer.length < path.length := by
  obtain ⟨more, hmore, rfl⟩ := parent?_append h
  have hpos : 0 < more.length := Nat.pos_of_ne_zero (by simpa using hmore)
  rw [String.length_append]
  omega

/-- A parent that takes steps ends in one of them. -/
theorem parent?_endsIn {outer : String} (h : parent? path = some outer)
    (hsteps : steps outer ≠ []) : ∃ last, EndsIn outer last := by
  obtain ⟨kept, more, -, -, ⟨rfl, -⟩ | ⟨rfl, -⟩ | ⟨houter, front, last, rfl, hlast⟩⟩ :=
    parent?_pieces h
  · exact absurd rfl hsteps
  · exact absurd rfl hsteps
  · refine ⟨last, ⟨front, houter⟩, hlast.elim (fun hnil => ?_) id⟩
    subst hnil
    by_contra hno
    exact hsteps (by simp [steps_eq, houter, hno])

theorem ancestorsWithin_succ (fuel : Nat) (path : String) : ancestorsWithin (fuel + 1) path =
    path :: ((parent? path).map (ancestorsWithin fuel)).getD [] := by
  rw [ancestorsWithin]
  cases parent? path <;> rfl

/-! ### Leading on -/

/-- `path` starts where `base` starts, and goes on from there through `names`. -/
structure Leads (base path : String) (names : List String) : Prop where
  start : isAbsolute path = isAbsolute base
  steps : Tree.steps path = Tree.steps base ++ names

theorem Leads.refl (base : String) : Leads base base [] := ⟨rfl, by simp⟩

theorem leads_join (h : isAbsolute rel = false) : Leads base (join base rel) (steps rel) :=
  ⟨isAbsolute_join h, steps_join h⟩

/-- Only one list of steps leads from a path to another. -/
theorem Leads.unique {names more : List String} (h : Leads base path names)
    (h' : Leads base path more) : names = more :=
  List.append_cancel_left (h.steps.symm.trans h'.steps)

theorem Leads.trans {names more : List String} (h : Leads base path names)
    (h' : Leads path rel more) : Leads base rel (names ++ more) :=
  ⟨h'.start.trans h.start, by rw [h'.steps, h.steps, List.append_assoc]⟩

theorem Leads.exists_parent {names : List String} (h : Leads base path names) (hne : names ≠ []) :
    ∃ outer, parent? path = some outer :=
  Path.exists_parent (h.steps ▸ List.append_ne_nil_of_right_ne_nil _ hne)

theorem Leads.parent {outer : String} {names : List String} (h : Leads base path names)
    (hne : names ≠ []) (hparent : parent? path = some outer) :
    Leads base outer names.dropLast := by
  obtain ⟨hstart, hsteps⟩ := parent?_spec hparent
  refine ⟨hstart.trans h.start, ?_⟩
  rw [hsteps, h.steps, List.dropLast_append_of_ne_nil hne]

end Path

end ArchiveScout.File
