import ArchiveScout.Proofs.Archive.TopLevel

/-!
# ArchiveScout.Proofs.Archive.Folding

**Folding is canonical.** The classes that a class may be inside of are told without positions: the
path goes on from them with a dollar sign, in the same package, and their simple names are more than
dollar signs. A class folds into the shortest known one of them. What is put behind the path of a
class comes behind all of these, so once there is a known one, the class folds as before.
-/

namespace ArchiveScout.Archive

variable {known : String → Bool} {path outer : String} {front rest more cut a b : List Char}

/-! ### Cuts -/

theorem cutsAtDollar_append (front a b : List Char) :
    cutsAtDollar front (a ++ b) = cutsAtDollar front a ++ cutsAtDollar (front ++ a) b := by
  induction a generalizing front with
  | nil => simp [cutsAtDollar]
  | cons c a ih => by_cases hc : c = '$' <;> simp [cutsAtDollar, hc, ih]

/-- There is a cut in front of each dollar sign. -/
theorem mem_cutsAtDollar :
    cut ∈ cutsAtDollar front rest ↔ ∃ a b, rest = a ++ '$' :: b ∧ cut = front ++ a := by
  constructor
  · intro h
    obtain ⟨found, hfound⟩ : ∃ found, (cutsAtDollar front rest).find? (· = cut) = some found := by
      rw [← Option.isSome_iff_exists, List.find?_isSome]
      exact ⟨cut, h, by simp⟩
    obtain ⟨a, b, hrest, hcut, hsame, -⟩ := find?_cutsAtDollar hfound
    exact ⟨a, b, hrest, (of_decide_eq_true hsame).symm.trans hcut⟩
  · intro h
    obtain ⟨a, b, rfl, rfl⟩ := h
    rw [cutsAtDollar_append, cutsAtDollar, if_pos rfl]
    exact List.mem_append_right _ List.mem_cons_self

/-! ### Outer classes -/

namespace Parts

/-- What is put behind a path whose simple name is more than dollar signs is put behind the second
part. -/
theorem append {path : List Char} (h : Parts front rest path) (hne : rest ≠ [])
    (hmore : '/' ∉ more) : Parts front (rest ++ more) (path ++ more) where
  eq := by rw [h.eq, List.append_assoc]
  front := h.front
  plain := by
    rw [List.mem_append, not_or]
    exact ⟨h.plain, hmore⟩
  first := by
    rw [List.head?_append_of_ne_nil _ hne]
    exact h.first

end Parts

theorem splitSimple_spec (path : List Char) :
    path = (splitSimple path).1 ++ (splitSimple path).2 ∧ '/' ∉ (splitSimple path).2 := by
  obtain ⟨package, simple, rfl, hpackage, hsimple⟩ := exists_splitSimple path
  rw [splitSimple_append hpackage hsimple]
  exact ⟨rfl, hsimple⟩

/-- The classes that a path may be inside of, without regard to positions. -/
theorem mem_outerPaths {path : List Char} : cut ∈ outerPaths path ↔
    (∃ b, path = cut ++ '$' :: b) ∧ (splitSimple cut).1 = (splitSimple path).1 ∧
      ∃ c ∈ (splitSimple cut).2, c ≠ '$' := by
  constructor
  · intro h
    obtain ⟨front, rest, hparts⟩ := exists_parts path
    rw [hparts.outerPaths_eq, mem_cutsAtDollar] at h
    obtain ⟨a, b, rfl, rfl⟩ := h
    obtain ⟨package, dollars, -, -, hsplit⟩ := hparts.splitSimple_eq
    have hplain : '/' ∉ a := fun hmem => hparts.plain (List.mem_append_left _ hmem)
    obtain ⟨c, a, rfl⟩ : ∃ c a', a = c :: a' := by
      refine List.exists_cons_of_ne_nil ?_
      rintro rfl
      exact hparts.first rfl
    refine ⟨⟨b, by rw [hparts.eq, List.append_assoc]⟩, ?_, c, ?_, ?_⟩
    · rw [hparts.eq, hsplit _ hplain, hsplit _ hparts.plain]
    · rw [hsplit _ hplain]
      exact List.mem_append_right _ List.mem_cons_self
    · rintro rfl
      exact hparts.first rfl
  · intro h
    obtain ⟨⟨b, rfl⟩, hpackage, c, hc, hne⟩ := h
    obtain ⟨front, a, hparts⟩ := exists_parts cut
    obtain ⟨package, dollars, rfl, hdollars, hsplit⟩ := hparts.splitSimple_eq
    have ha : a ≠ [] := by
      rintro rfl
      rw [hparts.eq, hsplit _ hparts.plain, List.append_nil] at hc
      exact hne (hdollars c hc)
    have hb : '/' ∉ '$' :: b := by
      have hlong := splitSimple_spec (cut ++ '$' :: b)
      have hshort := splitSimple_spec cut
      rw [← hpackage] at hlong
      rw [hshort.1, List.append_assoc, ← hshort.1] at hlong
      have hsimple := List.append_cancel_left hlong.1
      exact fun hmem => hlong.2 (hsimple ▸ List.mem_append_right _ hmem)
    rw [(hparts.append ha hb).outerPaths_eq, mem_cutsAtDollar]
    exact ⟨a, b, rfl, hparts.eq⟩

/-- Known, and such that a path may be inside of it: the path goes on from it with a dollar sign,
in the same package, and its simple name is more than dollar signs. -/
structure IsOuter (known : String → Bool) (path outer : String) : Prop where
  known : known outer = true
  goesOn : ∃ rest, path = outer ++ "$" ++ rest
  package : (splitSimple outer.toList).1 = (splitSimple path.toList).1
  named : ∃ c ∈ (splitSimple outer.toList).2, c ≠ '$'

theorem isOuter_iff :
    IsOuter known path outer ↔ known outer = true ∧ outer.toList ∈ outerPaths path.toList := by
  rw [mem_outerPaths]
  constructor
  · intro h
    obtain ⟨rest, hrest⟩ := h.goesOn
    exact ⟨h.known, ⟨rest.toList, by simp [hrest]⟩, h.package, h.named⟩
  · intro h
    obtain ⟨hknown, ⟨b, hb⟩, hpackage, hnamed⟩ := h
    refine ⟨hknown, ⟨String.ofList b, String.toList_injective ?_⟩, hpackage, hnamed⟩
    simp [hb]

/-- Of two classes that a class may be inside of, the shorter one is around the longer one. -/
theorem IsOuter.of_shorter {short long : String} (hshort : IsOuter known path short)
    (hlong : IsOuter known path long) (hlt : short.length < long.length) :
    IsOuter known long short := by
  obtain ⟨rest, hrest⟩ := hshort.goesOn
  obtain ⟨rest', hrest'⟩ := hlong.goesOn
  have hbegins : short.toList ++ ['$'] <+: path.toList := ⟨rest.toList, by simp [hrest]⟩
  have hbegins' : long.toList <+: path.toList := ⟨'$' :: rest'.toList, by simp [hrest']⟩
  have hle : (short.toList ++ ['$']).length ≤ long.toList.length := by
    rw [List.length_append, String.length_toList, String.length_toList]
    exact hlt
  obtain ⟨between, hbetween⟩ := List.prefix_of_prefix_length_le hbegins hbegins' hle
  refine ⟨hshort.known, ⟨String.ofList between, String.toList_injective ?_⟩,
    hshort.package.trans hlong.package.symm, hshort.named⟩
  simp [← hbetween]

/-! ### Folding -/

/-- Around what a class folds into there is no known class. -/
theorem not_isOuter_topLevelClass (known : String → Bool) (path outer : String) :
    ¬ IsOuter known (topLevelClass known path) outer := by
  intro h
  rw [isOuter_iff] at h
  have hfree : ∀ outer ∈ outerPaths (topLevelClass known path).toList,
      known (String.ofList outer) = false := by
    have hfolds := folds_topLevelClass known path
    generalize topLevelClass known path = top at hfolds ⊢
    cases hfolds with
    | itself hfree => exact hfree
    | into front a b _ _ hfree => rwa [String.toList_ofList]
  have hunknown := hfree _ h.2
  rw [String.ofList_toList, h.1] at hunknown
  exact absurd hunknown (by simp)

/-- What a class folds into is around it, if it is not the class itself. -/
theorem isOuter_topLevelClass (h : topLevelClass known path ≠ path) :
    IsOuter known path (topLevelClass known path) := by
  have hfolds := folds_topLevelClass known path
  generalize topLevelClass known path = top at hfolds h ⊢
  cases hfolds with
  | itself => exact absurd rfl h
  | into front a b hparts hknown =>
      refine isOuter_iff.mpr ⟨hknown, ?_⟩
      rw [String.toList_ofList, hparts.outerPaths_eq, mem_cutsAtDollar]
      exact ⟨a, b, rfl, rfl⟩

theorem topLevelClass_eq_self_iff :
    topLevelClass known path = path ↔ ¬ ∃ outer, IsOuter known path outer := by
  constructor
  · intro hself h
    obtain ⟨outer, houter⟩ := h
    exact not_isOuter_topLevelClass known path outer (hself.symm ▸ houter)
  · intro hnone
    by_contra hne
    exact hnone ⟨_, isOuter_topLevelClass hne⟩

/-- No known class around a class is shorter than what it folds into. -/
theorem length_topLevelClass_le (h : IsOuter known path outer) :
    (topLevelClass known path).length ≤ outer.length := by
  have hne : topLevelClass known path ≠ path := by
    rw [ne_eq, topLevelClass_eq_self_iff, not_not]
    exact ⟨outer, h⟩
  by_contra hlt
  have hinside := h.of_shorter (isOuter_topLevelClass hne) (Nat.lt_of_not_le hlt)
  exact not_isOuter_topLevelClass known path outer hinside

/-- A class that folds into another one does so with anything behind its simple name. -/
theorem topLevelClass_append (h : topLevelClass known path ≠ path) {more : String}
    (hmore : '/' ∉ more.toList) :
    topLevelClass known (path ++ more) = topLevelClass known path := by
  obtain ⟨front, rest, hparts⟩ := exists_parts path.toList
  have hne : rest ≠ [] := by
    rintro rfl
    refine h (topLevelClass_of_free ?_)
    simp [hparts.outerPaths_eq, cutsAtDollar]
  have hbegins : (outerPaths path.toList).map String.ofList <+:
      (outerPaths (path ++ more).toList).map String.ofList := by
    rw [String.toList_append, (hparts.append hne hmore).outerPaths_eq, hparts.outerPaths_eq,
      cutsAtDollar_append, List.map_append]
    exact List.prefix_append _ _
  cases hfind : ((outerPaths path.toList).map String.ofList).find? known with
  | none => exact absurd (by rw [topLevelClass, hfind, Option.getD_none]) h
  | some top => rw [topLevelClass, topLevelClass, hbegins.find?_eq_some hfind, hfind]; rfl

/-- A class folds into itself, or into the shortest known class that it may be inside of; into
itself just when there is none. What it folds into folds into itself, and if that is another class,
then so does everything that goes on from the path with a dollar sign in the same package. -/
theorem folding_is_canonical (known : String → Bool) (path : String) :
    (topLevelClass known path = path ∨
      IsOuter known path (topLevelClass known path) ∧
        ∀ outer, IsOuter known path outer →
          (topLevelClass known path).length ≤ outer.length) ∧
    (topLevelClass known path = path ↔ ¬ ∃ outer, IsOuter known path outer) ∧
    topLevelClass known (topLevelClass known path) = topLevelClass known path ∧
    (topLevelClass known path ≠ path → ∀ rest : String, '/' ∉ rest.toList →
      topLevelClass known (path ++ "$" ++ rest) = topLevelClass known path) := by
  refine ⟨?_, topLevelClass_eq_self_iff, topLevelClass_topLevelClass known path, ?_⟩
  · by_cases hself : topLevelClass known path = path
    · exact .inl hself
    · exact .inr ⟨isOuter_topLevelClass hself, fun outer => length_topLevelClass_le⟩
  · intro hinside rest hrest
    rw [String.append_assoc]
    refine topLevelClass_append hinside ?_
    simpa using hrest

/-- A class whose simple name starts with a dollar sign: what stands in front of this sign is known
too, but does not divide, and the classes inside of the class fold into it. -/
theorem inside_of_dollar_class_folds :
    let known := ["gson/", "gson/$Gson$Types"].contains
    topLevelClass known "gson/$Gson$Types$1" ≠ "gson/$Gson$Types$1" ∧
      topLevelClass known ("gson/$Gson$Types$1" ++ "$" ++ "") = "gson/$Gson$Types" := by
  intro known
  have htop : topLevelClass known "gson/$Gson$Types$1" = "gson/$Gson$Types" := by
    decide +kernel
  have hinside : topLevelClass known "gson/$Gson$Types$1" ≠ "gson/$Gson$Types$1" := by
    rw [htop]
    decide
  obtain ⟨-, -, -, hgoesOn⟩ := folding_is_canonical known "gson/$Gson$Types$1"
  exact ⟨hinside, (hgoesOn hinside "" (by decide)).trans htop⟩

end ArchiveScout.Archive
