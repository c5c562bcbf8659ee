import ArchiveScout.Proofs.Archive.ClassEntry
import ArchiveScout.Proofs.Text.Split
import Mathlib.Data.List.TakeWhile

/-!
# ArchiveScout.Proofs.Archive.TopLevel

**What a class folds into.** A class path is divided in front of the first character of its simple
name that is no dollar sign; only the dollar signs behind that point divide. A path that is cut
there has the same front, so the classes that it may be inside of are those that the whole path may
be inside of, up to the cut. The first known one is therefore inside of no known class any more,
and folding twice is folding once.
-/

namespace ArchiveScout.Archive

open ArchiveScout.Text (cutLast_append cutLast_of_notMem notMem_of_cutLast notMem_of_cutLast_none)

variable {known : String → Bool} {path : String} {front rest name cut a b : List Char}

/-! ### Cuts -/

/-- The first cut of a kind stands in front of a dollar sign, and no cut of what stands in front of
it is of that kind. -/
theorem find?_cutsAtDollar {p : List Char → Bool} (h : (cutsAtDollar front rest).find? p = some cut) :
    ∃ a b, rest = a ++ '$' :: b ∧ cut = front ++ a ∧ p cut = true ∧
      ∀ shorter ∈ cutsAtDollar front a, p shorter = false := by
  induction rest generalizing front with
  | nil => simp [cutsAtDollar] at h
  | cons c rest ih =>
      by_cases hc : c = '$'
      · subst hc
        rw [cutsAtDollar, if_pos rfl, List.find?_cons] at h
        split at h
        · rename_i hfront
          obtain rfl := Option.some.inj h
          exact ⟨[], rest, rfl, by simp, hfront, by simp [cutsAtDollar]⟩
        · rename_i hfront
          obtain ⟨a, b, rfl, rfl, hcut, hshorter⟩ := ih h
          refine ⟨'$' :: a, b, rfl, by simp, hcut, ?_⟩
          intro shorter hmem
          rw [cutsAtDollar, if_pos rfl, List.mem_cons] at hmem
          rcases hmem with rfl | hmem
          · simpa using hfront
          · exact hshorter shorter hmem
      · rw [cutsAtDollar, if_neg hc] at h
        obtain ⟨a, b, rfl, rfl, hcut, hshorter⟩ := ih h
        refine ⟨c :: a, b, rfl, by simp, hcut, ?_⟩
        intro shorter hmem
        rw [cutsAtDollar, if_neg hc] at hmem
        exact hshorter shorter hmem

/-! ### The two parts of a path -/

/-- A class path in two parts: the package with the dollar signs behind it, and the rest of the
simple name. -/
structure Parts (front rest path : List Char) : Prop where
  eq : path = front ++ rest
  front : ∃ package dollars, front = package ++ dollars ∧
    (package = [] ∨ ∃ outer, package = outer ++ ['/']) ∧ ∀ c ∈ dollars, c = '$'
  plain : '/' ∉ rest
  first : rest.head? ≠ some '$'

theorem splitSimple_append {package simple : List Char}
    (hpackage : package = [] ∨ ∃ outer, package = outer ++ ['/']) (hsimple : '/' ∉ simple) :
    splitSimple (package ++ simple) = (package, simple) := by
  rcases hpackage with rfl | ⟨outer, rfl⟩
  · rw [splitSimple, List.nil_append, cutLast_of_notMem hsimple]
  · rw [splitSimple, List.append_assoc, List.singleton_append, cutLast_append outer hsimple]

theorem exists_splitSimple (path : List Char) : ∃ package simple, path = package ++ simple ∧
    (package = [] ∨ ∃ outer, package = outer ++ ['/']) ∧ '/' ∉ simple := by
  cases hcut : Text.cutLast '/' path with
  | none => exact ⟨[], path, rfl, .inl rfl, notMem_of_cutLast_none hcut⟩
  | some sides =>
      obtain ⟨outer, simple⟩ := sides
      have hsplit : path = outer ++ '/' :: simple := Text.eq_of_cutLast hcut
      exact ⟨outer ++ ['/'], simple, by simp [hsplit], .inr ⟨outer, rfl⟩, notMem_of_cutLast hcut⟩

theorem exists_parts (path : List Char) : ∃ front rest, Parts front rest path := by
  obtain ⟨package, simple, rfl, hpackage, hsimple⟩ := exists_splitSimple path
  refine ⟨package ++ simple.takeWhile (· = '$'), simple.dropWhile (· = '$'), ?_, ?_, ?_, ?_⟩
  · rw [List.append_assoc, List.takeWhile_append_dropWhile]
  · refine ⟨package, _, rfl, hpackage, fun c hc => ?_⟩
    simpa using List.mem_takeWhile_imp hc
  · exact fun hmem => hsimple (List.dropWhile_subset _ hmem)
  · have hfirst := List.head?_dropWhile_not (· = '$') simple
    intro hdollar
    simp [hdollar] at hfirst

namespace Parts

/-- The package of a path is the same with every rest of the simple name. -/
theorem splitSimple_eq {path : List Char} (h : Parts front rest path) :
    ∃ package dollars, front = package ++ dollars ∧ (∀ c ∈ dollars, c = '$') ∧
      ∀ rest, '/' ∉ rest → splitSimple (front ++ rest) = (package, dollars ++ rest) := by
  obtain ⟨package, dollars, rfl, hpackage, hdollars⟩ := h.front
  refine ⟨package, dollars, rfl, hdollars, fun rest hrest => ?_⟩
  have hsimple : '/' ∉ dollars ++ rest := by
    rw [List.mem_append, not_or]
    exact ⟨fun hmem => absurd (hdollars _ hmem) (by decide), hrest⟩
  rw [List.append_assoc, splitSimple_append hpackage hsimple]

theorem outerPaths_eq {path : List Char} (h : Parts front rest path) :
    outerPaths path = cutsAtDollar front rest := by
  obtain ⟨package, dollars, hfront, hdollars, hsplit⟩ := h.splitSimple_eq
  have hdollars' : ∀ c ∈ dollars, decide (c = '$') = true := by simpa using hdollars
  have hfirst := h.first
  have htake : rest.takeWhile (· = '$') = [] := by
    cases rest with
    | nil => rfl
    | cons c rest => simp_all
  have hdrop : rest.dropWhile (· = '$') = rest := by
    cases rest with
    | nil => rfl
    | cons c rest => simp_all
  rw [outerPaths, h.eq, hsplit _ h.plain]
  dsimp only
  rw [List.takeWhile_append_of_pos hdollars', List.dropWhile_append_of_pos hdollars', htake, hdrop,
    List.append_nil, hfront]

/-- What stands in front of a dollar sign that divides has the same front. -/
theorem shorten {path : List Char} (h : Parts front (a ++ '$' :: b) path) :
    Parts front a (front ++ a) := by
  refine ⟨rfl, h.front, fun hmem => h.plain (List.mem_append_left _ hmem), ?_⟩
  intro hdollar
  refine h.first ?_
  rw [List.head?_append, hdollar]
  rfl

end Parts

/-! ### Folding -/

/-- What a class folds into: itself, if it may be inside of no known class, or the part in front of
a dollar sign, if that is known and may itself be inside of no known class. -/
inductive Folds (known : String → Bool) (path : String) : String → Prop
  | itself (hfree : ∀ outer ∈ outerPaths path.toList, known (String.ofList outer) = false) :
      Folds known path path
  | into (front a b : List Char) (hparts : Parts front (a ++ '$' :: b) path.toList)
      (hknown : known (String.ofList (front ++ a)) = true)
      (hfree : ∀ outer ∈ outerPaths (front ++ a), known (String.ofList outer) = false) :
      Folds known path (String.ofList (front ++ a))

theorem folds_topLevelClass (known : String → Bool) (path : String) :
    Folds known path (topLevelClass known path) := by
  obtain ⟨front, rest, hparts⟩ := exists_parts path.toList
  rw [topLevelClass, List.find?_map]
  cases hfind : (outerPaths path.toList).find? (known ∘ String.ofList) with
  | none => exact .itself (by simpa using hfind)
  | some cut =>
      rw [hparts.outerPaths_eq] at hfind
      obtain ⟨a, b, rfl, rfl, hknown, hshorter⟩ := find?_cutsAtDollar hfind
      exact .into front a b hparts hknown (hparts.shorten.outerPaths_eq ▸ hshorter)

theorem topLevelClass_of_free
    (h : ∀ outer ∈ outerPaths path.toList, known (String.ofList outer) = false) :
    topLevelClass known path = path := by
  have hnone : ((outerPaths path.toList).map String.ofList).find? known = none := by simpa using h
  rw [topLevelClass, hnone, Option.getD_none]

/-- A top-level class folds into itself. -/
theorem topLevelClass_topLevelClass (known : String → Bool) (path : String) :
    topLevelClass known (topLevelClass known path) = topLevelClass known path := by
  have hfolds := folds_topLevelClass known path
  generalize topLevelClass known path = top at hfolds ⊢
  cases hfolds with
  | itself hfree => exact topLevelClass_of_free hfree
  | into front a b _ _ hfree => exact topLevelClass_of_free (by rwa [String.toList_ofList])

/-- A path goes on from another one with a dollar sign, in the same package. -/
def IsInside (outer inner : String) : Prop :=
  ∃ rest : String, inner = outer ++ "$" ++ rest ∧ '/' ∉ rest.toList

/-- A class that does not fold into itself is inside of what it folds into. -/
theorem isInside_topLevelClass (h : topLevelClass known path ≠ path) :
    IsInside (topLevelClass known path) path := by
  have hfolds := folds_topLevelClass known path
  generalize topLevelClass known path = top at hfolds h
  cases hfolds with
  | itself => exact absurd rfl h
  | into front a b hparts =>
      refine ⟨String.ofList b, ?_, ?_⟩
      · apply String.toList_injective
        simp [hparts.eq]
      · rw [String.toList_ofList]
        exact fun hmem => hparts.plain (List.mem_append_right _ (List.mem_cons_of_mem _ hmem))

end ArchiveScout.Archive
