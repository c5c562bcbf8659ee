import ArchiveScout.Proofs.Query.Traversal
import ArchiveScout.Proofs.Text.Split
import ArchiveScout.Query.Filter

/-!
# ArchiveScout.Proofs.Query.Criteria

**What is asked for is in the query.** Reading loses no criterion: letters of reference types stand
for a section at least, every number that is read is kept, and whatever a segment of an advanced
query for classes asks for is set in the end, since later segments replace a criterion and never
take one back.
-/

namespace ArchiveScout.Query

open ArchiveScout.Number (Literal)
open ArchiveScout.Text (splitOn_ne_nil)

variable {raw : String} {texts values : List String} {spec : QuerySpec} {args : QueryArgs}
  {q : AdvancedQuery} {criterion : Criterion} {key : Key}

/-! ### Queries -/

theorem ReferenceTypes.union_ne_none {c : Char} {types : ReferenceTypes}
    (h : ofLetter? c = some types) (more : ReferenceTypes) : types.union more ≠ .none := by
  unfold ofLetter? at h
  split at h
  case h_6 => exact absurd h (by simp)
  all_goals
    obtain rfl := Option.some.inj h
    simp [union, none, all]

/-- Letters stand for no section only if there are none. -/
theorem ReferenceTypes.eq_none_iff {letters : List Char} {types : ReferenceTypes}
    (h : ReferenceTypes.parse letters = .ok types) : types = .none ↔ letters = [] := by
  cases letters with
  | nil =>
      obtain rfl := Except.ok.inj h
      exact iff_of_true rfl rfl
  | cons c letters =>
      refine iff_of_false ?_ (List.cons_ne_nil _ _)
      rw [parse] at h
      split at h
      · exact absurd h (by simp)
      · rename_i first hfirst
        obtain ⟨rest, -, hunion⟩ := bind_eq_ok.mp h
        exact Except.ok.inj hunion ▸ union_ne_none hfirst rest

/-- Every text is read as one literal. -/
theorem length_readLiterals {literals : List Literal} (h : readLiterals texts = .ok literals) :
    literals.length = texts.length := by
  induction texts generalizing literals with
  | nil =>
      obtain rfl := Except.ok.inj h
      rfl
  | cons text texts ih =>
      obtain ⟨first, -, hmore⟩ := bind_eq_ok.mp h
      obtain ⟨rest, hrest, hsame⟩ := bind_eq_ok.mp hmore
      rw [← Except.ok.inj hsame, List.length_cons, ih hrest, List.length_cons]

/-- What a query has of the options that it stands for. -/
structure Built (args : QueryArgs) (spec : QuerySpec) : Prop where
  packages : spec.packages = args.packages
  classes : spec.classes = args.classes
  classSimpleNames : spec.classSimpleNames = args.classNames
  classPattern : readClassPattern args.classRegex = .ok spec.classPattern
  referenceTypes : readReferenceTypes args.refTypes = .ok spec.referenceTypes
  references : spec.references = args.references
  referencePattern : readReferencePattern args.refRegex = .ok spec.referencePattern
  signatures : spec.signatures = args.signatures
  sourceNames : spec.sourceNames = args.sources
  numbers : readLiterals args.numbers = .ok spec.numbers
  resourceNames : spec.resourceNames = ResourceName.ofValues args.resourceNames
  annotationTypes : spec.annotationTypes = args.annotationTypes
  annotationValues : spec.annotationValues = args.annotationValues
  syntheticEnabled : spec.syntheticEnabled = args.synthetic

theorem built_of_build (h : QuerySpec.build args = .ok spec) : Built args spec := by
  obtain ⟨classPattern, hclass, h⟩ := bind_eq_ok.mp h
  obtain ⟨referencePattern, hreference, h⟩ := bind_eq_ok.mp h
  obtain ⟨referenceTypes, htypes, h⟩ := bind_eq_ok.mp h
  obtain ⟨numbers, hnumbers, h⟩ := bind_eq_ok.mp h
  obtain rfl := Except.ok.inj h
  exact
    { packages := rfl
      classes := rfl
      classSimpleNames := rfl
      classPattern := hclass
      referenceTypes := htypes
      references := rfl
      referencePattern := hreference
      signatures := rfl
      sourceNames := rfl
      numbers := hnumbers
      resourceNames := rfl
      annotationTypes := rfl
      annotationValues := rfl
      syntheticEnabled := rfl }

namespace Built

variable (h : Built args spec)
include h

theorem hasNone_iff : spec.referenceTypes.hasNone = true ↔ args.refTypes = "" := by
  have hread := h.referenceTypes
  rw [readReferenceTypes] at hread
  split at hread
  · rename_i types hparse
    obtain rfl := Except.ok.inj hread
    rw [ReferenceTypes.hasNone, decide_eq_true_iff, ReferenceTypes.eq_none_iff hparse,
      String.toList_eq_nil_iff]
  · exact absurd hread (by simp)

/-- There is a class pattern if a text was given for one. -/
theorem classPattern_cases : args.classRegex = "" ∧ spec.classPattern = none ∨
    args.classRegex ≠ "" ∧ ∃ pattern, ClassPattern.compile args.classRegex = .ok pattern ∧
      spec.classPattern = some pattern := by
  have hread := h.classPattern
  rw [readClassPattern] at hread
  split at hread
  · rename_i hempty
    exact .inl ⟨String.isEmpty_iff.mp hempty, (Except.ok.inj hread).symm⟩
  · rename_i hempty
    obtain ⟨pattern, hpattern, hsome⟩ := bind_eq_ok.mp hread
    exact .inr ⟨mt String.isEmpty_iff.mpr hempty, pattern, hpattern, (Except.ok.inj hsome).symm⟩

/-- There is a reference pattern if a text was given for one. -/
theorem referencePattern_eq_none_iff : spec.referencePattern = none ↔ args.refRegex = "" := by
  have hread := h.referencePattern
  rw [readReferencePattern] at hread
  split at hread
  · rename_i hempty
    exact iff_of_true (Except.ok.inj hread).symm (String.isEmpty_iff.mp hempty)
  · rename_i hempty
    refine iff_of_false ?_ (mt String.isEmpty_iff.mpr hempty)
    split at hread
    · rw [← Except.ok.inj hread]
      exact Option.some_ne_none _
    · exact absurd hread (by simp)

theorem numbers_eq_nil_iff : spec.numbers = [] ↔ args.numbers = [] := by
  rw [← List.length_eq_zero_iff, length_readLiterals h.numbers, List.length_eq_zero_iff]

end Built

/-! ### Advanced queries -/

/-- Whether an advanced query asks anything of classes. -/
def AdvancedQuery.AsksOfClasses (q : AdvancedQuery) : Prop :=
  q.modifiers ≠ -1 ∨ q.superClass ≠ none ∨ q.interfaces ≠ none ∨ q.annotations ≠ []

/-- What a key of classes asks for is set when it is written into a query. -/
theorem asksOfClasses_apply (hkey : key ∈ Entity.classes.keys)
    (hvalues : ¬ (values = [] ∧ !key.allowsEmpty)) (h : key.criterion values = .ok criterion)
    (q : AdvancedQuery) : (q.apply criterion).AsksOfClasses := by
  cases key with
  | flags =>
      obtain ⟨mask, -, hmask⟩ := bind_eq_ok.mp h
      obtain rfl := Except.ok.inj hmask
      refine .inl ?_
      show (mask : Int) ≠ -1
      omega
  | super =>
      cases values with
      | nil => exact absurd h (by simp [Key.criterion])
      | cons name names =>
          obtain rfl := Except.ok.inj h
          exact .inr (.inl (Option.some_ne_none _))
  | interfaces =>
      obtain rfl := Except.ok.inj h
      exact .inr (.inr (.inl (Option.some_ne_none _)))
  | annotations =>
      obtain rfl := Except.ok.inj h
      refine .inr (.inr (.inr ?_))
      show values ≠ []
      exact fun hnil => hvalues ⟨hnil, rfl⟩
  | _ => exact absurd hkey (by decide)

theorem asksOfClasses_segment {segment : List Char}
    (h : Criterion.parse .classes segment = .ok criterion) (q : AdvancedQuery) :
    (q.apply criterion).AsksOfClasses := by
  obtain ⟨⟨letter, text⟩, -, hread⟩ := bind_eq_ok.mp h
  dsimp only at hread
  split at hread
  · exact absurd hread (by simp)
  · rename_i key hkey
    split at hread
    · exact absurd hread (by simp)
    · rename_i hvalues
      exact asksOfClasses_apply (List.mem_of_find?_eq_some hkey) hvalues hread q

/-- Some segments ask for what the last one asks for. -/
theorem asksOfClasses_segments {segments : List (List Char)} (hne : segments ≠ [])
    {start : AdvancedQuery}
    (h : segments.foldlM (fun q segment => do
      return q.apply (← Criterion.parse .classes segment)) start = .ok q) : q.AsksOfClasses := by
  induction segments generalizing start with
  | nil => exact absurd rfl hne
  | cons segment segments ih =>
      rw [List.foldlM_cons] at h
      obtain ⟨next, hnext, hrest⟩ := bind_eq_ok.mp h
      by_cases hnil : segments = []
      · subst hnil
        obtain rfl := Except.ok.inj hrest
        obtain ⟨criterion, hcriterion, happly⟩ := bind_eq_ok.mp hnext
        obtain rfl := Except.ok.inj happly
        exact asksOfClasses_segment hcriterion start
      · exact ih hnil hrest

theorem asksOfClasses_iff (h : AdvancedQuery.parse .classes raw = .ok q) :
    q.AsksOfClasses ↔ raw ≠ "" := by
  rw [AdvancedQuery.parse] at h
  split at h
  · rename_i hempty
    obtain rfl := Except.ok.inj h
    refine iff_of_false ?_ (fun hne => hne (String.isEmpty_iff.mp hempty))
    simp [AdvancedQuery.AsksOfClasses]
  · rename_i hempty
    refine iff_of_true (asksOfClasses_segments (splitOn_ne_nil _ _) h) ?_
    exact mt String.isEmpty_iff.mpr hempty

end ArchiveScout.Query
