import ArchiveScout.Proofs.Query.Segment

/-!
# ArchiveScout.Proofs.Query.Advanced

**Advanced queries, told by their segments.** A query is read if all of its segments are well
formed, and otherwise the first faulty one says what is wrong. Each key has the field that the last
of its segments asks for: behind that segment the field is not touched, and the field of a key
without segments stays as it is. Hence the order of segments with different keys does not matter,
and what was asked for can be told from the fields, except for a size of minus one, which is what
stands for no size.
-/

namespace ArchiveScout.Query

open ArchiveScout.Text (splitOn splitOn_ne_nil Pieces pieces_iff)

variable {entity : Entity} {raw : String} {segment : List Char}
  {segments segments' : List (List Char)} {key : Key} {values : List String} {criteria : List Criterion} {start q q' : AdvancedQuery}
  {e : QueryError}

/-! ### The last segment of a key -/

/-- No segment has the key. -/
def Ungiven (segments : List (List Char)) (key : Key) : Prop :=
  ∀ segment ∈ segments, ∀ values, ¬ Labelled segment key.letter values

/-- The last segment that has the key has these values. -/
def Given (segments : List (List Char)) (key : Key) (values : List String) : Prop :=
  ∃ before segment after, segments = before ++ segment :: after ∧
    Labelled segment key.letter values ∧ Ungiven after key

theorem ungiven_cons : Ungiven (segment :: segments) key ↔
    (∀ values, ¬ Labelled segment key.letter values) ∧ Ungiven segments key :=
  List.forall_mem_cons

theorem given_cons : Given (segment :: segments) key values ↔
    (Labelled segment key.letter values ∧ Ungiven segments key) ∨ Given segments key values := by
  constructor
  · rintro ⟨_ | ⟨first, before⟩, last, after, h, hlast, hafter⟩
    · obtain ⟨rfl, rfl⟩ := List.cons.inj h
      exact .inl ⟨hlast, hafter⟩
    · obtain ⟨rfl, rfl⟩ := List.cons.inj h
      exact .inr ⟨before, last, after, rfl, hlast, hafter⟩
  · rintro (⟨hlast, hafter⟩ | ⟨before, last, after, rfl, hlast, hafter⟩)
    · exact ⟨[], segment, segments, rfl, hlast, hafter⟩
    · exact ⟨segment :: before, last, after, rfl, hlast, hafter⟩

theorem Given.not_ungiven (h : Given segments key values) : ¬ Ungiven segments key := by
  obtain ⟨before, last, after, rfl, hlast, -⟩ := h
  intro hnone
  exact hnone last (by simp) values hlast

/-- A key is not given, or its last segment gives it values. -/
theorem ungiven_or_given (segments : List (List Char)) (key : Key) :
    Ungiven segments key ∨ ∃ values, Given segments key values := by
  induction segments with
  | nil => exact .inl fun segment h => absurd h List.not_mem_nil
  | cons segment segments ih =>
      rcases ih with hnone | ⟨values, hgiven⟩
      · by_cases hlabelled : ∃ values, Labelled segment key.letter values
        · obtain ⟨values, hvalues⟩ := hlabelled
          exact .inr ⟨values, given_cons.mpr (.inl ⟨hvalues, hnone⟩)⟩
        · exact .inl (ungiven_cons.mpr ⟨not_exists.mp hlabelled, hnone⟩)
      · exact .inr ⟨values, given_cons.mpr (.inr hgiven)⟩

/-- The first faulty segment has this fault. -/
def FirstFault (entity : Entity) (segments : List (List Char)) (e : QueryError) : Prop :=
  ∃ before segment after, segments = before ++ segment :: after ∧
    (∀ s ∈ before, ∃ key values, WellFormed entity s key values) ∧ Fault entity segment e

/-! ### Reading all segments -/

/-- The one segment of the empty text has no key. -/
theorem ungiven_empty (key : Key) : Ungiven (splitOn ',' "".toList) key := by
  rintro segment hsegment values ⟨front, text, pieces, rfl, -⟩
  simp [splitOn] at hsegment

theorem parse_empty (entity : Entity) : AdvancedQuery.parse entity "" = .ok {} := rfl

/-- A text is read segment by segment. -/
theorem parse_eq_mapM (hraw : raw ≠ "") : AdvancedQuery.parse entity raw =
    return (← (splitOn ',' raw.toList).mapM (Criterion.parse entity)).foldl
      AdvancedQuery.apply {} := by
  rw [AdvancedQuery.parse, if_neg (mt String.isEmpty_iff.mp hraw), foldlM_eq_mapM]

theorem parse_eq_ok (hraw : raw ≠ "") : AdvancedQuery.parse entity raw = .ok q ↔ ∃ criteria,
    List.Forall₂ (fun segment c => Criterion.parse entity segment = .ok c)
      (splitOn ',' raw.toList) criteria ∧ q = criteria.foldl AdvancedQuery.apply {} := by
  simp only [parse_eq_mapM hraw, map_eq_ok, mapM_eq_ok]

theorem exists_query_iff (hraw : raw ≠ "") : (∃ q, AdvancedQuery.parse entity raw = .ok q) ↔
    ∀ segment ∈ splitOn ',' raw.toList, ∃ key values, WellFormed entity segment key values := by
  simp only [← exists_parse_iff, ← exists_mapM, mapM_eq_ok, parse_eq_ok hraw]
  constructor
  · rintro ⟨q, criteria, h, -⟩
    exact ⟨criteria, h⟩
  · rintro ⟨criteria, h⟩
    exact ⟨_, criteria, h, rfl⟩

theorem query_eq_error (hraw : raw ≠ "") : AdvancedQuery.parse entity raw = .error e ↔
    FirstFault entity (splitOn ',' raw.toList) e := by
  rw [parse_eq_mapM hraw, map_eq_error, mapM_eq_error]
  simp only [exists_parse_iff, parse_eq_error, FirstFault]

/-- The first faulty segment is what is wrong with a query. -/
theorem error_iff : AdvancedQuery.parse entity raw = .error e ↔
    raw ≠ "" ∧ FirstFault entity (splitOn ',' raw.toList) e := by
  by_cases hraw : raw = ""
  · subst hraw
    rw [parse_empty]
    simp
  · rw [query_eq_error hraw]
    exact (and_iff_right hraw).symm

/-! ### The fields of a query -/

/-- Segments of other keys are criteria for other keys. -/
theorem target_ne_of_ungiven
    (h : List.Forall₂ (fun segment c => Criterion.parse entity segment = .ok c) segments criteria)
    (hnone : Ungiven segments key) : ∀ c ∈ criteria, c.target ≠ key := by
  intro c hc
  obtain ⟨segment, hsegment, hread⟩ := exists_of_forall₂ h.flip hc
  obtain ⟨values, hwell, -⟩ := exists_wellFormed_of_parse hread
  rintro rfl
  exact hnone segment hsegment values hwell.labelled

theorem lacks_foldl (h : ∀ c ∈ criteria, c.target ≠ key) (start : AdvancedQuery) :
    (criteria.foldl AdvancedQuery.apply start).Lacks key ↔ start.Lacks key := by
  induction criteria generalizing start with
  | nil => rfl
  | cons c criteria ih =>
      rw [List.forall_mem_cons] at h
      rw [List.foldl_cons, ih h.2, lacks_apply h.1]

theorem holds_foldl (h : ∀ c ∈ criteria, c.target ≠ key) (start : AdvancedQuery) :
    (criteria.foldl AdvancedQuery.apply start).Holds values key ↔ start.Holds values key := by
  induction criteria generalizing start with
  | nil => rfl
  | cons c criteria ih =>
      rw [List.forall_mem_cons] at h
      rw [List.foldl_cons, ih h.2, holds_apply h.1]

/-- The last segment of a key decides on its field, whatever has been there before. -/
theorem holds_of_given
    (h : List.Forall₂ (fun segment c => Criterion.parse entity segment = .ok c) segments criteria)
    (hgiven : Given segments key values) (start : AdvancedQuery) :
    (criteria.foldl AdvancedQuery.apply start).Holds values key := by
  induction h generalizing start with
  | nil => exact absurd (fun segment hmem => absurd hmem List.not_mem_nil) hgiven.not_ungiven
  | cons hread hrest ih =>
      rw [List.foldl_cons]
      rcases given_cons.mp hgiven with ⟨hlast, hnone⟩ | hlater
      · -- The segment is the last one of its key, so nothing behind it touches what it sets.
        obtain ⟨values', hwell, hholds⟩ := exists_wellFormed_of_parse hread
        obtain ⟨rfl, rfl⟩ := hwell.unique hlast
        exact (holds_foldl (target_ne_of_ungiven hrest hnone) _).mpr (hholds start)
      · exact ih hlater _

/-- Each field is as it was, or as the last segment of its key says. -/
theorem fields_of_parse (h : AdvancedQuery.parse entity raw = .ok q) (key : Key) :
    (Ungiven (splitOn ',' raw.toList) key ∧ q.Lacks key) ∨
      ∃ values, Given (splitOn ',' raw.toList) key values ∧ q.Holds values key := by
  by_cases hraw : raw = ""
  · subst hraw
    obtain rfl := Except.ok.inj h
    exact .inl ⟨ungiven_empty key, lacks_empty key⟩
  · obtain ⟨criteria, hread, rfl⟩ := (parse_eq_ok hraw).mp h
    rcases ungiven_or_given (splitOn ',' raw.toList) key with hnone | ⟨values, hgiven⟩
    · exact .inl ⟨hnone, (lacks_foldl (target_ne_of_ungiven hread hnone) _).mpr (lacks_empty key)⟩
    · exact .inr ⟨values, hgiven, holds_of_given hread hgiven _⟩

/-! ### Queries by their segments -/

/-- **A query is told by its segments.** The empty text asks nothing. Any other text is a query if
all its segments are well formed. Then each field is as the last segment of its key says, or as
without any segment. A text that is no query is refused for the first fault in it, and for its key
only where there is no letter that a key has. -/
theorem query_told_by_segments (entity : Entity) (raw : String) :
    ∃ segments, Pieces ',' raw.toList segments ∧
      (raw = "" → AdvancedQuery.parse entity raw = .ok {}) ∧
      (raw ≠ "" → ((∃ q, AdvancedQuery.parse entity raw = .ok q) ↔
        ∀ segment ∈ segments, ∃ key values, WellFormed entity segment key values)) ∧
      (∀ q, AdvancedQuery.parse entity raw = .ok q → ∀ key,
        (Ungiven segments key ∧ q.Lacks key) ∨
          ∃ values, Given segments key values ∧ q.Holds values key) ∧
      (∀ e, AdvancedQuery.parse entity raw = .error e ↔ raw ≠ "" ∧ FirstFault entity segments e) ∧
      ∀ text, AdvancedQuery.parse entity raw = .error (.invalidKey text) →
        ∃ segment ∈ segments, text = String.ofList segment ∧
          ∀ key ∈ entity.keys, ∀ values, ¬ Labelled segment key.letter values := by
  refine ⟨splitOn ',' raw.toList, pieces_iff.mpr rfl, ?_, exists_query_iff,
    fun q => fields_of_parse, fun e => error_iff, ?_⟩
  · rintro rfl
    rfl
  · intro text herror
    obtain ⟨-, before, segment, after, hsegments, -, hfault⟩ := error_iff.mp herror
    obtain ⟨htext, hletter⟩ := hfault.not_labelled
    exact ⟨segment, by simp [hsegments], htext, fun key _ => hletter key⟩

/-- A segment that reads is passed, and the one behind it is told to be without values. -/
theorem names_without_values_are_told :
    AdvancedQuery.parse .methods "q: 2 +x,m:,z" = .error (.missingValue 'm') := by
  obtain ⟨segments, hpieces, -, -, -, herror, -⟩ :=
    query_told_by_segments .methods "q: 2 +x,m:,z"
  refine (herror _).mpr ⟨by decide, ["q: 2 +x".toList], "m:".toList, ["z".toList], ?_, ?_, ?_⟩
  · rw [pieces_iff.mp hpieces]
    decide
  · have hsize : Labelled "q: 2 +x".toList Key.paramSize.letter ["2", "x"] :=
      labelled_iff.mpr ⟨['q'], " 2 +x".toList, by decide, rfl, by decide⟩
    have hcount : IsCount "2" 2 := signed?_eq_some.mp (by decide)
    intro segment hsegment
    obtain rfl := List.mem_singleton.mp hsegment
    exact ⟨.paramSize, _, hsize, by decide, by simp, by simp, fun _ => ⟨"2", rfl, 2, hcount⟩⟩
  · have hnames : Labelled "m:".toList Key.methods.letter [] :=
      labelled_iff.mpr ⟨['m'], [], by decide, rfl, by decide⟩
    have hfault : Fault .methods "m:".toList (.missingValue Key.methods.letter) :=
      .missingValue hnames (by decide) (by decide)
    exact hfault

/-! ### What is asked for and what is not -/

/-- The last size that is asked for is minus one. -/
def SizeMinusOne (segments : List (List Char)) : Prop :=
  ∃ values, Given segments .paramSize values ∧ ∃ first ∈ values.head?, IsCount first (-1)

theorem Given.exists_labelled (h : Given segments key values) :
    ∃ segment ∈ segments, Labelled segment key.letter values := by
  obtain ⟨before, segment, after, rfl, hlast, -⟩ := h
  exact ⟨segment, by simp, hlast⟩

theorem Given.unique {values' : List String} (h : Given segments key values)
    (h' : Given segments key values') : values = values' := by
  induction segments with
  | nil => exact absurd (fun segment hmem => absurd hmem List.not_mem_nil) h.not_ungiven
  | cons segment segments ih =>
      rcases given_cons.mp h with ⟨hlast, hnone⟩ | hlater
      · rcases given_cons.mp h' with ⟨hlast', -⟩ | hlater'
        · exact (hlast.unique hlast').2
        · exact absurd hnone hlater'.not_ungiven
      · rcases given_cons.mp h' with ⟨-, hnone'⟩ | hlater'
        · exact absurd hnone' hlater.not_ungiven
        · exact ih hlater hlater'

/-- A segment with a key is well formed in a query that has been read. -/
theorem wellFormed_of_parse (h : AdvancedQuery.parse entity raw = .ok q)
    (hmem : segment ∈ splitOn ',' raw.toList) (hlabelled : Labelled segment key.letter values) :
    WellFormed entity segment key values := by
  by_cases hraw : raw = ""
  · subst hraw
    exact absurd hlabelled (ungiven_empty key segment hmem values)
  · obtain ⟨key', values', hwell⟩ := (exists_query_iff hraw).mp ⟨q, h⟩ segment hmem
    obtain ⟨rfl, rfl⟩ := hwell.unique hlabelled
    exact hwell

/-- A field looks unset if its key is not given, or if it is the size and minus one. -/
theorem lacks_iff (h : AdvancedQuery.parse entity raw = .ok q) (key : Key) :
    q.Lacks key ↔ Ungiven (splitOn ',' raw.toList) key ∨
      (key = .paramSize ∧ SizeMinusOne (splitOn ',' raw.toList)) := by
  rcases fields_of_parse h key with ⟨hnone, hlacks⟩ | ⟨values, hgiven, hholds⟩
  · exact iff_of_true hlacks (.inl hnone)
  · obtain ⟨segment, hmem, hlabelled⟩ := hgiven.exists_labelled
    rw [(wellFormed_of_parse h hmem hlabelled).lacks_iff hholds, or_iff_right hgiven.not_ungiven]
    refine and_congr_right fun hkey => ?_
    subst hkey
    constructor
    · intro hfirst
      exact ⟨values, hgiven, hfirst⟩
    · rintro ⟨values', hgiven', hfirst⟩
      rwa [hgiven.unique hgiven']

/-- A field of a key that the entity does not know is never set. -/
theorem lacks_of_notMem (h : AdvancedQuery.parse entity raw = .ok q) (hkey : key ∉ entity.keys) :
    q.Lacks key := by
  refine (lacks_iff h key).mpr (.inl ?_)
  intro segment hmem values hlabelled
  exact hkey (wellFormed_of_parse h hmem hlabelled).known

/-- A query looks unset if the text is empty, or asks for sizes only and for minus one at last. -/
theorem isUnset_iff_of_parse (h : AdvancedQuery.parse entity raw = .ok q) :
    q.isUnset = true ↔ raw = "" ∨
      ((∀ segment ∈ splitOn ',' raw.toList, ∃ values,
          Labelled segment Key.paramSize.letter values) ∧
        SizeMinusOne (splitOn ',' raw.toList)) := by
  rw [isUnset_iff]
  constructor
  · intro hlacks
    by_cases hraw : raw = ""
    · exact .inl hraw
    have hsizes : ∀ segment ∈ splitOn ',' raw.toList, ∃ values,
        Labelled segment Key.paramSize.letter values := by
      intro segment hmem
      obtain ⟨key, values, hwell⟩ := (exists_query_iff hraw).mp ⟨q, h⟩ segment hmem
      rcases (lacks_iff h key).mp (hlacks key) with hnone | ⟨rfl, -⟩
      · exact absurd hwell.labelled (hnone segment hmem values)
      · exact ⟨values, hwell.labelled⟩
    -- There is a first segment, so that a size is asked for.
    obtain ⟨segment, hmem⟩ := List.exists_mem_of_ne_nil _ (splitOn_ne_nil ',' raw.toList)
    obtain ⟨values, hsize⟩ := hsizes segment hmem
    rcases (lacks_iff h .paramSize).mp (hlacks .paramSize) with hnone | ⟨-, hminus⟩
    · exact absurd hsize (hnone segment hmem values)
    · exact .inr ⟨hsizes, hminus⟩
  · rintro (rfl | ⟨hsizes, hminus⟩) key
    · exact (lacks_iff h key).mpr (.inl (ungiven_empty key))
    · refine (lacks_iff h key).mpr ?_
      by_cases hkey : key = .paramSize
      · exact .inr ⟨hkey, hminus⟩
      · refine .inl fun segment hmem values hlabelled => hkey ?_
        obtain ⟨values', hsize⟩ := hsizes segment hmem
        exact Key.letter_injective (hlabelled.unique hsize).1

/-- **What is asked for is not mistaken for nothing, but for a size of minus one.** The field of a
key differs from an unset one if and only if a segment has the key, except that minus one as the
last size is what an unset size is, too. Fields of other entities stay unset. So a query looks unset
only if its text is empty, or if it asks for nothing but sizes and for minus one at last. -/
theorem fields_differ_but_for_minus_one (h : AdvancedQuery.parse entity raw = .ok q) :
    ∃ segments, Pieces ',' raw.toList segments ∧
      (∀ key, q.Lacks key ↔
        Ungiven segments key ∨ (key = .paramSize ∧ SizeMinusOne segments)) ∧
      (∀ key, key ∉ entity.keys → q.Lacks key) ∧
      (q.isUnset = true ↔ raw = "" ∨
        ((∀ segment ∈ segments, ∃ values, Labelled segment Key.paramSize.letter values) ∧
          SizeMinusOne segments)) :=
  ⟨splitOn ',' raw.toList, pieces_iff.mpr rfl, lacks_iff h, fun _ => lacks_of_notMem h,
    isUnset_iff_of_parse h⟩

/-- A size of minus one beside a modifier looks unset, and the query as a whole does not. -/
theorem minus_one_beside_modifier :
    AdvancedQuery.parse .methods "f:public,q:-1" = .ok { modifiers := 1 } ∧
      ({ modifiers := 1 } : AdvancedQuery).Lacks .paramSize ∧
      ({ modifiers := 1 } : AdvancedQuery).isUnset ≠ true := by
  have hparse : AdvancedQuery.parse .methods "f:public,q:-1" = .ok { modifiers := 1 } := by decide
  obtain ⟨segments, hpieces, hlacks, -, hunset⟩ := fields_differ_but_for_minus_one hparse
  have hsegments : segments = ["f:public".toList, "q:-1".toList] := by
    rw [pieces_iff.mp hpieces]
    decide
  subst hsegments
  have hflags : Labelled "f:public".toList Key.flags.letter ["public"] :=
    labelled_iff.mpr ⟨['f'], "public".toList, by decide, rfl, by decide⟩
  have hsize : Labelled "q:-1".toList Key.paramSize.letter ["-1"] :=
    labelled_iff.mpr ⟨['q'], "-1".toList, by decide, rfl, by decide⟩
  have hminus : SizeMinusOne ["f:public".toList, "q:-1".toList] :=
    ⟨["-1"], ⟨["f:public".toList], _, [], rfl, hsize, by simp [Ungiven]⟩, "-1", rfl,
      signed?_eq_some.mp (by decide)⟩
  refine ⟨hparse, (hlacks _).mpr (.inr ⟨rfl, hminus⟩), mt hunset.mp ?_⟩
  rintro (hempty | ⟨hsizes, -⟩)
  · exact absurd hempty (by decide)
  · obtain ⟨values, hlabelled⟩ := hsizes _ List.mem_cons_self
    exact absurd (hflags.unique hlabelled).1 (by decide)

/-- A size of minus one alone makes a query that looks unset. -/
theorem minus_one_alone_looks_unset :
    AdvancedQuery.parse .methods "q:-1" = .ok {} ∧ ({} : AdvancedQuery).isUnset = true ∧
      ¬ Ungiven (splitOn ',' "q:-1".toList) .paramSize := by
  have hsize : Labelled "q:-1".toList Key.paramSize.letter ["-1"] :=
    labelled_iff.mpr ⟨['q'], "-1".toList, by decide, rfl, by decide⟩
  exact ⟨by decide, by decide, fun hnone => hnone _ (by decide) _ hsize⟩

/-! ### The order of segments -/

/-- Two segments have no letter in common. -/
def DifferentKeys (segment segment' : List Char) : Prop :=
  ∀ letter values values', Labelled segment letter values → ¬ Labelled segment' letter values'

theorem Labelled.differentKeys {segment' : List Char} {letter letter' : Char}
    {values' : List String} (h : Labelled segment letter values) (h' : Labelled segment' letter' values')
    (hletter : letter ≠ letter') : DifferentKeys segment segment' := by
  intro common _ _ hcommon hcommon'
  exact hletter ((h.unique hcommon).1.trans (h'.unique hcommon').1.symm)

theorem DifferentKeys.symm {segment segment' : List Char} (h : DifferentKeys segment segment') :
    DifferentKeys segment' segment :=
  fun letter values values' hlabelled hlabelled' => h letter values' values hlabelled' hlabelled

/-- Where keys are given once, any segment of a key is the last one. -/
theorem given_iff_of_pairwise (h : segments.Pairwise DifferentKeys) :
    Given segments key values ↔ ∃ segment ∈ segments, Labelled segment key.letter values := by
  induction segments with
  | nil => exact iff_of_false (fun hgiven => hgiven.not_ungiven (by simp [Ungiven])) (by simp)
  | cons segment segments ih =>
      obtain ⟨hother, hrest⟩ := List.pairwise_cons.mp h
      rw [given_cons, ih hrest, List.exists_mem_cons_iff]
      refine or_congr_left (and_iff_left_of_imp fun hlabelled => ?_)
      intro segment' hmem values'
      exact hother segment' hmem _ _ _ hlabelled

theorem ungiven_perm (h : segments'.Perm segments) :
    Ungiven segments' key ↔ Ungiven segments key :=
  ⟨fun hnone segment hmem => hnone segment (h.mem_iff.mpr hmem),
    fun hnone segment hmem => hnone segment (h.mem_iff.mp hmem)⟩

theorem given_perm (h : segments'.Perm segments) (hdifferent : segments.Pairwise DifferentKeys) :
    Given segments' key values ↔ Given segments key values := by
  have hdifferent' : segments'.Pairwise DifferentKeys :=
    (h.pairwise_iff DifferentKeys.symm).mpr hdifferent
  rw [given_iff_of_pairwise hdifferent', given_iff_of_pairwise hdifferent]
  simp only [h.mem_iff]

/-- The fields of a query are fixed by what its segments give. -/
theorem eq_of_given {raw' : String} (h : AdvancedQuery.parse entity raw = .ok q)
    (h' : AdvancedQuery.parse entity raw' = .ok q')
    (hnone : ∀ key, Ungiven (splitOn ',' raw'.toList) key ↔ Ungiven (splitOn ',' raw.toList) key)
    (hgiven : ∀ key values, Given (splitOn ',' raw'.toList) key values ↔
      Given (splitOn ',' raw.toList) key values) : q' = q := by
  refine eq_of_sameAt fun key => ?_
  rcases fields_of_parse h key with ⟨hkey, hlacks⟩ | ⟨values, hkey, hholds⟩
  · rcases fields_of_parse h' key with ⟨-, hlacks'⟩ | ⟨values', hkey', -⟩
    · exact sameAt_of_lacks hlacks' hlacks
    · exact absurd hkey ((hgiven key values').mp hkey').not_ungiven
  · rcases fields_of_parse h' key with ⟨hkey', -⟩ | ⟨values', hkey', hholds'⟩
    · exact absurd ((hnone key).mp hkey') hkey.not_ungiven
    · obtain rfl := hkey.unique ((hgiven key values').mp hkey')
      exact sameAt_of_holds hholds' hholds

/-- Segments with different keys can be put in any order. -/
theorem parse_of_perm (h : AdvancedQuery.parse entity raw = .ok q)
    (hpieces : Pieces ',' raw.toList segments) (hdifferent : segments.Pairwise DifferentKeys)
    (hperm : segments'.Perm segments) :
    AdvancedQuery.parse entity (String.ofList ([','].intercalate segments')) = .ok q := by
  have hpieces' : Pieces ',' (String.ofList ([','].intercalate segments')).toList segments' := by
    refine ⟨String.toList_ofList.symm, fun segment hmem => ?_, ?_⟩
    · exact hpieces.plain segment (hperm.mem_iff.mp hmem)
    · rintro rfl
      exact hpieces.ne_nil hperm.symm.eq_nil
  generalize String.ofList ([','].intercalate segments') = raw' at hpieces'
  have hraw' : ∃ q', AdvancedQuery.parse entity raw' = .ok q' := by
    by_cases hraw' : raw' = ""
    · exact ⟨{}, hraw' ▸ rfl⟩
    refine (exists_query_iff hraw').mpr fun segment hmem => ?_
    rw [← pieces_iff.mp hpieces', hperm.mem_iff, pieces_iff.mp hpieces] at hmem
    refine (exists_query_iff ?_).mp ⟨q, h⟩ segment hmem
    -- The other text is empty if the one is, because both have the one empty segment then.
    rintro rfl
    obtain rfl : segments = [[]] := pieces_iff.mp hpieces
    obtain rfl := List.perm_singleton.mp hperm
    exact hraw' (String.toList_eq_nil_iff.mp hpieces'.joined.symm)
  obtain ⟨q', h'⟩ := hraw'
  rw [h', eq_of_given h h']
  · intro key
    rw [← pieces_iff.mp hpieces', ← pieces_iff.mp hpieces, ungiven_perm hperm]
  · intro key values
    rw [← pieces_iff.mp hpieces', ← pieces_iff.mp hpieces, given_perm hperm hdifferent]

/-- **Order does not matter.** Segments with different keys can be put in any order, and the names
of modifiers in any order, number and case: the query and the mask stay the same. A mask of names is
made up of bits of the table. A name that is none makes the first such name the error. -/
theorem order_does_not_matter :
    (∀ entity raw q segments segments', AdvancedQuery.parse entity raw = .ok q →
      Pieces ',' raw.toList segments → segments.Pairwise DifferentKeys → segments'.Perm segments →
      AdvancedQuery.parse entity (String.ofList ([','].intercalate segments')) = .ok q) ∧
    (∀ names mask, modifierMask names = .ok mask →
      (∀ names', SameNames names names' → modifierMask names' = .ok mask) ∧
      (∃ bits, List.Forall₂ HasBit names bits ∧ mask = union bits) ∧ (names ≠ [] → mask ≠ 0)) ∧
    ∀ before name after, ¬ IsModifier name →
      ∃ passed first rest, before ++ name :: after = passed ++ first :: rest ∧
        (∀ n ∈ passed, IsModifier n) ∧ ¬ IsModifier first ∧
        modifierMask (before ++ name :: after) = .error (.unknownModifier first) := by
  refine ⟨fun entity raw q segments segments' => parse_of_perm, fun names mask hmask => ?_,
    fun before name after hname => ?_⟩
  · exact ⟨fun names' => modifierMask_of_sameNames hmask, modifierMask_eq_ok.mp hmask,
      modifierMask_ne_zero hmask⟩
  · cases hmask : modifierMask (before ++ name :: after) with
    | ok mask => exact absurd (exists_modifierMask.mp ⟨mask, hmask⟩ name (by simp)) hname
    | error e =>
        obtain ⟨passed, first, rest, hnames, hpassed, hfirst, rfl⟩ := modifierMask_eq_error.mp hmask
        exact ⟨passed, first, rest, hnames, hpassed, hfirst, rfl⟩

/-- Two segments and two modifiers the other way round, and an unknown modifier behind them. -/
theorem segments_and_modifiers_reversed :
    AdvancedQuery.parse .classes "i:,f:static+public" =
        .ok { modifiers := 9, interfaces := some [] } ∧
      modifierMask ["Public", "static", "STATIC"] = .ok 9 ∧
      modifierMask ["static", "public", "sealed"] = .error (.unknownModifier "sealed") := by
  obtain ⟨hsegments, hnames, hunknown⟩ := order_does_not_matter
  refine ⟨?_, ?_, ?_⟩
  · have hflags : Labelled "f:static+public".toList 'f' ["static", "public"] :=
      labelled_iff.mpr ⟨['f'], "static+public".toList, by decide, rfl, by decide⟩
    have hinterfaces : Labelled "i:".toList 'i' [] :=
      labelled_iff.mpr ⟨['i'], [], by decide, rfl, by decide⟩
    exact hsegments .classes "f:static+public,i:" _ ["f:static+public".toList, "i:".toList]
      ["i:".toList, "f:static+public".toList] (by decide) (pieces_iff.mpr (by decide))
      (List.pairwise_pair.mpr (hflags.differentKeys hinterfaces (by decide)))
      (List.Perm.swap _ _ _)
  · exact (hnames ["static", "public"] 9 (by decide)).1 _ (by decide)
  · obtain ⟨passed, first, rest, hsplit, -, hfirst, herror⟩ :=
      hunknown ["static", "public"] "sealed" [] (by decide)
    have hmem : first ∈ ["static", "public", "sealed"] := by
      have hpart : first ∈ passed ++ first :: rest := by simp
      rwa [← hsplit] at hpart
    have hothers : ∀ name ∈ ["static", "public", "sealed"],
        ¬ IsModifier name → name = "sealed" := by decide
    obtain rfl := hothers first hmem hfirst
    exact herror

end ArchiveScout.Query
