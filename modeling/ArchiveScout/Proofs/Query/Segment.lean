import ArchiveScout.Proofs.Number.Numeral
import ArchiveScout.Proofs.Query.Modifiers

/-!
# ArchiveScout.Proofs.Query.Segment

**One segment of an advanced query.** A segment is well formed, or it has exactly one fault: the
first one in the order in which the parts of a segment are looked at. A well-formed segment sets
the field of its key from its values, and no other field.
-/

namespace ArchiveScout.Query

open ArchiveScout.Number (SignedNumeral integer?_eq_some signed? fitsSigned)
open ArchiveScout.Text (cutFirst cutFirst_eq_some cutFirst_eq_none cutFirst_append isBlank trim
  Pieces pieces_iff)

variable {entity : Entity} {segment : List Char} {letter : Char} {key : Key} {name : String}
  {values : List String} {criterion : Criterion} {q q' : AdvancedQuery} {e : QueryError}

/-! ### The parts of a segment -/

/-- A segment has a letter right in front of its first colon, and values behind that: what stands
between plus signs, trimmed, without those of which nothing is left. -/
def Labelled (segment : List Char) (letter : Char) (values : List String) : Prop :=
  ∃ front text pieces, segment = front ++ letter :: ':' :: text ∧ ':' ∉ front ∧ letter ≠ ':' ∧
    Pieces '+' text pieces ∧
    values = ((pieces.map trim).filter (· ≠ [])).map String.ofList

theorem labelled_iff : Labelled segment letter values ↔ ∃ head text,
    cutFirst ':' segment = some (head, text) ∧ head.getLast? = some letter ∧
      values = valuesOf text := by
  constructor
  · rintro ⟨front, text, pieces, rfl, hfront, hletter, hpieces, rfl⟩
    refine ⟨front ++ [letter], text, ?_, List.getLast?_concat, by rw [pieces_iff.mp hpieces]; rfl⟩
    have hhead : ':' ∉ front ++ [letter] := by simp [hfront, hletter.symm]
    rw [← cutFirst_append hhead text]
    simp
  · rintro ⟨head, text, hcut, hlast, rfl⟩
    obtain ⟨rfl, hhead⟩ := cutFirst_eq_some hcut
    obtain ⟨front, rfl⟩ : ∃ front, head = front ++ [letter] :=
      ⟨head.dropLast, (List.dropLast_append_getLast? letter hlast).symm⟩
    rw [List.mem_append, not_or, List.mem_singleton] at hhead
    exact ⟨front, text, _, by simp, hhead.1, Ne.symm hhead.2, pieces_iff.mpr rfl, rfl⟩

theorem Labelled.unique {letter' : Char} {values' : List String}
    (h : Labelled segment letter values) (h' : Labelled segment letter' values') :
    letter = letter' ∧ values = values' := by
  obtain ⟨head, text, hcut, hlast, rfl⟩ := labelled_iff.mp h
  obtain ⟨head', text', hcut', hlast', rfl⟩ := labelled_iff.mp h'
  obtain ⟨rfl, rfl⟩ := Prod.mk.inj (Option.some.inj (hcut.symm.trans hcut'))
  exact ⟨Option.some.inj (hlast.symm.trans hlast'), rfl⟩

theorem Key.letter_injective {key key' : Key} (h : key.letter = key'.letter) : key = key' := by
  cases key <;> cases key' <;> first | rfl | exact absurd h (by decide)

theorem isBlank_letter (key : Key) : isBlank key.letter = false := by
  cases key <;> decide

theorem key?_eq_some : entity.key? letter = some key ↔ key ∈ entity.keys ∧ key.letter = letter := by
  rw [Entity.key?]
  constructor
  · intro h
    have hletter := List.find?_some (p := fun key' : Key => key'.letter == letter) h
    exact ⟨List.mem_of_find?_eq_some h, beq_iff_eq.mp hletter⟩
  · rintro ⟨hkey, rfl⟩
    cases hfound : entity.keys.find? fun key' => key'.letter == key.letter with
    | none => exact absurd (beq_self_eq_true _) (List.find?_eq_none.mp hfound key hkey)
    | some key' =>
        have hletter := List.find?_some (p := fun key' : Key => key'.letter == key.letter) hfound
        rw [Key.letter_injective (beq_iff_eq.mp hletter)]

theorem key?_eq_none :
    entity.key? letter = none ↔ ∀ key ∈ entity.keys, key.letter ≠ letter := by
  rw [Option.eq_none_iff_forall_ne_some]
  simp only [ne_eq, key?_eq_some, not_and]

/-- The keys that may go without a value are two. -/
theorem allowsEmpty_iff : key.allowsEmpty = true ↔ key = .interfaces ∨ key = .params := by
  cases key <;> decide

/-- A text is a count if it is an integer of 32 bits in base ten. -/
def IsCount (text : String) (count : Int) : Prop :=
  ∃ n : SignedNumeral 10, text.toList = n.text ∧ n.value = count ∧ -2 ^ 31 ≤ count ∧ count < 2 ^ 31

theorem signed?_eq_some {count : Int} :
    signed? 32 10 name.toList = some count ↔ IsCount name count := by
  have hfits : fitsSigned 32 count = true ↔ -2 ^ 31 ≤ count ∧ count < 2 ^ 31 := by
    rw [fitsSigned, Bool.and_eq_true, decide_eq_true_iff, decide_eq_true_iff, and_comm]
    norm_num
  rw [signed?, Option.filter_eq_some_iff, integer?_eq_some (by decide), hfits, IsCount]
  constructor
  · rintro ⟨⟨n, htext, rfl⟩, hrange⟩
    exact ⟨n, htext, rfl, hrange⟩
  · rintro ⟨n, htext, rfl, hrange⟩
    exact ⟨⟨n, htext, rfl⟩, hrange⟩

theorem IsCount.unique {count count' : Int} (h : IsCount name count) (h' : IsCount name count') :
    count = count' :=
  Option.some.inj ((signed?_eq_some.mpr h).symm.trans (signed?_eq_some.mpr h'))

/-! ### Well-formed and faulty segments -/

/-- A segment that can be read, with its key and values. -/
structure WellFormed (entity : Entity) (segment : List Char) (key : Key) (values : List String) :
    Prop where
  labelled : Labelled segment key.letter values
  known : key ∈ entity.keys
  filled : values = [] → key = .interfaces ∨ key = .params
  modifiers : key = .flags → ∀ name ∈ values, IsModifier name
  count : key = .paramSize → ∃ first ∈ values.head?, ∃ count, IsCount first count

theorem WellFormed.unique {key' : Key} {values' : List String}
    (h : WellFormed entity segment key values) (h' : Labelled segment key'.letter values') :
    key = key' ∧ values = values' := by
  obtain ⟨hletter, hvalues⟩ := h.labelled.unique h'
  exact ⟨Key.letter_injective hletter, hvalues⟩

/-- What is wrong with a segment; each fault is one of a segment that passes for those before. -/
inductive Fault (entity : Entity) (segment : List Char) : QueryError → Prop
  /-- There is no colon. -/
  | missingDelimiter (h : ':' ∉ segment) :
      Fault entity segment (.missingDelimiter (String.ofList segment))
  /-- There is no letter in front of the first colon, or a blank. -/
  | invalidKey {front text : List Char} (hsegment : segment = front ++ ':' :: text)
      (hfront : ':' ∉ front) (hblank : ∀ letter ∈ front.getLast?, isBlank letter = true) :
      Fault entity segment (.invalidKey (String.ofList segment))
  /-- The letter is none of the keys. -/
  | keyNotAllowed {letter : Char} {values : List String} (h : Labelled segment letter values)
      (hblank : isBlank letter = false) (hletter : ∀ key ∈ entity.keys, key.letter ≠ letter) :
      Fault entity segment (.keyNotAllowed letter entity)
  /-- There are no values for a key that needs one. -/
  | missingValue {key : Key} (h : Labelled segment key.letter []) (hkey : key ∈ entity.keys)
      (hneeds : key ≠ .interfaces ∧ key ≠ .params) :
      Fault entity segment (.missingValue key.letter)
  /-- A name is no modifier; it is the first such. -/
  | unknownModifier {before after : List String} {name : String}
      (h : Labelled segment Key.flags.letter (before ++ name :: after))
      (hkey : .flags ∈ entity.keys) (hbefore : ∀ n ∈ before, IsModifier n)
      (hname : ¬ IsModifier name) : Fault entity segment (.unknownModifier name)
  /-- The first value is no count. -/
  | invalidParamSize {first : String} {rest : List String}
      (h : Labelled segment Key.paramSize.letter (first :: rest)) (hkey : .paramSize ∈ entity.keys)
      (hcount : ∀ count, ¬ IsCount first count) :
      Fault entity segment (.invalidParamSize first)

/-- A segment has a letter for its key, or no key can be seen in it. -/
theorem labelled_or_fault (entity : Entity) (segment : List Char) :
    (∃ letter values, Labelled segment letter values ∧ isBlank letter = false) ∨
      ∃ e, Fault entity segment e := by
  cases hcut : cutFirst ':' segment with
  | none => exact .inr ⟨_, .missingDelimiter (cutFirst_eq_none.mp hcut)⟩
  | some parts =>
      obtain ⟨head, text⟩ := parts
      obtain ⟨hsegment, hhead⟩ := cutFirst_eq_some hcut
      by_cases hblank : ∀ letter ∈ head.getLast?, isBlank letter = true
      · exact .inr ⟨_, .invalidKey hsegment hhead hblank⟩
      · push Not at hblank
        obtain ⟨letter, hlast, hblank⟩ := hblank
        exact .inl ⟨letter, valuesOf text, labelled_iff.mpr ⟨head, text, hcut, hlast, rfl⟩,
          by simpa using hblank⟩

/-- The letter of a segment is that of a key with enough values, or it is to blame. -/
theorem keyed_or_fault (entity : Entity) (h : Labelled segment letter values)
    (hblank : isBlank letter = false) :
    (∃ key ∈ entity.keys, key.letter = letter ∧
      (values = [] → key = .interfaces ∨ key = .params)) ∨ ∃ e, Fault entity segment e := by
  cases hkey : entity.key? letter with
  | none => exact .inr ⟨_, .keyNotAllowed h hblank (key?_eq_none.mp hkey)⟩
  | some key =>
      obtain ⟨hknown, rfl⟩ := key?_eq_some.mp hkey
      by_cases hneeds : values = [] ∧ key ≠ .interfaces ∧ key ≠ .params
      · obtain ⟨rfl, hneeds⟩ := hneeds
        exact .inr ⟨_, .missingValue h hknown hneeds⟩
      · refine .inl ⟨key, hknown, rfl, fun hnone => ?_⟩
        by_contra hno
        exact hneeds ⟨hnone, not_or.mp hno⟩

/-- The values of a key can be read, or one of them is to blame. -/
theorem wellFormed_or_fault_of_keyed (h : Labelled segment key.letter values)
    (hknown : key ∈ entity.keys) (hfilled : values = [] → key = .interfaces ∨ key = .params) :
    WellFormed entity segment key values ∨ ∃ e, Fault entity segment e := by
  by_cases hflags : key = .flags
  · subst hflags
    cases hmask : modifierMask values with
    | ok mask =>
        exact .inl ⟨h, hknown, hfilled, fun _ => exists_modifierMask.mp ⟨mask, hmask⟩, by simp⟩
    | error e =>
        obtain ⟨before, name, after, rfl, hbefore, hname, rfl⟩ := modifierMask_eq_error.mp hmask
        exact .inr ⟨_, .unknownModifier h hknown hbefore hname⟩
  by_cases hsize : key = .paramSize
  · subst hsize
    cases values with
    | nil => exact absurd (hfilled rfl) (by simp)
    | cons first rest =>
        by_cases hcount : ∃ count, IsCount first count
        · exact .inl ⟨h, hknown, hfilled, by simp, fun _ => ⟨first, rfl, hcount⟩⟩
        · exact .inr ⟨_, .invalidParamSize h hknown (not_exists.mp hcount)⟩
  exact .inl ⟨h, hknown, hfilled, fun hkey => absurd hkey hflags, fun hkey => absurd hkey hsize⟩

/-- A segment can be read, or something is wrong with it. -/
theorem wellFormed_or_fault (entity : Entity) (segment : List Char) :
    (∃ key values, WellFormed entity segment key values) ∨ ∃ e, Fault entity segment e := by
  rcases labelled_or_fault entity segment with ⟨letter, values, hlabelled, hblank⟩ | hfault
  · rcases keyed_or_fault entity hlabelled hblank with ⟨key, hknown, rfl, hfilled⟩ | hfault
    · rcases wellFormed_or_fault_of_keyed hlabelled hknown hfilled with hwell | hfault
      · exact .inl ⟨key, values, hwell⟩
      · exact .inr hfault
    · exact .inr hfault
  · exact .inr hfault

/-- A segment that is refused for its key has no letter that is one. -/
theorem Fault.not_labelled {text : String} (h : Fault entity segment (.invalidKey text)) :
    text = String.ofList segment ∧ ∀ (key : Key) values, ¬ Labelled segment key.letter values := by
  cases h with
  | invalidKey hsegment hfront hblank =>
      refine ⟨rfl, ?_⟩
      intro key values hlabelled
      obtain ⟨head, after, hcut, hlast, -⟩ := labelled_iff.mp hlabelled
      rw [hsegment, cutFirst_append hfront] at hcut
      obtain ⟨rfl, -⟩ := Prod.mk.inj (Option.some.inj hcut)
      exact absurd (hblank _ hlast) (by rw [isBlank_letter]; decide)

/-! ### What a segment sets -/

/-- The field of a key is as it is without any segment. -/
def AdvancedQuery.Lacks (q : AdvancedQuery) : Key → Prop
  | .flags => q.modifiers = -1
  | .super => q.superClass = none
  | .interfaces => q.interfaces = none
  | .annotations => q.annotations = []
  | .methods => q.methodNames = []
  | .params => q.methodParams = none
  | .paramSize => q.paramSize = -1
  | .return => q.methodReturn = none

/-- The field of a key is as values for it say: the mask of all modifiers, the first value of a key
that has one, or all values. -/
def AdvancedQuery.Holds (q : AdvancedQuery) (values : List String) : Key → Prop
  | .flags => ∃ bits, List.Forall₂ HasBit values bits ∧ q.modifiers = union bits
  | .super => ∃ first ∈ values.head?, q.superClass = some first
  | .interfaces => q.interfaces = some values
  | .annotations => q.annotations = values
  | .methods => q.methodNames = values
  | .params => q.methodParams = some values
  | .paramSize => ∃ first ∈ values.head?, IsCount first q.paramSize
  | .return => ∃ first ∈ values.head?, q.methodReturn = some first

/-- The key whose field a criterion sets. -/
def Criterion.target : Criterion → Key
  | .modifiers _ => .flags
  | .superClass _ => .super
  | .interfaces _ => .interfaces
  | .annotations _ => .annotations
  | .methodNames _ => .methods
  | .methodParams _ => .params
  | .methodReturn _ => .return
  | .paramSize _ => .paramSize

theorem lacks_apply (h : criterion.target ≠ key) : (q.apply criterion).Lacks key ↔ q.Lacks key := by
  cases criterion <;> cases key <;> first | exact Iff.rfl | exact absurd rfl h

theorem holds_apply (h : criterion.target ≠ key) :
    (q.apply criterion).Holds values key ↔ q.Holds values key := by
  cases criterion <;> cases key <;> first | exact Iff.rfl | exact absurd rfl h

theorem lacks_empty (key : Key) : ({} : AdvancedQuery).Lacks key := by
  cases key <;> rfl

/-- Two queries have the same field of a key. -/
def AdvancedQuery.SameAt (q q' : AdvancedQuery) : Key → Prop
  | .flags => q.modifiers = q'.modifiers
  | .super => q.superClass = q'.superClass
  | .interfaces => q.interfaces = q'.interfaces
  | .annotations => q.annotations = q'.annotations
  | .methods => q.methodNames = q'.methodNames
  | .params => q.methodParams = q'.methodParams
  | .paramSize => q.paramSize = q'.paramSize
  | .return => q.methodReturn = q'.methodReturn

/-- The fields of all keys make up a query. -/
theorem eq_of_sameAt (h : ∀ key, q.SameAt q' key) : q = q' := by
  cases q
  cases q'
  simp only [AdvancedQuery.mk.injEq]
  exact ⟨h .flags, h .super, h .interfaces, h .annotations, h .methods, h .params, h .return,
    h .paramSize⟩

theorem sameAt_of_lacks (h : q.Lacks key) (h' : q'.Lacks key) : q.SameAt q' key := by
  cases key <;> exact Eq.trans h (Eq.symm h')

/-- Values say all about the field that holds them. -/
theorem sameAt_of_holds (h : q.Holds values key) (h' : q'.Holds values key) : q.SameAt q' key := by
  cases key with
  | flags =>
      obtain ⟨bits, hbits, hq⟩ := h
      obtain ⟨bits', hbits', hq'⟩ := h'
      have hmask := modifierMask_eq_ok.mpr ⟨bits, hbits, rfl⟩
      have hmask' := modifierMask_eq_ok.mpr ⟨bits', hbits', rfl⟩
      show q.modifiers = q'.modifiers
      rw [hq, hq', Except.ok.inj (hmask.symm.trans hmask')]
  | interfaces => exact Eq.trans h (Eq.symm h')
  | annotations => exact Eq.trans h (Eq.symm h')
  | methods => exact Eq.trans h (Eq.symm h')
  | params => exact Eq.trans h (Eq.symm h')
  | super =>
      obtain ⟨first, hfirst, hq⟩ := h
      obtain ⟨first', hfirst', hq'⟩ := h'
      exact hq.trans ((hfirst.symm.trans hfirst').trans hq'.symm)
  | «return» =>
      obtain ⟨first, hfirst, hq⟩ := h
      obtain ⟨first', hfirst', hq'⟩ := h'
      exact hq.trans ((hfirst.symm.trans hfirst').trans hq'.symm)
  | paramSize =>
      obtain ⟨first, hfirst, hq⟩ := h
      obtain ⟨first', hfirst', hq'⟩ := h'
      obtain rfl := Option.some.inj (hfirst.symm.trans hfirst')
      exact hq.unique hq'

/-- A query asks nothing if no field of it has been set. -/
theorem isUnset_iff : q.isUnset = true ↔ ∀ key, q.Lacks key := by
  rw [AdvancedQuery.isUnset, decide_eq_true_iff]
  constructor
  · rintro rfl key
    exact lacks_empty key
  · intro h
    exact eq_of_sameAt fun key => sameAt_of_lacks (h key) (lacks_empty key)

/-- Values of a well-formed segment cannot be mistaken for none, but for the size of minus one. -/
theorem WellFormed.lacks_iff (h : WellFormed entity segment key values)
    (hholds : q.Holds values key) :
    q.Lacks key ↔ key = .paramSize ∧ ∃ first ∈ values.head?, IsCount first (-1) := by
  cases key with
  | flags =>
      obtain ⟨bits, -, hq⟩ := hholds
      refine iff_of_false (fun hlacks => ?_) (by simp)
      have hq : (union bits : Int) = -1 := hq.symm.trans hlacks
      omega
  | super =>
      obtain ⟨first, -, hq⟩ := hholds
      exact iff_of_false (fun hlacks => absurd (hq.symm.trans hlacks) (by simp)) (by simp)
  | «return» =>
      obtain ⟨first, -, hq⟩ := hholds
      exact iff_of_false (fun hlacks => absurd (hq.symm.trans hlacks) (by simp)) (by simp)
  | interfaces =>
      exact iff_of_false (fun hlacks => absurd (hholds.symm.trans hlacks) (by simp)) (by simp)
  | params =>
      exact iff_of_false (fun hlacks => absurd (hholds.symm.trans hlacks) (by simp)) (by simp)
  | annotations =>
      refine iff_of_false (fun hlacks => ?_) (by simp)
      exact absurd (h.filled (hholds.symm.trans hlacks)) (by simp)
  | methods =>
      refine iff_of_false (fun hlacks => ?_) (by simp)
      exact absurd (h.filled (hholds.symm.trans hlacks)) (by simp)
  | paramSize =>
      obtain ⟨first, hfirst, hcount⟩ := hholds
      constructor
      · intro hlacks
        have hsize : q.paramSize = -1 := hlacks
        exact ⟨rfl, first, hfirst, hsize ▸ hcount⟩
      · rintro ⟨-, first', hfirst', hcount'⟩
        obtain rfl := Option.some.inj (hfirst.symm.trans hfirst')
        exact hcount.unique hcount'

/-- What a key sets is what its values say. -/
theorem WellFormed.exists_criterion (h : WellFormed entity segment key values) :
    ∃ c, key.criterion values = .ok c ∧ c.target = key ∧
      ∀ q : AdvancedQuery, (q.apply c).Holds values key := by
  obtain ⟨-, -, hfilled, hmodifiers, hcount⟩ := h
  cases key with
  | flags =>
      obtain ⟨mask, hmask⟩ := exists_modifierMask.mpr (hmodifiers rfl)
      obtain ⟨bits, hbits, rfl⟩ := modifierMask_eq_ok.mp hmask
      exact ⟨_, bind_eq_ok.mpr ⟨_, hmask, rfl⟩, rfl, fun q => ⟨bits, hbits, rfl⟩⟩
  | super =>
      cases values with
      | nil => exact absurd (hfilled rfl) (by simp)
      | cons first rest => exact ⟨_, rfl, rfl, fun q => ⟨first, rfl, rfl⟩⟩
  | interfaces => exact ⟨_, rfl, rfl, fun q => rfl⟩
  | annotations => exact ⟨_, rfl, rfl, fun q => rfl⟩
  | methods => exact ⟨_, rfl, rfl, fun q => rfl⟩
  | params => exact ⟨_, rfl, rfl, fun q => rfl⟩
  | paramSize =>
      obtain ⟨first, hfirst, count, hread⟩ := hcount rfl
      cases values with
      | nil => exact absurd hfirst (by simp)
      | cons head rest =>
          obtain rfl := Option.some.inj hfirst
          refine ⟨.paramSize count, ?_, rfl, fun q => ⟨head, rfl, hread⟩⟩
          simp only [Key.criterion, signed?_eq_some.mpr hread]
  | «return» =>
      cases values with
      | nil => exact absurd (hfilled rfl) (by simp)
      | cons first rest => exact ⟨_, rfl, rfl, fun q => ⟨first, rfl, rfl⟩⟩

/-! ### Reading a segment -/

theorem divide_of_labelled (h : Labelled segment letter values) (hblank : isBlank letter = false) :
    ∃ text, divide segment = .ok (letter, text) ∧ values = valuesOf text := by
  obtain ⟨head, text, hcut, hlast, rfl⟩ := labelled_iff.mp h
  refine ⟨text, ?_, rfl⟩
  rw [divide, hcut]
  simp only [hlast, hblank]
  rfl

/-- Reading a segment with a key goes on with its values. -/
theorem parse_of_labelled (h : Labelled segment key.letter values) (hkey : key ∈ entity.keys) :
    Criterion.parse entity segment =
      if values = [] ∧ !key.allowsEmpty then .error (.missingValue key.letter)
      else key.criterion values := by
  obtain ⟨text, hdivide, rfl⟩ := divide_of_labelled h (isBlank_letter key)
  have hknown : entity.key? key.letter = some key := key?_eq_some.mpr ⟨hkey, rfl⟩
  rw [Criterion.parse, hdivide]
  simp only [bind, Except.bind, hknown]

/-- A well-formed segment is read as a criterion for its key. -/
theorem WellFormed.parse (h : WellFormed entity segment key values) :
    ∃ c, Criterion.parse entity segment = .ok c ∧ c.target = key ∧
      ∀ q : AdvancedQuery, (q.apply c).Holds values key := by
  obtain ⟨c, hc, hkey, hholds⟩ := h.exists_criterion
  refine ⟨c, ?_, hkey, hholds⟩
  rw [parse_of_labelled h.labelled h.known, if_neg, hc]
  rintro ⟨hnone, hneeds⟩
  rw [allowsEmpty_iff.mpr (h.filled hnone)] at hneeds
  exact absurd hneeds (by decide)

/-- A faulty segment is refused for its fault. -/
theorem Fault.parse (h : Fault entity segment e) : Criterion.parse entity segment = .error e := by
  cases h with
  | missingDelimiter h =>
      rw [Criterion.parse, divide, cutFirst_eq_none.mpr h]
      rfl
  | @invalidKey front text hsegment hfront hblank =>
      have hcut := hsegment ▸ cutFirst_append hfront text
      rw [Criterion.parse, divide, hcut]
      cases hlast : front.getLast? with
      | none =>
          simp only [hlast]
          rfl
      | some letter =>
          simp only [hlast, hblank letter hlast]
          rfl
  | keyNotAllowed h hblank hletter =>
      obtain ⟨text, hdivide, -⟩ := divide_of_labelled h hblank
      rw [Criterion.parse, hdivide]
      simp only [bind, Except.bind, key?_eq_none.mpr hletter]
  | missingValue h hkey hneeds =>
      rw [parse_of_labelled h hkey, if_pos]
      refine ⟨rfl, ?_⟩
      rw [Bool.not_eq_true', ← Bool.not_eq_true, allowsEmpty_iff, not_or]
      exact hneeds
  | unknownModifier h hkey hbefore hname =>
      rw [parse_of_labelled h hkey, if_neg (by simp)]
      exact bind_eq_error.mpr (.inl (modifierMask_eq_error.mpr ⟨_, _, _, rfl, hbefore, hname, rfl⟩))
  | @invalidParamSize first rest h hkey hcount =>
      rw [parse_of_labelled h hkey, if_neg (by simp)]
      have hnone : signed? 32 10 first.toList = none :=
        Option.eq_none_iff_forall_ne_some.mpr fun count hsome =>
          hcount count (signed?_eq_some.mp hsome)
      simp only [Key.criterion, hnone]

/-- A segment is read if it is well formed. -/
theorem exists_parse_iff : (∃ c, Criterion.parse entity segment = .ok c) ↔
    ∃ key values, WellFormed entity segment key values := by
  constructor
  · rintro ⟨c, hc⟩
    refine (wellFormed_or_fault entity segment).resolve_right ?_
    rintro ⟨e, hfault⟩
    exact absurd (hc.symm.trans hfault.parse) (by simp)
  · rintro ⟨key, values, h⟩
    obtain ⟨c, hc, -⟩ := h.parse
    exact ⟨c, hc⟩

/-- What has been read of a segment is what its values say. -/
theorem exists_wellFormed_of_parse (h : Criterion.parse entity segment = .ok criterion) :
    ∃ values, WellFormed entity segment criterion.target values ∧
      ∀ q : AdvancedQuery, (q.apply criterion).Holds values criterion.target := by
  obtain ⟨key, values, hwell⟩ := exists_parse_iff.mp ⟨criterion, h⟩
  obtain ⟨c, hc, rfl, hholds⟩ := hwell.parse
  obtain rfl := Except.ok.inj (h.symm.trans hc)
  exact ⟨values, hwell, hholds⟩

/-- A segment is refused for the fault that it has. -/
theorem parse_eq_error : Criterion.parse entity segment = .error e ↔ Fault entity segment e := by
  constructor
  · intro h
    rcases wellFormed_or_fault entity segment with ⟨key, values, hwell⟩ | ⟨e', hfault⟩
    · obtain ⟨c, hc, -⟩ := hwell.parse
      exact absurd (hc.symm.trans h) (by simp)
    · rwa [← Except.error.inj (hfault.parse.symm.trans h)]
  · exact Fault.parse

end ArchiveScout.Query
