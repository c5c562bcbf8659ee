/-!
# ArchiveScout.Query.ReferenceTypes

**The sections of a class's reference pool**: strings, types, fields and methods. A
query names those that take part by letters, `a` for all of them.
-/

namespace ArchiveScout.Query

/-- The sections of a reference pool that take part. -/
structure ReferenceTypes where
  string : Bool := false
  type : Bool := false
  field : Bool := false
  method : Bool := false
deriving DecidableEq, Repr

namespace ReferenceTypes

/-- No section. -/
def none : ReferenceTypes := {}

/-- Every section. -/
def all : ReferenceTypes := ⟨true, true, true, true⟩

/-- The sections of either. -/
def union (a b : ReferenceTypes) : ReferenceTypes :=
  ⟨a.string || b.string, a.type || b.type, a.field || b.field, a.method || b.method⟩

/-- The sections that a letter stands for. -/
def ofLetter? (c : Char) : Option ReferenceTypes :=
  match c with
  | 'a' => some all
  | 's' => some { string := true }
  | 't' => some { type := true }
  | 'f' => some { field := true }
  | 'm' => some { method := true }
  | _ => Option.none

/-- Reads letters; the first one that stands for nothing is the error. -/
def parse : List Char → Except Char ReferenceTypes
  | [] => .ok none
  | c :: cs =>
    match ofLetter? c with
    | Option.none => .error c
    | some types => do return types.union (← parse cs)

/-- The wording for a letter that stands for nothing. -/
def unknownLetter (c : Char) : String := s!"Invalid reference type: {c}"

/-- The sections as a number: string 1, type 2, field 4, method 8. -/
def bits (t : ReferenceTypes) : Nat :=
  t.string.toNat + 2 * t.type.toNat + 4 * t.field.toNat + 8 * t.method.toNat

/-- Whether no section takes part. -/
def hasNone (t : ReferenceTypes) : Bool := t = none

/-- Whether every section takes part. -/
def hasAll (t : ReferenceTypes) : Bool := t = all

end ReferenceTypes

end ArchiveScout.Query
