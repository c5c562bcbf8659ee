import ArchiveScout.Number.Numeral
import ArchiveScout.Query.Error
import ArchiveScout.Text.Blank
import ArchiveScout.Text.Case
import ArchiveScout.Text.Split

/-!
# ArchiveScout.Query.Advanced

**Advanced queries**, such as `f:public+final,s:Base,i:Foo+Bar`. The text is a list
of segments between commas. A segment is a key, a colon and values between plus
signs; the key is the one character in front of the first colon. Classes know the
keys `f`, `s`, `i`, `a`, methods `f`, `m`, `p`, `q`, `r`, `a`.

Each segment is read by itself into a `Criterion`, and the criteria are applied from
left to right, so a later segment with the same key replaces an earlier one and the
first faulty segment decides the error.
-/

namespace ArchiveScout.Query

open ArchiveScout.Text (splitOn cutFirst trim isBlank upper)

/-- The modifiers that can be asked for, with their bits in a class file. -/
def modifierTable : List (String × Nat) :=
  [("PUBLIC", 0x0001), ("PROTECTED", 0x0004), ("PRIVATE", 0x0002),
    ("ABSTRACT", 0x0400), ("STATIC", 0x0008), ("FINAL", 0x0010),
    ("STRICT", 0x0800), ("NATIVE", 0x0100), ("SYNCHRONIZED", 0x0020)]

/-- The bit of a modifier, in any letter case. -/
def modifierBit? (name : String) : Option Nat :=
  modifierTable.lookup (String.ofList (upper name.toList))

/-- The bit of a modifier, or the error that names it. -/
def modifierBit (name : String) : Except QueryError Nat :=
  match modifierBit? name with
  | some bit => .ok bit
  | none => .error (.unknownModifier name)

/-- The bits of several modifiers together; the first unknown one is the error. -/
def modifierMask : List String → Except QueryError Nat
  | [] => .ok 0
  | name :: names => do
    let bit ← modifierBit name
    let rest ← modifierMask names
    return bit ||| rest

/-- An advanced query. `none` asks nothing; an empty list of interfaces or
parameters asks for entities that have none. -/
structure AdvancedQuery where
  modifiers : Int := -1
  superClass : Option String := none
  interfaces : Option (List String) := none
  annotations : List String := []
  methodNames : List String := []
  methodParams : Option (List String) := none
  methodReturn : Option String := none
  paramSize : Int := -1
deriving DecidableEq, Repr

/-- What one segment asks for. -/
inductive Criterion where
  | modifiers (mask : Nat)
  | superClass (name : String)
  | interfaces (names : List String)
  | annotations (names : List String)
  | methodNames (names : List String)
  | methodParams (types : List String)
  | methodReturn (type : String)
  | paramSize (count : Int)
deriving DecidableEq, Repr

/-- A criterion written into a query. -/
def AdvancedQuery.apply (q : AdvancedQuery) : Criterion → AdvancedQuery
  | .modifiers mask => { q with modifiers := mask }
  | .superClass name => { q with superClass := some name }
  | .interfaces names => { q with interfaces := some names }
  | .annotations names => { q with annotations := names }
  | .methodNames names => { q with methodNames := names }
  | .methodParams types => { q with methodParams := some types }
  | .methodReturn type => { q with methodReturn := some type }
  | .paramSize count => { q with paramSize := count }

/-- Whether the query asks nothing. -/
def AdvancedQuery.isUnset (q : AdvancedQuery) : Bool := q = {}

/-- The keys of a segment. -/
inductive Key where
  | flags
  | super
  | interfaces
  | annotations
  | methods
  | params
  | paramSize
  | return
deriving DecidableEq, Repr

/-- The letter of a key. -/
def Key.letter : Key → Char
  | .flags => 'f'
  | .super => 's'
  | .interfaces => 'i'
  | .annotations => 'a'
  | .methods => 'm'
  | .params => 'p'
  | .paramSize => 'q'
  | .return => 'r'

/-- The keys that an entity knows. -/
def Entity.keys : Entity → List Key
  | .classes => [.flags, .super, .interfaces, .annotations]
  | .methods => [.flags, .methods, .params, .paramSize, .return, .annotations]

/-- The key that a letter stands for, if the entity knows it. -/
def Entity.key? (entity : Entity) (letter : Char) : Option Key :=
  entity.keys.find? fun key => key.letter == letter

/-- Whether a key may go without a value. -/
def Key.allowsEmpty : Key → Bool
  | .interfaces => true
  | .params => true
  | _ => false

/-- The key letter of a segment and the text after its first colon. -/
def divide (segment : List Char) : Except QueryError (Char × List Char) :=
  match cutFirst ':' segment with
  | none => .error (.missingDelimiter (String.ofList segment))
  | some (head, values) =>
    match head.getLast? with
    | some letter =>
      if isBlank letter then .error (.invalidKey (String.ofList segment))
      else .ok (letter, values)
    | none => .error (.invalidKey (String.ofList segment))

/-- The values between plus signs, trimmed; blank ones are dropped. -/
def valuesOf (text : List Char) : List String :=
  (((splitOn '+' text).map trim).filter (· ≠ [])).map String.ofList

/-- What a key with its values asks for. Keys of one value take the first. -/
def Key.criterion (key : Key) (values : List String) : Except QueryError Criterion :=
  match key, values with
  | .flags, values => do return .modifiers (← modifierMask values)
  | .interfaces, values => .ok (.interfaces values)
  | .params, values => .ok (.methodParams values)
  | .annotations, values => .ok (.annotations values)
  | .methods, values => .ok (.methodNames values)
  | .super, first :: _ => .ok (.superClass first)
  | .return, first :: _ => .ok (.methodReturn first)
  | .paramSize, first :: _ =>
    match Number.signed? 32 10 first.toList with
    | some count => .ok (.paramSize count)
    | none => .error (.invalidParamSize first)
  | key, [] => .error (.missingValue key.letter)

/-- Reads one segment. -/
def Criterion.parse (entity : Entity) (segment : List Char) :
    Except QueryError Criterion := do
  let (letter, text) ← divide segment
  match entity.key? letter with
  | none => .error (.keyNotAllowed letter entity)
  | some key =>
    let values := valuesOf text
    if values = [] ∧ !key.allowsEmpty then .error (.missingValue letter)
    else key.criterion values

/-- Reads an advanced query; the empty text asks nothing. -/
def AdvancedQuery.parse (entity : Entity) (raw : String) :
    Except QueryError AdvancedQuery :=
  if raw.isEmpty then .ok {}
  else (splitOn ',' raw.toList).foldlM
    (fun q segment => do return q.apply (← Criterion.parse entity segment)) {}

end ArchiveScout.Query
