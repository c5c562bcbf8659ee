import ArchiveScout.Unicode.Age
import ArchiveScout.Unicode.Boundary

/-!
# ArchiveScout.Regex.Property

**Named classes of characters.** The classes `\d`, `\s`, `\w` of a pattern, the
classes in brackets such as `[:alpha:]`, and the properties that `\p` names: two-valued
properties, general categories with their groups, and scripts by their name alone, and
these and a few more by the name of the property and a value. Names are compared in
loose form: without case, blanks, hyphens, underscores and a leading `is`.
-/

namespace ArchiveScout.Regex

open ArchiveScout.Unicode

/-- Decimal digits. -/
def digits : CharSet := decimalNumber

/-- Blank characters. -/
def blanks : CharSet := whiteSpace

/-- Characters of words: what counts as a letter, marks, decimal digits, connectors
and the two invisible joiners. -/
def wordChars : CharSet :=
  (CharSet.unionOf [alphabetic, marks, decimalNumber, connectorPunctuation, joinControl]).flat

/-- Decimal digits of ASCII. -/
def asciiDigits : CharSet := .span '0' '9'

/-- Blank characters of ASCII. -/
def asciiBlanks : CharSet := .ranges [(0x09, 0x0D), (0x20, 0x20)]

/-- Characters of words of ASCII. -/
def asciiWordChars : CharSet :=
  .ranges [(0x30, 0x39), (0x41, 0x5A), (0x5F, 0x5F), (0x61, 0x7A)]

/-- The classes that brackets name, such as `[:alpha:]`. -/
def bracketClass? (name : String) : Option CharSet :=
  let table : List (String × Ranges) :=
    [("alnum", [(0x30, 0x39), (0x41, 0x5A), (0x61, 0x7A)]),
      ("alpha", [(0x41, 0x5A), (0x61, 0x7A)]),
      ("ascii", [(0x00, 0x7F)]),
      ("blank", [(0x09, 0x09), (0x20, 0x20)]),
      ("cntrl", [(0x00, 0x1F), (0x7F, 0x7F)]),
      ("digit", [(0x30, 0x39)]),
      ("graph", [(0x21, 0x7E)]),
      ("lower", [(0x61, 0x7A)]),
      ("print", [(0x20, 0x7E)]),
      ("punct", [(0x21, 0x2F), (0x3A, 0x40), (0x5B, 0x60), (0x7B, 0x7E)]),
      ("space", [(0x09, 0x0D), (0x20, 0x20)]),
      ("upper", [(0x41, 0x5A)]),
      ("word", [(0x30, 0x39), (0x41, 0x5A), (0x5F, 0x5F), (0x61, 0x7A)]),
      ("xdigit", [(0x30, 0x39), (0x41, 0x46), (0x61, 0x66)])]
  (table.lookup name).map .ranges

/-- A name in the form in which names are compared. -/
def looseName (name : List Char) : String :=
  let isTail : Option (List Char) := match name with
    | a :: b :: rest =>
      if (a == 'i' || a == 'I') && (b == 's' || b == 'S') then some rest else none
    | _ => none
  let kept := ((isTail.getD name).filter fun c =>
    c != ' ' && c != '_' && c != '-' && c.toNat < 128).map Char.toLower
  if isTail.isSome && kept == ['c'] then "isc" else String.ofList kept

/-- What a table has under a loose name. -/
def named? {α : Type} (name : String) (table : List (List String × α)) : Option α :=
  (table.find? fun entry => entry.1.contains name).map (·.2)

/-- The script with a loose name. -/
def script? (name : String) : Option Script := scripts.find? (·.names.contains name)

/-- The set that a property name stands for: a two-valued property, a category or a
script, in this order. -/
def property? (name : List Char) : Option CharSet :=
  let loose := looseName name
  (named? loose (derivedProperties ++ listedProperties ++ categories)).orElse fun _ =>
    (script? loose).map Script.characters

/-- The properties that have values, with the set that a loose name of a value stands
for. -/
def valuedProperties : List (List String × (String → Option CharSet)) :=
  [(["gc", "generalcategory"], fun value => named? value categories),
    (["sc", "script"], fun value => (script? value).map Script.characters),
    (["scx", "scriptextensions"], fun value => (script? value).map Script.extended),
    (["age"], presentIn?),
    (["gcb", "graphemeclusterbreak"], fun value => named? value graphemeClasses),
    (["wb", "wordbreak"], fun value => named? value wordClasses),
    (["sb", "sentencebreak"], fun value => named? value sentenceClasses)]

/-- The set of the characters whose property has a value. -/
def propertyValue? (property value : List Char) : Option CharSet :=
  (named? (looseName property) valuedProperties).bind fun valueOf? => valueOf? (looseName value)

end ArchiveScout.Regex
