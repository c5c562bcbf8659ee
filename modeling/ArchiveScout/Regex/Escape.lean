import ArchiveScout.Regex.Flags
import ArchiveScout.Regex.Node
import ArchiveScout.Text.Split

/-!
# ArchiveScout.Regex.Escape

**What a backslash introduces**: a character by its code, a named class, an assertion,
a control character, or a character that loses its special meaning. Everything else
is refused, back references among it.
-/

namespace ArchiveScout.Regex

open ArchiveScout.Unicode (CharSet)

/-- The smallest parts of a pattern. -/
inductive Atom where
  /-- A character; `asByte` when it was written with two hexadecimal digits. -/
  | char (c : Char) (asByte : Bool)
  /-- A class of characters. -/
  | set (s : CharSet)
  /-- An assertion. -/
  | look (l : Look)

/-- A hexadecimal digit. -/
def isHexDigit (c : Char) : Bool :=
  c.isDigit || ('a' ≤ c && c ≤ 'f') || ('A' ≤ c && c ≤ 'F')

/-- The character with a hexadecimal code. -/
def charOfHex? (digits : List Char) : Option Char :=
  let n := Unicode.hexNat digits
  if n.isValidChar then some (Char.ofNat n) else none

/-- Exactly `n` hexadecimal digits. -/
def hexDigits? (f : Flags) : Nat → List Char → Option (List Char × List Char)
  | 0, cs => some ([], cs)
  | n + 1, c :: cs =>
    if isHexDigit c then
      (hexDigits? f n (f.skip cs)).map fun (digits, rest) => (c :: digits, rest)
    else none
  | _ + 1, [] => none

/-- A character by its code: `width` digits, or any number of digits in braces. -/
def hexCode? (f : Flags) (width : Nat) (cs : List Char) : Option (Atom × List Char) :=
  match f.skip cs with
  | '\x7b' :: cs => do
    let (digits, rest) ← f.braced? cs
    if digits = [] ∨ !digits.all isHexDigit then none
    let c ← charOfHex? digits
    return (.char c false, rest)
  | cs => do
    let (digits, rest) ← hexDigits? f width cs
    let c ← charOfHex? digits
    return (.char c (width = 2), rest)

/-- A class, closed under case where case is ignored, and then negated or not.
Outside the Unicode mode only classes of ASCII characters are allowed. -/
def Flags.classOf? (f : Flags) (s : CharSet) (negated : Bool) : Option CharSet :=
  let folded :=
    if f.ignoreCase then if f.unicode then CharSet.fold s else CharSet.foldAscii s else s
  let set := if negated then CharSet.compl folded else folded
  if f.unicode || set.isAsciiOnly then some set else none

/-- The property that braces name: `name`, or a name and a value between which stands
`!=`, `:` or `=`. -/
def namedProperty? (negated : Bool) (inside : List Char) : Option (CharSet × Bool) :=
  let cutPair : List Char → Option (List Char × List Char) := fun cs =>
    (List.range cs.length).findSome? fun i =>
      if (cs.drop i).take 2 = ['!', '='] then some (cs.take i, cs.drop (i + 2)) else none
  match cutPair inside with
  | some (name, value) => (propertyValue? name value).map (·, !negated)
  | none =>
    match (Text.cutFirst ':' inside).orElse fun _ => Text.cutFirst '=' inside with
    | some (name, value) => (propertyValue? name value).map (·, negated)
    | none => (property? inside).map (·, negated)

/-- A class by a property: one letter, or a name in braces. -/
def propertyClass? (f : Flags) (negated : Bool) (cs : List Char) :
    Option (Atom × List Char) :=
  if !f.unicode then none
  else match f.skip cs with
    | '\x7b' :: cs => do
      let (inside, rest) ← f.braced? cs
      let (set, negated) ← namedProperty? negated inside
      return (.set (← f.classOf? set negated), rest)
    | '\\' :: _ => none
    | c :: cs => do
      let set ← property? [c]
      return (.set (← f.classOf? set negated), cs)
    | [] => none

/-- The classes with one letter of their own. Capitals negate them. -/
def letterClass? (f : Flags) (letter : Char) : Option CharSet :=
  let set? := match letter.toLower with
    | 'd' => some (if f.unicode then digits else asciiDigits)
    | 's' => some (if f.unicode then blanks else asciiBlanks)
    | 'w' => some (if f.unicode then wordChars else asciiWordChars)
    | _ => none
  set?.bind fun set =>
    if letter.isUpper then if f.unicode then some (CharSet.compl set) else none else some set

/-- The control characters that have a letter. -/
def controlChar? (letter : Char) : Option Char :=
  [('a', '\x07'), ('f', '\x0c'), ('t', '\t'), ('n', '\n'), ('r', '\r'), ('v', '\x0b')].lookup
    letter

/-- The assertions that have one character. -/
def lookOf? (f : Flags) (c : Char) : Option Look :=
  match c with
  | 'A' => some .textStart
  | 'z' => some .textEnd
  | 'B' => some (.noWordEdge !f.unicode)
  | '<' => some (.wordStart !f.unicode)
  | '>' => some (.wordEnd !f.unicode)
  | _ => none

/-- The edges of words that have a name. -/
def namedEdge? (f : Flags) (name : String) : Option Look :=
  match name with
  | "start" => some (.wordStart !f.unicode)
  | "end" => some (.wordEnd !f.unicode)
  | "start-half" => some (.wordStartHalf !f.unicode)
  | "end-half" => some (.wordEndHalf !f.unicode)
  | _ => none

/-- The edge of a word, perhaps with its name in braces. A brace before anything but
a letter or a hyphen starts a repetition and is left alone. -/
def wordEdge? (f : Flags) (cs : List Char) : Option (Atom × List Char) :=
  let isNameChar (c : Char) : Bool := c.isAlpha || c = '-'
  match cs with
  | '\x7b' :: inside =>
    match f.skip inside with
    | [] => none
    | c :: _ =>
      if !isNameChar c then some (.look (.wordEdge !f.unicode), cs)
      else match f.takeRun isNameChar inside with
        | (name, '\x7d' :: rest) =>
          (namedEdge? f (String.ofList name)).map fun l => (.look l, rest)
        | _ => none
  | cs => some (.look (.wordEdge !f.unicode), cs)

/-- Whether a backslash makes `c` an ordinary character: ASCII that is no letter, no
digit and no angle bracket. -/
def isEscapable (c : Char) : Bool :=
  c.toNat < 128 && !c.isAlphanum && c ≠ '<' && c ≠ '>'

/-- Reads what stands behind a backslash. -/
def escape? (f : Flags) : List Char → Option (Atom × List Char)
  | [] => none
  | 'x' :: cs => hexCode? f 2 cs
  | 'u' :: cs => hexCode? f 4 cs
  | 'U' :: cs => hexCode? f 8 cs
  | 'p' :: cs => propertyClass? f false cs
  | 'P' :: cs => propertyClass? f true cs
  | 'b' :: cs => wordEdge? f cs
  | c :: cs =>
    if c ∈ ['d', 's', 'w', 'D', 'S', 'W'] then (letterClass? f c).map fun s => (.set s, cs)
    else if isEscapable c then some (.char c false, cs)
    else match controlChar? c with
      | some c => some (.char c false, cs)
      | none => (lookOf? f c).map fun l => (.look l, cs)

end ArchiveScout.Regex
