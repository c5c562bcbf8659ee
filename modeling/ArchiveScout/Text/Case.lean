/-!
# ArchiveScout.Text.Case

**Letter case, as far as an ASCII word can see it.** A text is compared with words
of ASCII letters in one case. Some characters outside ASCII have a form in the other
case with ASCII letters in it, and those are mapped as the ASCII letters are: for lower
case the Kelvin sign and the capital I with a dot, for upper case the long s, the dotless
i, the sharp s and the Latin ligatures.
-/

namespace ArchiveScout.Text

/-- The small form of one character, where there is an ASCII letter in it. -/
def lowerChar (c : Char) : List Char :=
  match c.toNat with
  | 0x130 => ['i', Char.ofNat 0x307]
  | 0x212A => ['k']
  | _ => [c.toLower]

/-- The small form of a text, exact wherever it is made of ASCII letters. -/
def lower (cs : List Char) : List Char :=
  cs.flatMap lowerChar

/-- The characters outside ASCII whose capital form is made of ASCII capitals. -/
def asciiCapitals? (c : Char) : Option (List Char) :=
  match c.toNat with
  | 0xDF => some ['S', 'S']
  | 0x131 => some ['I']
  | 0x17F => some ['S']
  | 0xFB00 => some ['F', 'F']
  | 0xFB01 => some ['F', 'I']
  | 0xFB02 => some ['F', 'L']
  | 0xFB03 => some ['F', 'F', 'I']
  | 0xFB04 => some ['F', 'F', 'L']
  | 0xFB05 => some ['S', 'T']
  | 0xFB06 => some ['S', 'T']
  | _ => none

/-- The capital form of one character, where it is made of ASCII capitals. -/
def upperChar (c : Char) : List Char :=
  (asciiCapitals? c).getD [c.toUpper]

/-- The capital form of a text, exact wherever it is made of ASCII capitals. -/
def upper (cs : List Char) : List Char :=
  cs.flatMap upperChar

end ArchiveScout.Text
