import ArchiveScout.Regex.Match

/-!
# ArchiveScout.File.Glob

**Globs.** A glob describes paths with `?` for one byte, `*` for any number of bytes,
classes in brackets, alternatives in braces, and `**` between slashes for any number
of directories; only the last crosses slashes. A glob is read into a regular
expression over the bytes of a path, each taken as one character.
-/

namespace ArchiveScout.File

open ArchiveScout.Unicode (CharSet)

namespace Glob

/-- The bytes of a text, each as one character. -/
def bytesOf (text : String) : List Char :=
  text.toUTF8.toList.map fun b => Char.ofNat b.toNat

/-- Any byte but a slash. -/
def anyByte : Regex.Node := .set (.compl (.single '/'))

/-- Any number of bytes. -/
def anything : Regex.Node := .repeat (.set .all) 0 none

/-- A slash. -/
def slash : Regex.Node := .set (.single '/')

/-- The bytes of a character, one after another. -/
def literal (c : Char) : Regex.Node :=
  (bytesOf c.toString).foldr (fun b rest => .cat (.set (.single b)) rest) .empty

/-- What a part of a glob is, as far as a following `**` has to know. -/
inductive PartKind where
  | plain
  /-- `**` at the start. -/
  | deepStart
  /-- `**` at the end. -/
  | deepEnd
deriving DecidableEq

/-- A part of a glob. -/
structure Part where
  node : Regex.Node
  kind : PartKind := .plain

/-- `**` at the start: nothing, or directories and a slash. -/
def deepStart : Part :=
  { node := .alt (.repeat slash 0 (some 1)) (.cat anything slash), kind := .deepStart }

/-- `**` at the end, with the slash in front of it. -/
def deepEnd : Part := { node := .cat slash anything, kind := .deepEnd }

/-- `**` in the middle, with the slashes around it. -/
def deepMiddle : Part := { node := .alt slash (.cat slash (.cat anything slash)) }

/-- Any number of bytes but slashes. -/
def star : Part := { node := .repeat anyByte 0 none }

/-- Parts one after another; the last comes first in the list. -/
def sequence (parts : List Part) : Regex.Node :=
  parts.foldl (fun rest part => .cat part.node rest) .empty

/-- Why a bracket does not start a class. -/
inductive ClassFault where
  /-- The closing bracket is missing. -/
  | unclosed
  /-- A range goes downwards. -/
  | downward
deriving DecidableEq, Repr

/-- The items of a class in brackets: `first` at its start, `waiting` while a hyphen
waits for its second side. The last item comes first in the result. -/
def classItems (first waiting : Bool) (items : List (Char × Char)) :
    List Char → Except ClassFault (List (Char × Char) × List Char)
  | [] => .error .unclosed
  | c :: cs =>
    if c = ']' ∧ !first then .ok (if waiting then ('-', '-') :: items else items, cs)
    else if c = '-' ∧ !first ∧ !waiting then classItems false true items cs
    else match waiting, items with
      | true, (lo, _) :: items =>
        if lo ≤ c then classItems false false ((lo, c) :: items) cs else .error .downward
      | _, items => classItems false false ((c, c) :: items) cs

/-- The bytes of an item. Of a range with sides of several bytes, the range goes from
the last byte of one side to the first byte of the other. -/
def itemRanges (item : Char × Char) : List (Nat × Nat) :=
  let single := fun (b : Char) => (b.toNat, b.toNat)
  let lo := bytesOf item.1.toString
  if item.1 = item.2 then lo.map single
  else match lo.getLast?, bytesOf item.2.toString with
    | some last, first :: rest =>
      lo.dropLast.map single ++ [(last.toNat, first.toNat)] ++ rest.map single
    | _, _ => []

/-- A class in brackets, behind its opening bracket. -/
def classOf (cs : List Char) : Except ClassFault (Part × List Char) :=
  let (negated, cs) := match cs with
    | '!' :: cs => (true, cs)
    | '^' :: cs => (true, cs)
    | cs => (false, cs)
  (classItems true false [] cs).map fun (items, rest) =>
    let set := CharSet.ranges (items.flatMap itemRanges)
    ({ node := .set (if negated then .compl set else set) }, rest)

/-- The state of the reader: the parts of the innermost alternative, and for each open
brace the finished alternatives and the parts in front of it. Once a bracket has been
found to stay open, brackets are ordinary characters. -/
structure Reader where
  parts : List Part := []
  outer : List (List Regex.Node × List Part) := []
  plainBrackets : Bool := false

/-- One part more. -/
def Reader.add (r : Reader) (part : Part) : Reader := { r with parts := part :: r.parts }

/-- Alternatives with the innermost one; empty ones are left out. -/
def Reader.alternatives (r : Reader) (finished : List Regex.Node) : List Regex.Node :=
  if r.parts.isEmpty then finished else sequence r.parts :: finished

/-- `**` behind which `next` follows. It is special only where it fills the space
between slashes, braces and the ends of the glob; otherwise it is two stars. -/
def Reader.doubleStar (r : Reader) (before : Option Char) (next : List Char) :
    Reader × List Char :=
  let plain := (r.add star).add star
  let inBraces := !r.outer.isEmpty
  match r.parts with
  | [] =>
    match next with
    | [] => (r.add deepStart, [])
    | '/' :: rest => (r.add deepStart, rest)
    | _ => (plain, next)
  | last :: parts =>
    let fits := before = some '/' || (inBraces && (before = some ',' || before = some '\x7b'))
    let replaced (part : Part) : Reader :=
      { r with parts := (if last.kind = .plain then part else last) :: parts }
    if !fits then (plain, next)
    else match next with
      | [] => (replaced deepEnd, [])
      | '/' :: rest => (replaced deepMiddle, rest)
      | c :: _ =>
        if inBraces && (c = ',' || c = '\x7d') then (replaced deepEnd, next) else (plain, next)

/-- Reads the parts of a glob; `before` is the character in front. The fuel bounds
their number. -/
def Reader.run : Nat → Reader → Option Char → List Char → Option Reader
  | 0, _, _, _ => none
  | _ + 1, r, _, [] => some r
  | fuel + 1, r, before, c :: cs =>
    match c with
    | '?' => run fuel (r.add { node := anyByte }) (some c) cs
    | '*' =>
      match cs with
      | '*' :: next =>
        let (r, rest) := r.doubleStar before next
        run fuel r (some (if rest.length < next.length then '/' else '*')) rest
      | cs => run fuel (r.add star) (some c) cs
    | '[' =>
      if r.plainBrackets then run fuel (r.add { node := literal c }) (some c) cs
      else match classOf cs with
        | .ok (part, rest) => run fuel (r.add part) (some ']') rest
        | .error .unclosed =>
          run fuel { r.add { node := literal c } with plainBrackets := true } (some c) cs
        | .error .downward => none
    | '\x7b' => run fuel { r with parts := [], outer := ([], r.parts) :: r.outer } (some c) cs
    | '\x7d' =>
      match r.outer with
      | [] => none
      | (finished, parts) :: outer =>
        let node := match r.alternatives finished with
          | [] => Regex.Node.empty
          | last :: earlier => earlier.foldl (fun rest node => .alt node rest) last
        run fuel { r with parts := { node } :: parts, outer } (some c) cs
    | ',' =>
      match r.outer with
      | [] => run fuel (r.add { node := literal c }) (some c) cs
      | (finished, parts) :: outer =>
        let finished := r.alternatives finished
        run fuel { r with parts := [], outer := (finished, parts) :: outer } (some c) cs
    | '\\' =>
      match cs with
      | [] => none
      | c :: cs => run fuel (r.add { node := literal c }) (some c) cs
    | c => run fuel (r.add { node := literal c }) (some c) cs

/-- Reads a glob into an expression for whole paths. -/
def parse? (text : String) : Option Regex.Node := do
  let cs := text.toList
  let r ← Reader.run (cs.length + 1) {} none cs
  if !r.outer.isEmpty then none
  let body := match r.parts with
    | [part] => if part.kind = .deepStart then anything else part.node
    | parts => sequence parts
  return .cat (.look .textStart) (.cat body (.look .textEnd))

end Glob

/-- Whether a path matches a glob that has been read. -/
def globMatches (glob : Regex.Node) (path : String) : Bool :=
  let w := Glob.bytesOf path
  Regex.ends w glob 1 ≠ 0

end ArchiveScout.File
