import ArchiveScout.Regex.Escape

/-!
# ArchiveScout.Regex.Bracket

**Classes in brackets**: characters, ranges, named classes and nested brackets side by
side form a union, and unions are combined from left to right by `&&` (both), `--`
(the first only) and `~~` (exactly one). Brackets nest, so reading keeps a stack of
the brackets that are still open.
-/

namespace ArchiveScout.Regex

open ArchiveScout.Unicode (CharSet)

/-- The ways to combine two unions. -/
inductive SetOp where
  | both
  | firstOnly
  | exactlyOne
deriving DecidableEq, Repr

/-- The set that an operator makes of two. -/
def SetOp.combine : SetOp → CharSet → CharSet → CharSet
  | .both => .inter
  | .firstOnly => .diff
  | .exactlyOne => .symDiff

/-- A set together with the depth to which its parts nest. -/
structure Operand where
  set : CharSet
  depth : Nat

/-- The items of a union that have been read so far. -/
structure Union where
  set : CharSet := .empty
  depth : Nat := 0
  count : Nat := 0

/-- One item more. -/
def Union.add (u : Union) (x : Operand) : Union :=
  { set := .union u.set x.set, depth := max u.depth x.depth, count := u.count + 1 }

/-- A finished union; it nests its items only if there are several. -/
def Union.operand (u : Union) : Operand :=
  { set := u.set, depth := if u.count < 2 then u.depth else u.depth + 1 }

/-- An open bracket: what has been combined so far, the operator that waits for its
second side, and the union being read. -/
structure OpenBracket where
  negated : Bool
  left : Option (Operand × SetOp) := none
  items : Union := {}

/-- All that an open bracket holds. Sides are closed under case before they are
combined, where case is ignored. -/
def OpenBracket.content (f : Flags) (b : OpenBracket) : Operand :=
  let fold (s : CharSet) : CharSet :=
    if f.ignoreCase then if f.unicode then .fold s else .foldAscii s else s
  match b.left with
  | none => b.items.operand
  | some (left, op) =>
    let right := b.items.operand
    { set := op.combine (fold left.set) (fold right.set)
      depth := max left.depth right.depth + 1 }

/-- The class of a bracket that closes. -/
def OpenBracket.close? (f : Flags) (b : OpenBracket) : Option Operand :=
  let content := b.content f
  (f.classOf? content.set b.negated).map fun set => { set, depth := content.depth + 1 }

/-- An operator after a union. -/
def OpenBracket.operator (f : Flags) (b : OpenBracket) (op : SetOp) : OpenBracket :=
  { b with left := some (b.content f, op), items := {} }

/-- One item more in the union being read. -/
def OpenBracket.add (b : OpenBracket) (x : Operand) : OpenBracket :=
  { b with items := b.items.add x }

/-- Reads what follows an opening bracket: `^` negates, hyphens in front are
characters, and so is a closing bracket in front of everything else. -/
def openBracket? (f : Flags) (cs : List Char) : Option (OpenBracket × List Char) :=
  let (negated, cs) := match f.skip cs with
    | '^' :: cs => (true, cs)
    | cs => (false, cs)
  let (hyphens, cs) := f.takeRun (· = '-') cs
  let start := hyphens.foldl (fun b c => b.add ⟨.single c, 0⟩) { negated : OpenBracket }
  match hyphens, f.skip cs with
  | _, [] => none
  | [], ']' :: cs => if f.skip cs = [] then none else some (start.add ⟨.single ']', 0⟩, cs)
  | _, cs => some (start, cs)

/-- Reads a class such as `[:alpha:]` or `[:^alpha:]` behind its first bracket;
`none` when that bracket starts an ordinary class. -/
def bracketName? (cs : List Char) : Option (String × Bool × List Char) :=
  match cs with
  | ':' :: cs =>
    let (negated, cs) := match cs with
      | '^' :: cs => (true, cs)
      | cs => (false, cs)
    let name := String.ofList (cs.takeWhile (· ≠ ':'))
    match cs.dropWhile (· ≠ ':') with
    | ':' :: ']' :: rest => if (bracketClass? name).isSome then some (name, negated, rest) else none
    | _ => none
  | _ => none

/-- Reads one item: a character, or what a backslash introduces. -/
def bracketItem? (f : Flags) : List Char → Option (Atom × List Char)
  | [] => none
  | '\\' :: cs => escape? f cs
  | c :: cs => some (.char c false, cs)

/-- The character of an item that may stand in a class: outside the Unicode mode
only ASCII. -/
def Atom.classChar? (f : Flags) : Atom → Option Char
  | .char c _ => if f.unicode || c.toNat < 128 then some c else none
  | _ => none

/-- The set of an item that stands alone. -/
def Atom.classSet? (f : Flags) : Atom → Option CharSet
  | .set s => some s
  | .look _ => none
  | .char c asByte => (Atom.classChar? f (.char c asByte)).map .single

/-- The character behind a hyphen, blanks and the start of a comment passed over;
where nothing else follows, the very next character. -/
def afterHyphen (f : Flags) (cs : List Char) : Option Char :=
  if f.verbose then
    let rest := cs.dropWhile Text.isBlank
    let rest := match rest with
      | '#' :: inner => inner.dropWhile Text.isBlank
      | rest => rest
    rest.head?.orElse fun _ => cs.head?
  else cs.head?

/-- Reads an item or a range. A hyphen makes a range unless a closing bracket or
another hyphen follows it. -/
def bracketRange? (f : Flags) (cs : List Char) : Option (Operand × List Char) := do
  let (first, cs) ← bracketItem? f cs
  match f.skip cs with
  | [] => none
  | '-' :: behind =>
    if afterHyphen f behind = some ']' ∨ afterHyphen f behind = some '-' then
      return (⟨← first.classSet? f, 0⟩, '-' :: behind)
    let (last, cs) ← bracketItem? f (f.skip behind)
    let lo ← first.classChar? f
    let hi ← last.classChar? f
    if lo ≤ hi then return (⟨.span lo hi, 0⟩, cs) else none
  | cs => return (⟨← first.classSet? f, 0⟩, cs)

/-- Reads a class from inside its innermost open bracket `b`; `outer` are the brackets
around it. The fuel bounds the number of items. -/
def bracketRest? (f : Flags) :
    Nat → List OpenBracket → OpenBracket → List Char → Option (Operand × List Char)
  | 0, _, _, _ => none
  | fuel + 1, outer, b, cs =>
    match f.skip cs with
    | [] => none
    | '[' :: cs =>
      match bracketName? cs with
      | some (name, negated, rest) => do
        let set ← bracketClass? name
        let set ← f.classOf? set negated
        bracketRest? f fuel outer (b.add ⟨set, 0⟩) rest
      | none => do
        let (inner, rest) ← openBracket? f cs
        bracketRest? f fuel (b :: outer) inner rest
    | ']' :: cs =>
      match b.close? f, outer with
      | none, _ => none
      | some x, [] => some (x, cs)
      | some x, b :: outer => bracketRest? f fuel outer (b.add x) cs
    | '&' :: '&' :: cs => bracketRest? f fuel outer (b.operator f .both) cs
    | '-' :: '-' :: cs => bracketRest? f fuel outer (b.operator f .firstOnly) cs
    | '~' :: '~' :: cs => bracketRest? f fuel outer (b.operator f .exactlyOne) cs
    | cs => do
      let (x, rest) ← bracketRange? f cs
      bracketRest? f fuel outer (b.add x) rest

/-- Reads a class behind its first bracket. -/
def bracket? (f : Flags) (cs : List Char) : Option (Operand × List Char) := do
  let (b, rest) ← openBracket? f cs
  bracketRest? f (rest.length + 1) [] b rest

end ArchiveScout.Regex
