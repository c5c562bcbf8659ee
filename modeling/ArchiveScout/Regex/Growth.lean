import ArchiveScout.Unicode.Encoding
import Std.Data.HashMap

/-!
# ArchiveScout.Regex.Growth

**How an automaton grows by a class or by a list of words.** An automaton reads bytes.
It is built state by state, and only its size is kept: how many states it has, and how
much memory the lists of targets take that some states have. States are numbered in
the order in which they are added.

Forwards, a class becomes a tree of byte sequences whose equal nodes are shared;
backwards, sequences that start alike share their last states. Nodes and states are
looked up in a table with few slots, where a new entry drives out an old one, so some
are added twice.
-/

namespace ArchiveScout.Regex

open ArchiveScout.Unicode (Ranges sequences)

/-- The size of an automaton: the number of its states, and the bytes that lists of
targets take. -/
structure Growth where
  states : Nat := 0
  lists : Nat := 0
deriving DecidableEq, Repr

namespace Growth

/-- The bytes that the automaton takes. -/
def memory (g : Growth) : Nat := 32 * g.states + g.lists

/-- An automaton may not take more bytes than this. -/
def memoryLimit : Nat := 10 * 1024 * 1024

/-- Whether the automaton takes too much memory. -/
def isOver (g : Growth) : Bool := memoryLimit < g.memory

/-- Some states more, and some bytes in lists. -/
def add (g : Growth) (states lists : Nat) : Growth :=
  { states := g.states + states, lists := g.lists + lists }

/-- A state that goes on by one of several ranges of bytes. -/
def addChoice (g : Growth) (ranges : Nat) : Growth := g.add 1 (8 * ranges)

/-- `step` done `n` times, or until there is too much. -/
def rounds (step : Growth → Growth) : Nat → Growth → Growth
  | 0, g => g
  | n + 1, g => if g.isOver then g else rounds step n (step g)

end Growth

/-- A way on from a node: by a byte from `lo` to `hi` to a target. -/
structure Arc where
  lo : Nat
  hi : Nat
  target : Nat
deriving DecidableEq, Repr

/-- A hash with one number more. -/
def mixHash (hash : UInt64) (n : Nat) : UInt64 := (hash ^^^ n.toUInt64) * 1099511628211

/-- The hash of no numbers. -/
def hashSeed : UInt64 := 14695981039346656037

/-- The slot of a node among ten thousand. -/
def nodeSlot (arcs : List Arc) : Nat :=
  let hash := arcs.foldl
    (fun hash arc => mixHash (mixHash (mixHash hash arc.lo) arc.hi) arc.target) hashSeed
  (hash % 10000).toNat

/-- The slot of an arc among one thousand. -/
def arcSlot (arc : Arc) : Nat :=
  (mixHash (mixHash (mixHash hashSeed arc.target) arc.lo) arc.hi % 1000).toNat

/-- An automaton that grows, with the nodes that can still be found. -/
structure Nodes where
  growth : Growth
  known : Std.HashMap Nat (List Arc × Nat) := ∅

/-- A node more, which takes its slot. -/
def Nodes.put (ns : Nodes) (slot : Nat) (arcs : List Arc) : Nat × Nodes :=
  let number := ns.growth.states
  (number,
    { growth := ns.growth.addChoice arcs.length, known := ns.known.insert slot (arcs, number) })

/-- The number of the node with some arcs, which is added if it cannot be found. -/
def Nodes.find (ns : Nodes) (arcs : List Arc) : Nat × Nodes :=
  let slot := nodeSlot arcs
  match ns.known[slot]? with
  | some (arcs', number) => if arcs' = arcs then (number, ns) else ns.put slot arcs
  | none => ns.put slot arcs

/-- A node on the path to the last sequence: its finished arcs, the last one in front,
and the bytes of the arc along the path. -/
structure OpenNode where
  finished : List Arc := []
  path : Option (Nat × Nat) := none

/-- All arcs of a node, the last one in front, when its path leads to `target`. -/
def OpenNode.arcs (node : OpenNode) (target : Nat) : List Arc :=
  match node.path with
  | some (lo, hi) => ⟨lo, hi, target⟩ :: node.finished
  | none => node.finished

/-- Finishes the nodes of a path, the deepest one first, and gives the number of the
first. Behind the path stands the state `target`. -/
def closePath (target : Nat) : List OpenNode → Nodes → Nat × Nodes
  | [], ns => (target, ns)
  | node :: deeper, ns =>
    let (next, ns) := closePath target deeper ns
    ns.find (node.arcs next).reverse

/-- Adds a sequence to the tree, whose last path is given: what the sequence shares with
the path stays open, the rest of the path is finished. -/
def addSequence (target : Nat) : Ranges → List OpenNode → Nodes → List OpenNode × Nodes
  | r :: rs, node :: deeper, ns =>
    if node.path = some r then
      let (deeper, ns) := addSequence target rs deeper ns
      (node :: deeper, ns)
    else
      let (next, ns) := closePath target deeper ns
      ({ finished := node.arcs next, path := some r } :: rs.map ({ path := some · }), ns)
  | _, path, ns => (path, ns)

/-- A class that is read forwards. -/
def growForward (rs : Ranges) (g : Growth) : Growth :=
  let target := g.states
  let (path, ns) := (rs.flatMap sequences).foldl
    (fun (path, ns) seq => addSequence target seq path ns) ([{}], { growth := g.add 1 0 })
  (closePath target path ns).2.growth

/-- An automaton that grows, with the arcs of states that can still be found. -/
structure Arcs where
  growth : Growth
  known : Std.HashMap Nat (Arc × Nat) := ∅

/-- A state with one arc more, which takes its slot. -/
def Arcs.put (as : Arcs) (slot : Nat) (arc : Arc) : Nat × Arcs :=
  let number := as.growth.states
  (number, { growth := as.growth.add 1 0, known := as.known.insert slot (arc, number) })

/-- The number of the state with one arc, which is added if it cannot be found. -/
def Arcs.find (as : Arcs) (arc : Arc) : Nat × Arcs :=
  let slot := arcSlot arc
  match as.known[slot]? with
  | some (arc', number) => if arc' = arc then (number, as) else as.put slot arc
  | none => as.put slot arc

/-- A class that is read backwards: a state that chooses between the sequences, and the
state where they end. -/
def growBackward (rs : Ranges) (g : Growth) : Growth :=
  let last := g.states + 1
  let addSequence (as : Arcs) (seq : Ranges) : Arcs :=
    let (_, as) := seq.foldl (fun (next, as) (lo, hi) => as.find ⟨lo, hi, next⟩) (last, as)
    { as with growth := as.growth.add 0 4 }
  ((rs.flatMap sequences).foldl addSequence { growth := g.add 2 0 }).growth

/-- Whether a class in normal form holds ASCII only. -/
def isAsciiClass (rs : Ranges) : Bool := rs.all fun r => r.2 < 0x80

/-- The words below a node in groups: a word that ends at the node ends a group.
Several of them in front of all other words count once. -/
def wordGroups (words : List (List Nat)) : List (List (List Nat)) :=
  let words := match words with
    | [] :: rest => [] :: rest.dropWhile List.isEmpty
    | words => words
  let (group, groups) := words.foldr
    (fun word (group, groups) =>
      if word.isEmpty then ([], group :: groups) else (word :: group, groups))
    ([], [])
  group :: groups

/-- The first bytes of words. -/
def firstBytes (words : List (List Nat)) : List Nat := (words.filterMap List.head?).eraseDups

/-- What follows a first byte in the words that start with it. -/
def behindByte (byte : Nat) (words : List (List Nat)) : List (List Nat) :=
  words.filterMap fun word =>
    match word with
    | first :: rest => if first = byte then some rest else none
    | [] => none

/-- A node of the tree of words, with everything below it. The fuel bounds the depth. -/
def growWordsBelow : Nat → List (List Nat) → Growth → Growth
  | 0, _, g => g
  | fuel + 1, words, g =>
    if words.all List.isEmpty then g
    else
      let groups := wordGroups words
      let full := groups.filter fun group => !group.isEmpty
      let g := full.foldl
        (fun g group =>
          let bytes := firstBytes group
          let g := if bytes.length = 1 then g.add 1 0 else g.addChoice bytes.length
          bytes.foldl (fun g byte => growWordsBelow fuel (behindByte byte group) g) g)
        g
      g.add 1 (4 * (full.length + (groups.length - 1)))

/-- A choice between words, as a tree of their bytes and a state where they end. -/
def growWords (words : List (List Nat)) (g : Growth) : Growth :=
  growWordsBelow ((words.map List.length).foldl max 0 + 1) words (g.add 1 0)

end ArchiveScout.Regex
