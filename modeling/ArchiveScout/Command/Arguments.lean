import ArchiveScout.Command.Rule
import ArchiveScout.Text.Split

/-!
# ArchiveScout.Command.Arguments

**Reading a command line by a grammar.** Arguments are read one after another. An
option that was named last is pending until it is clear that no further value follows;
then it is settled, which is when its values are looked at. So of two faults the one
that is settled first counts, and an argument that fits no rule counts before a fault
of the pending option.

Behind `--` every argument is a value without a name. A letter may have its value
behind it in the same argument, with `=` between or without. A numeral with a minus is
a value where the pending option allows it.
-/

namespace ArchiveScout.Command

open ArchiveScout.Text (cutFirst)

/-- What an argument looks like. -/
inductive Shape where
  /-- Two dashes alone. -/
  | stop
  /-- A name behind two dashes, with a value behind an equals sign or without. -/
  | long (name : String) (value : Option String)
  /-- Letters behind one dash. -/
  | short (letters : List Char)
  | plain
deriving DecidableEq, Repr

/-- The shape of a name behind two dashes. -/
def Shape.ofLong (text : List Char) : Shape :=
  match cutFirst '=' text with
  | some (name, value) => .long (String.ofList name) (some (String.ofList value))
  | none => .long (String.ofList text) none

/-- The shape of an argument. -/
def Shape.of (argument : String) : Shape :=
  match argument.toList with
  | ['-', '-'] => .stop
  | '-' :: '-' :: text => ofLong text
  | '-' :: c :: cs => .short (c :: cs)
  | _ => .plain

/-- Whether letters behind a dash make a numeral from here on. The flags say whether
something stands in front, and whether a point or an exponent may still come. -/
def isNumeralTail (inside point exponent : Bool) : List Char → Bool
  | [] => true
  | '.' :: cs => inside && point && isNumeralTail true false exponent cs
  | 'e' :: cs => inside && exponent && !cs.isEmpty && isNumeralTail true false false cs
  | c :: cs => c.isDigit && isNumeralTail true point exponent cs

/-- Whether letters behind a dash make a numeral: digits with an optional point and an
optional exponent, neither of them in front and no `e` at the end. -/
def isNumeral (letters : List Char) : Bool := isNumeralTail false true true letters

/-- How far a command line has been read. -/
structure Reading where
  /-- The values of the settled options, under their keys. -/
  settled : List (String × List String) := []
  /-- The option that was named last, with the values seen so far. -/
  pending : Option (Rule × List String) := none
deriving DecidableEq, Repr

namespace Reading

/-- Whether an option has been settled. -/
def has (r : Reading) (key : String) : Bool := r.settled.any fun use => use.1 == key

/-- All values of an option. -/
def values (r : Reading) (key : String) : List String :=
  (r.settled.filter fun use => use.1 == key).flatMap (·.2)

/-- The value of an option, if it was given. -/
def value? (r : Reading) (key : String) : Option String := (r.values key).head?

/-- The text of an option, which is empty if it was not given. -/
def text (r : Reading) (key : String) : String := (r.value? key).getD ""

/-- Settles a use of an option. -/
def settle (r : Reading) (rule : Rule) (values : List String) : Except Rejection Reading := do
  if rule.arity = .help then throw .help
  if rule.arity = .version then throw .version
  if rule.takesValues && values.isEmpty then throw (.missingValue rule.key)
  if rule.arity ≠ .many && r.has rule.key then throw (.repeated rule.key)
  values.forM rule.check
  return { r with settled := r.settled ++ [(rule.key, values)] }

/-- Settles the pending option, if there is one. -/
def settlePending (r : Reading) : Except Rejection Reading :=
  match r.pending with
  | none => .ok r
  | some (rule, values) => { r with pending := none }.settle rule values

/-- Settles the pending option, and then a use of another one. -/
def use (r : Reading) (rule : Rule) (values : List String) : Except Rejection Reading := do
  (← r.settlePending).settle rule values

/-- Settles the pending option, and makes another one pending. -/
def await (r : Reading) (rule : Rule) (values : List String) : Except Rejection Reading := do
  return { ← r.settlePending with pending := some (rule, values) }

/-- One value more for the pending option. -/
def push (r : Reading) (value : String) : Reading :=
  { r with pending := r.pending.map fun (rule, values) => (rule, values ++ [value]) }

/-- The pending option, if an argument that names no option is a value of it. -/
def open? (r : Reading) : Option Rule :=
  match r.pending with
  | some (rule, values) =>
    if !rule.names.isEmpty && (rule.arity = .many || values.isEmpty) then some rule else none
  | none => none

end Reading

namespace Grammar

variable {α : Type}

/-- A name behind two dashes. -/
def readLong (g : Grammar α) (r : Reading) (name : String) (value : Option String) :
    Except Rejection Reading :=
  match g.rules.find? (·.names.contains name), value with
  | none, _ => .error (.unknownArgument ("--" ++ name))
  | some rule, none => if rule.takesValues then r.await rule [] else r.use rule []
  | some rule, some value =>
    if rule.takesValues then r.use rule [value] else .error (.unwantedValue rule.key value)

/-- Letters behind one dash. -/
def readLetters (g : Grammar α) (r : Reading) : List Char → Except Rejection Reading
  | [] => .ok r
  | c :: cs =>
    match g.rules.find? (·.letter == some c) with
    | none => .error (.unknownArgument (String.ofList ['-', c]))
    | some rule =>
      if !rule.takesValues then do g.readLetters (← r.use rule []) cs
      else match cs with
        | [] => r.await rule []
        | '=' :: value => r.use rule [String.ofList value]
        | value => r.use rule [String.ofList value]

/-- A value without a name. -/
def readPlain (g : Grammar α) (r : Reading) (text : String) : Except Rejection Reading :=
  match g.operands, r.pending with
  | .none, _ => .error (.unknownArgument text)
  | .command _, _ => .error (.unknownCommand text)
  | .files, some (rule, _) =>
    if rule = fileRule then .ok (r.push text) else r.await fileRule [text]
  | .files, none => r.await fileRule [text]

/-- The arguments behind two dashes. -/
def readRest (g : Grammar α) (r : Reading) : List String → Except Rejection Reading
  | [] => .ok r
  | text :: rest =>
    if (g.command? text).isSome then .error (.unknownArgument text)
    else do g.readRest (← g.readPlain r text) rest

/-- Reads arguments up to a command. Gives the command with the arguments behind it. -/
def readFrom (g : Grammar α) (r : Reading) :
    List String → Except Rejection (Reading × Option (α × List String))
  | [] => .ok (r, none)
  | argument :: rest =>
    match r.open? with
    | some rule =>
      match Shape.of argument with
      | .stop => do return (← g.readRest r rest, none)
      | .long name value => do g.readFrom (← g.readLong r name value) rest
      | .short letters =>
        if rule.negative && isNumeral letters then g.readFrom (r.push argument) rest
        else do g.readFrom (← g.readLetters r letters) rest
      | .plain => g.readFrom (r.push argument) rest
    | none =>
      match g.command? argument, Shape.of argument with
      | some command, _ => .ok (r, some (command, rest))
      | none, .stop => do return (← g.readRest r rest, none)
      | none, .long name value => do g.readFrom (← g.readLong r name value) rest
      | none, .short letters => do g.readFrom (← g.readLetters r letters) rest
      | none, .plain => do g.readFrom (← g.readPlain r argument) rest

/-- Reads arguments that hold no command. -/
def read (g : Grammar α) (arguments : List String) : Except Rejection Reading := do
  let (r, _) ← g.readFrom {} arguments
  r.settlePending

end Grammar

end ArchiveScout.Command
