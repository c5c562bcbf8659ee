import ArchiveScout.Number.Numeral

/-!
# ArchiveScout.Command.Rule

**What a command line may hold.** A rule describes one option: its names, how many
values it takes and what they look like. A grammar is the rules of one command, with
the words that are commands themselves. `Rejection` says why a command line is refused.
-/

namespace ArchiveScout.Command

open ArchiveScout.Number (natural? signed?)

/-- What the values of an option look like. -/
inductive ValueKind where
  | text
  /-- A path, which is never empty. -/
  | path
  /-- One of some words. -/
  | word (words : List String)
  /-- An integer of 64 bits with an optional sign. -/
  | integer
  /-- A natural number of 64 bits with an optional plus. -/
  | count
deriving DecidableEq, Repr

/-- What an option does, or how many values it takes. -/
inductive Arity where
  /-- No value, and at most one use. -/
  | flag
  /-- One value, and at most one use. -/
  | one
  /-- One value or more, and the values of all uses add up. -/
  | many
  /-- The option asks for help. -/
  | help
  /-- The option asks for the version. -/
  | version
deriving DecidableEq, Repr

/-- One option, or the files, which are values without a name in front. -/
structure Rule where
  /-- What the values are kept under. -/
  key : String
  /-- The names that follow two dashes. -/
  names : List String
  /-- The letter that may follow one dash. -/
  letter : Option Char := none
  arity : Arity := .one
  kind : ValueKind := .text
  /-- Whether numerals with a minus are values. -/
  negative : Bool := false
deriving DecidableEq, Repr

namespace Rule

/-- An option with one value. -/
def single (key : String) (names : List String) (letter : Option Char) : Rule :=
  { key, names, letter }

/-- An option with a list of values. -/
def list (key : String) (names : List String) (letter : Option Char) : Rule :=
  { key, names, letter, arity := .many }

/-- An option without a value. -/
def flag (key : String) (names : List String) (letter : Option Char) : Rule :=
  { key, names, letter, arity := .flag }

/-- Whether values follow the option. -/
def takesValues (rule : Rule) : Bool := rule.arity = .one || rule.arity = .many

end Rule

/-- The files of a command. -/
def fileRule : Rule := { key := "files", names := [], arity := .many, kind := .path }

/-- The rule for `--help`, which every command has. -/
def helpRule : Rule := { key := "help", names := ["help"], letter := some 'h', arity := .help }

/-- What may stand on a command line between the options. -/
inductive Operands (α : Type) where
  | none
  | files
  /-- A command, which ends the options; the function gives what words stand for. -/
  | command (ofWord? : String → Option α)

/-- The options of a command, and what may stand between them. -/
structure Grammar (α : Type) where
  rules : List Rule
  operands : Operands α

/-- The command that a word stands for. -/
def Grammar.command? {α : Type} (g : Grammar α) (word : String) : Option α :=
  match g.operands with
  | .command ofWord? => ofWord? word
  | _ => .none

/-- Why a command line is refused. -/
inductive Rejection where
  | unknownArgument (text : String)
  | unknownCommand (word : String)
  /-- Options, but no command. -/
  | noCommand
  /-- Neither options nor a command. -/
  | nothing
  | missingValue (key : String)
  | unwantedValue (key value : String)
  /-- An option is used twice that may be used once. -/
  | repeated (key : String)
  /-- The value is none of the words, or no path. -/
  | notAllowed (key value : String)
  /-- The value is no number. -/
  | malformed (key value : String)
  | help
  | version
deriving DecidableEq, Repr

/-- The wording of a rejection. -/
def Rejection.message : Rejection → String
  | .unknownArgument text => s!"unexpected argument '{text}'"
  | .unknownCommand word => s!"unknown command '{word}'"
  | .noCommand => "a command is required"
  | .nothing => "a command is required"
  | .missingValue key => s!"a value is required for '{key}'"
  | .unwantedValue key value => s!"unexpected value '{value}' for '{key}'"
  | .repeated key => s!"'{key}' cannot be used more than once"
  | .notAllowed key value => s!"invalid value '{value}' for '{key}'"
  | .malformed key value => s!"invalid value '{value}' for '{key}'"
  | .help => "help"
  | .version => "version"

/-- The natural number that a text stands for. -/
def count? (text : String) : Option Nat :=
  let digits := match text.toList with
    | '+' :: cs => cs
    | cs => cs
  (natural? 10 digits).filter (· < Nat.pow 2 64)

/-- The integer that a text stands for. -/
def integer? (text : String) : Option Int := signed? 64 10 text.toList

/-- Refuses a value that does not look as it should. -/
def Rule.check (rule : Rule) (value : String) : Except Rejection Unit :=
  match rule.kind with
  | .text => .ok ()
  | .path => if value.isEmpty then .error (.notAllowed rule.key value) else .ok ()
  | .word words =>
    if words.contains value then .ok () else .error (.notAllowed rule.key value)
  | .integer => if (integer? value).isSome then .ok () else .error (.malformed rule.key value)
  | .count => if (count? value).isSome then .ok () else .error (.malformed rule.key value)

end ArchiveScout.Command
