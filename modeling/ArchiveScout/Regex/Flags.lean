import ArchiveScout.Text.Blank

/-!
# ArchiveScout.Regex.Flags

**Flags of a pattern, and blanks between its parts.** A flag holds from where it is
set to the end of its group. With `verbose`, blanks and comments between the parts of
a pattern mean nothing; `skip` drops them, and `takeSkipping` reads a run of
characters with blanks and comments in between.
-/

namespace ArchiveScout.Regex

open ArchiveScout.Text (isBlank)

/-- The flags in force at a place of a pattern. -/
structure Flags where
  ignoreCase : Bool := false
  multiLine : Bool := false
  dotAll : Bool := false
  carriageReturn : Bool := false
  verbose : Bool := false
  unicode : Bool := true
  /-- Repetitions prefer few rounds unless they are marked. -/
  lazily : Bool := false
deriving DecidableEq, Repr

/-- A flag letter switched on or off; `none` when the letter is no flag. -/
def Flags.set? (f : Flags) (letter : Char) (on : Bool) : Option Flags :=
  match letter with
  | 'i' => some { f with ignoreCase := on }
  | 'm' => some { f with multiLine := on }
  | 's' => some { f with dotAll := on }
  | 'R' => some { f with carriageReturn := on }
  | 'x' => some { f with verbose := on }
  | 'u' => some { f with unicode := on }
  | 'U' => some { f with lazily := on }
  | _ => none

/-- Flags in front of `:` or `)`: letters, and at most one hyphen with letters behind
it, which it switches off. No letter stands twice. -/
def Flags.apply? (f : Flags) (seen : List Char) : List Char → Option Flags
  | [] => if seen.head? = some '-' then none else some f
  | c :: cs =>
    if c ∈ seen then none
    else if c = '-' then f.apply? (c :: seen) cs
    else match f.set? c ('-' ∉ seen) with
      | some f => f.apply? (c :: seen) cs
      | none => none

/-- Drops blanks and comments; a comment runs from `#` to the end of its line. -/
def skipTrivia (inComment : Bool) : List Char → List Char
  | [] => []
  | c :: cs =>
    if inComment then skipTrivia (c ≠ '\n') cs
    else if isBlank c then skipTrivia false cs
    else if c = '#' then skipTrivia true cs
    else c :: cs

/-- Drops blanks and comments where they mean nothing. -/
def Flags.skip (f : Flags) (cs : List Char) : List Char :=
  if f.verbose then skipTrivia false cs else cs

/-- The longest run of characters that satisfy `p`, and the rest. With `verbose`,
blanks and comments between and behind them are dropped. -/
def takeSkipping (verbose : Bool) (p : Char → Bool) (inComment : Bool) :
    List Char → List Char × List Char
  | [] => ([], [])
  | c :: cs =>
    if inComment then takeSkipping verbose p (c ≠ '\n') cs
    else if verbose && isBlank c then takeSkipping verbose p false cs
    else if verbose && c = '#' then takeSkipping verbose p true cs
    else if p c then
      let (run, rest) := takeSkipping verbose p false cs
      (c :: run, rest)
    else ([], c :: cs)

/-- `takeSkipping` under the flags of a place. -/
def Flags.takeRun (f : Flags) (p : Char → Bool) (cs : List Char) : List Char × List Char :=
  takeSkipping f.verbose p false cs

/-- What stands in front of a closing brace, and what stands behind it. -/
def Flags.braced? (f : Flags) (cs : List Char) : Option (List Char × List Char) :=
  match f.takeRun (· ≠ '\x7d') cs with
  | (inside, _ :: rest) => some (inside, rest)
  | (_, []) => none

end ArchiveScout.Regex
