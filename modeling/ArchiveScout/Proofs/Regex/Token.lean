import ArchiveScout.Proofs.Regex.Bracket
import ArchiveScout.Proofs.Regex.Match

/-!
# ArchiveScout.Proofs.Regex.Token

**Reading a part of a pattern, taken apart.** Which part it is depends on the flags and on the text
alone, and does so without looking ahead; this is its token. What becomes of the groups depends on
the token alone. Together the two are what the reader does.
-/

namespace ArchiveScout.Regex

variable {f : Flags} {cs t rest : List Char} {c : Char} {r r' : Reader} {token : Token}

/-- What a part of a pattern does. -/
inductive Token where
  | part (part : Part)
  /-- A group that does not capture, with flags of its own. -/
  | opens (flags : Flags)
  /-- A group that captures, perhaps with a name. -/
  | captures (name : Option (List Char))
  | sets (flags : Flags)
  | closes
  | branches
  | repeats (least : Nat) (most : Option Nat) (greedy : Bool)

/-- What a token makes of the groups that are open. -/
def Token.step? (r : Reader) : Token → Option Reader
  | .part p => some (r.add p)
  | .opens flags => some (r.push flags)
  | .captures none => some r.pushCapture
  | .captures (some name) =>
    if r.names.contains name then none else some { r.pushCapture with names := name :: r.names }
  | .sets flags => some ({ r with flags }.add { Part.empty with repeatable := false })
  | .closes => r.pop?
  | .branches => some { r with group := r.group.branch }
  | .repeats least most greedy =>
    (r.group.repeat? least most greedy).map fun group => { r with group }

/-- What a reader does with the token that it reads. -/
def Reader.act (r : Reader) (found : Option (Token × List Char)) : Option (Reader × List Char) :=
  found.bind fun found => (found.1.step? r).map (·, found.2)

/-! ### Groups -/

/-- Whether characters are the name of a group. -/
def isGroupName : List Char → Bool
  | [] => false
  | first :: others => isNameChar true first && others.all (isNameChar false)

/-- A group with a name. -/
def nameToken? : List Char → Option (Token × List Char) :=
  andThen (fun cs => some (cs.takeWhile (· ≠ '>'), cs.dropWhile (· ≠ '>'))) fun name =>
    onHead fun _ rest => if isGroupName name then some (.captures (some name), rest) else none

/-- A group with flags, or flags alone. -/
def flagToken? (f : Flags) : List Char → Option (Token × List Char) :=
  andThen (fun cs => some (cs.takeWhile (fun c => c ≠ ':' && c ≠ ')'),
      cs.dropWhile (fun c => c ≠ ':' && c ≠ ')'))) fun letters =>
    onHead fun c rest => ( f.apply? [] letters).bind fun flags =>
      if c = ':' then some (.opens flags, rest)
      else if c = ')' ∧ letters ≠ [] then some (.sets flags, rest)
      else none

/-- What stands behind an opening parenthesis. -/
def openToken? (f : Flags) (cs : List Char) : Option (Token × List Char) :=
  onMark '?'
    (onMark 'P' (onMark '<' nameToken? fun _ => none)
      (onMark '<' (onMark '=' (fun _ => none) (onMark '!' (fun _ => none) nameToken?))
        (flagToken? f)))
    (fun cs => some (.captures none, cs)) (f.skip cs)

theorem name_eq (r : Reader) (cs : List Char) : r.name? cs = r.act (nameToken? cs) := by
  rw [Reader.name?, Reader.act, nameToken?, andThen, Option.bind_some]
  cases cs.dropWhile (· ≠ '>') with
  | nil =>
      cases cs.takeWhile (· ≠ '>') <;> rfl
  | cons c rest =>
      cases cs.takeWhile (· ≠ '>') with
      | nil => rfl
      | cons first others =>
          simp only [onHead, isGroupName]
          by_cases hname : (isNameChar true first && others.all (isNameChar false)) = true
          · by_cases hused : (first :: others) ∈ r.names
            · simp [hname, hused, Token.step?]
            · simp [hname, hused, Token.step?]
          · simp [hname]

theorem drop_takeWhile (p : Char → Bool) (cs : List Char) :
    cs.drop (cs.takeWhile p).length = cs.dropWhile p := by
  have hcut := List.takeWhile_append_dropWhile (p := p) (l := cs)
  calc cs.drop (cs.takeWhile p).length
    _ = (cs.takeWhile p ++ cs.dropWhile p).drop (cs.takeWhile p).length := by rw [hcut]
    _ = cs.dropWhile p := List.drop_left

/-- The letter of named groups is no flag. -/
theorem flagToken_capital (f : Flags) (cs : List Char) : flagToken? f ('P' :: cs) = none := by
  have hnone : ∀ letters, f.apply? [] ('P' :: letters) = none := fun letters => rfl
  rw [flagToken?, andThen, Option.bind_some, List.takeWhile_cons_of_pos (by decide)]
  simp only [hnone, Option.bind_none, onHead.eq_def]
  split <;> rfl

theorem flags_eq (r : Reader) (cs : List Char) :
    (let letters := cs.takeWhile fun c => c ≠ ':' && c ≠ ')'
     match r.flags.apply? [] letters, cs.drop letters.length with
      | some flags, ':' :: rest => some (r.push flags, rest)
      | some flags, ')' :: rest =>
        if letters = [] then none
        else some ({ r with flags }.add { Part.empty with repeatable := false }, rest)
      | _, _ => none) = r.act (flagToken? r.flags cs) := by
  simp only [drop_takeWhile]
  rw [Reader.act, flagToken?, andThen, Option.bind_some]
  simp only
  generalize cs.takeWhile (fun c => c ≠ ':' && c ≠ ')') = letters
  generalize cs.dropWhile (fun c => c ≠ ':' && c ≠ ')') = behind
  split
  case h_1 flags rest hflags => simp [onHead, hflags, Token.step?]
  case h_2 flags rest hflags =>
    by_cases hletters : letters = []
    · simp [onHead, hletters]
    · simp [onHead, hflags, hletters, Token.step?]
  case h_3 =>
    rename_i behind _ _ hcolon hclosing
    cases hflags : r.flags.apply? [] letters with
    | none => cases behind <;> simp [onHead]
    | some flags =>
        cases behind with
        | nil => rfl
        | cons c rest =>
            have hc : c ≠ ':' := fun hc => hcolon flags rest hflags (hc ▸ rfl)
            have hc' : c ≠ ')' := fun hc => hclosing flags rest hflags (hc ▸ rfl)
            simp [onHead, hc, hc']

theorem open_eq (r : Reader) (cs : List Char) : r.open? cs = r.act (openToken? r.flags cs) := by
  rw [Reader.open?, openToken?]
  split
  case h_1 cs heq =>
    rw [heq, onMark_self, onMark_self, onMark_self, name_eq]
  case h_2 heq =>
    rw [heq, onMark_self, onMark_of_ne (by decide), onMark_self, onMark_self]
    rfl
  case h_3 heq =>
    rw [heq, onMark_self, onMark_of_ne (by decide), onMark_self, onMark_of_ne (by decide),
      onMark_self]
    rfl
  case h_4 cs hahead hnot heq =>
    rw [heq, onMark_self, onMark_of_ne (by decide), onMark_self, onMark_other hahead,
      onMark_other hnot, name_eq]
  case h_5 cs hnamed _ _ hname heq =>
    refine (flags_eq r cs).trans ?_
    rw [heq, onMark_self]
    by_cases hcapital : ∃ rest, cs = 'P' :: rest
    · obtain ⟨rest, rfl⟩ := hcapital
      rw [onMark_self, onMark_other fun rest' h => hnamed rest' (h ▸ rfl), flagToken_capital]
    · rw [onMark_other (not_exists.mp hcapital), onMark_other hname]
  case h_6 hmark =>
    rw [onMark_other hmark]
    rfl

/-! ### Repetitions -/

/-- A repetition, with the mark behind it. -/
def repeatToken? (f : Flags) (least : Nat) (most : Option Nat) (cs : List Char) :
    Option (Token × List Char) :=
  some (.repeats least most (greedyMark f cs).1, (greedyMark f cs).2)

/-- The bounds of a repetition behind its brace. -/
def boundPair? (f : Flags) : List Char → Option ((Nat × Option Nat) × List Char) :=
  andThen (rounds? f) fun least =>
    onMark '\x7d' (fun rest => some ((least, some least), rest))
      (onMark ',' (fun cs => onMark '\x7d' (fun rest => some ((least, none), rest))
          (andThen (rounds? f) fun most =>
            onMark '\x7d'
              (fun rest => if least ≤ most then some ((least, some most), rest) else none)
              fun _ => none)
          (f.skip cs))
        fun _ => none)

theorem bounds_eq (f : Flags) (cs : List Char) : bounds? f cs =
    (boundPair? f (f.skip cs)).map fun found => (found.1.1, found.1.2, found.2) := by
  rw [bounds?, boundPair?, andThen]
  cases rounds? f (f.skip cs) with
  | none => rfl
  | some found =>
      obtain ⟨least, cs⟩ := found
      simp only [bind, Option.bind_some]
      split
      case h_1 => rw [onMark_self]; rfl
      case h_2 cs =>
        rw [onMark_of_ne (by decide), onMark_self]
        split
        case h_1 heq => rw [heq, onMark_self]; rfl
        case h_2 hmark =>
          rw [onMark_other hmark, andThen]
          cases rounds? f (f.skip cs) with
          | none => rfl
          | some found =>
              obtain ⟨most, cs⟩ := found
              simp only [Option.bind_some]
              split
              case h_1 =>
                rw [onMark_self]
                split <;> rfl
              case h_2 hmark => rw [onMark_other hmark]; rfl
      case h_3 hmark hcomma => rw [onMark_other hmark, onMark_other hcomma]; rfl

/-! ### Parts -/

/-- Reads the token of a part, whose first character is `c`. -/
def token? (f : Flags) (c : Char) (cs : List Char) : Option (Token × List Char) :=
  match c with
  | '(' => openToken? f cs
  | ')' => some (.closes, cs)
  | '|' => some (.branches, cs)
  | '?' => repeatToken? f 0 (some 1) cs
  | '*' => repeatToken? f 0 none cs
  | '+' => repeatToken? f 1 none cs
  | '\x7b' => (boundPair? f (f.skip cs)).bind fun found =>
    repeatToken? f found.1.1 found.1.2 (f.skip found.2)
  | '[' => (bracket? f cs).bind fun found =>
    some (.part { Part.ofSet found.1.set with depth := found.1.depth }, found.2)
  | '\\' => (escape? f cs).bind fun found =>
    (found.1.part? f).bind fun part => some (.part part, found.2)
  | '.' => (dotPart? f).bind fun part => some (.part part, cs)
  | '^' => some (.part (.ofLook (startLook f)), cs)
  | '$' => some (.part (.ofLook (endLook f)), cs)
  | c => (charPart? f c false).bind fun part => some (.part part, cs)

theorem act_repeat (r : Reader) (least : Nat) (most : Option Nat) (cs : List Char) :
    r.act (repeatToken? r.flags least most cs) =
      match greedyMark r.flags cs with
      | (greedy, rest) =>
        (r.group.repeat? least most greedy).map fun group => ({ r with group }, rest) := by
  simp only [Reader.act, repeatToken?, Token.step?, Option.bind_some, Option.map_map]
  rfl

/-- The reader reads the token of a part and lets it act. -/
theorem part_eq (r : Reader) (c : Char) (cs : List Char) :
    r.part? c cs = r.act (token? r.flags c cs) := by
  rw [Reader.part?.eq_def]
  split
  case h_1 => exact open_eq r cs
  case h_2 => rfl
  case h_3 => rfl
  case h_4 => exact (act_repeat r 0 (some 1) cs).symm
  case h_5 => exact (act_repeat r 0 none cs).symm
  case h_6 => exact (act_repeat r 1 none cs).symm
  case h_7 =>
    simp only [bounds_eq, token?]
    cases boundPair? r.flags (r.flags.skip cs) with
    | none => rfl
    | some found => exact (act_repeat r _ _ _).symm
  case h_8 =>
    rw [token?]
    cases bracket? r.flags cs <;> rfl
  case h_9 =>
    rw [token?]
    cases escape? r.flags cs with
    | none => rfl
    | some found =>
        obtain ⟨atom, rest⟩ := found
        simp only [bind, Option.bind_some, Reader.act]
        cases atom.part? r.flags <;> rfl
  case h_10 =>
    simp only [token?, Reader.act]
    cases dotPart? r.flags <;> rfl
  case h_11 => rfl
  case h_12 => rfl
  case h_13 =>
    have hother : token? r.flags c cs =
        (charPart? r.flags c false).bind fun part => some (.part part, cs) := by
      rw [token?]
      all_goals assumption
    rw [hother]
    cases charPart? r.flags c false <;> rfl

/-! ### Locality -/

theorem local_nameToken : Local nameToken? :=
  (local_takeWhile _).andThen fun _ => .onHead fun _ => .ite (.give _) .fail

theorem local_flagToken (f : Flags) : Local (flagToken? f) :=
  (local_takeWhile _).andThen fun letters => .onHead fun _ =>
    .of ( f.apply? [] letters) fun _ => .ite (.give _) (.ite (.give _) .fail)

theorem local_openToken (f : Flags) : Local (openToken? f) := by
  have hname : Local (onMark '=' (fun _ => none) (onMark '!' (fun _ => none) nameToken?)) :=
    .onMark '=' .fail (.onMark '!' .fail local_nameToken)
  have hgroup : Local (onMark 'P' (onMark '<' nameToken? fun _ => none)
      (onMark '<' (onMark '=' (fun _ => none) (onMark '!' (fun _ => none) nameToken?))
        (flagToken? f))) :=
    .onMark 'P' (.onMark '<' local_nameToken .fail) (.onMark '<' hname (local_flagToken f))
  have hmark : Local (onMark '?' _ fun cs => some (Token.captures none, cs)) :=
    .onMark '?' hgroup (.give (Token.captures none))
  exact hmark.behind (drops_skip f)

theorem local_repeatToken (f : Flags) (least : Nat) (most : Option Nat) :
    Local (repeatToken? f least most) := by
  have hsame : repeatToken? f least most =
      onMark '?' (fun cs => some (.repeats least most f.lazily, cs))
        (fun cs => some (.repeats least most !f.lazily, cs)) := by
    funext cs
    rw [repeatToken?, greedyMark.eq_def]
    split
    · rw [onMark_self]
    · rename_i hmark
      rw [onMark_other hmark]
  rw [hsame]
  exact .onMark '?' (.give _) (.give _)

theorem local_rounds (f : Flags) : Local (rounds? f) := by
  have hsame : rounds? f = andThen
      (fun cs => some (f.takeRun Char.isDigit (cs.dropWhile Text.isBlank)))
      (fun digits rest => (Number.natural? 10 digits).bind fun n =>
        if n < Nat.pow 2 32 then some (n, f.skip (rest.dropWhile Text.isBlank)) else none) := rfl
  rw [hsame]
  refine ((local_takeRun f _).behind (drops_dropWhile _)).andThen fun digits =>
    .of _ fun n => .ite ?_ .fail
  exact Local.behind (Local.behind (.give n) (drops_skip f)) (drops_dropWhile _)

theorem local_boundPair (f : Flags) : Local (boundPair? f) := by
  have hmost : ∀ least, Local (andThen (rounds? f) fun most => onMark '\x7d'
      (fun rest => if least ≤ most then some ((least, some most), rest) else none)
        fun _ => none) :=
    fun least => (local_rounds f).andThen fun most => .onMark '\x7d' (.ite (.give _) .fail) .fail
  have hcomma : ∀ least, Local (onMark '\x7d' (fun rest => some ((least, none), rest)) _) :=
    fun least => .onMark '\x7d' (.give _) (hmost least)
  exact (local_rounds f).andThen fun least => .onMark '\x7d' (.give (least, some least))
    (.onMark ',' ((hcomma least).behind (drops_skip f)) .fail)

/-- All but what a backslash introduces is read without looking ahead. -/
theorem local_token (hc : c ≠ '\\') : Local (token? f c) := by
  by_cases hopen : c = '('
  · subst hopen
    exact local_openToken f
  by_cases hclose : c = ')'
  · subst hclose
    exact Local.give Token.closes
  by_cases hbranch : c = '|'
  · subst hbranch
    exact Local.give Token.branches
  by_cases hoption : c = '?'
  · subst hoption
    exact local_repeatToken f 0 (some 1)
  by_cases hstar : c = '*'
  · subst hstar
    exact local_repeatToken f 0 none
  by_cases hplus : c = '+'
  · subst hplus
    exact local_repeatToken f 1 none
  by_cases hbrace : c = '\x7b'
  · subst hbrace
    have hbounds : Local (andThen (boundPair? f) _) := (local_boundPair f).andThen fun pair =>
      (local_repeatToken f pair.1 pair.2).behind (drops_skip f)
    exact hbounds.behind (drops_skip f)
  by_cases hbracket : c = '['
  · subst hbracket
    exact (local_bracket f).andThen fun x =>
      .give (Token.part { Part.ofSet x.set with depth := x.depth })
  by_cases hdot : c = '.'
  · subst hdot
    exact Local.of (dotPart? f) fun part => .give (Token.part part)
  by_cases hstart : c = '^'
  · subst hstart
    exact Local.give (Token.part (.ofLook (startLook f)))
  by_cases hend : c = '$'
  · subst hend
    exact Local.give (Token.part (.ofLook (endLook f)))
  have hsame : token? f c = fun cs =>
      (charPart? f c false).bind fun part => some (Token.part part, cs) := by
    funext cs
    rw [token?]
    all_goals assumption
  rw [hsame]
  exact .of _ fun part => .give _

theorem token_suffix (h : token? f c cs = some (token, rest)) : rest <:+ cs := by
  by_cases hc : c = '\\'
  · subst hc
    obtain ⟨⟨atom, mid⟩, hatom, h⟩ := Option.bind_eq_some_iff.mp h
    obtain ⟨part, -, h⟩ := Option.bind_eq_some_iff.mp h
    obtain ⟨-, rfl⟩ := Prod.mk.inj (Option.some.inj h)
    exact escape_suffix hatom
  · exact (local_token hc).suffix h

/-- A brace behind which nothing stands is left. -/
def LeavesBrace (f : Flags) (rest : List Char) : Prop :=
  ∃ inside, rest = '\x7b' :: inside ∧ f.skip inside = []

/-- A token is read without what stands behind it, but for an edge of a word in front of a brace. -/
theorem token_alone (h : token? f c (cs ++ t) = some (token, rest ++ t)) :
    token? f c cs = some (token, rest) ∨ LeavesBrace f rest ∧ ∃ part, token = .part part := by
  by_cases hc : c = '\\'
  · subst hc
    obtain ⟨⟨atom, mid⟩, hatom, h⟩ := Option.bind_eq_some_iff.mp h
    obtain ⟨part, hpart, h⟩ := Option.bind_eq_some_iff.mp h
    obtain ⟨rfl, rfl⟩ := Prod.mk.inj (Option.some.inj h)
    refine (escape_alone hatom).imp (fun halone => ?_) fun hbrace => ⟨hbrace.2, part, rfl⟩
    exact Option.bind_eq_some_iff.mpr ⟨_, halone, Option.bind_eq_some_iff.mpr ⟨_, hpart, rfl⟩⟩
  · exact .inl ((local_token hc).alone h)

/-! ### Parentheses -/

/-- Whether a token is one of those that an opening parenthesis introduces. -/
def Token.IsOpening : Token → Prop
  | .opens _ | .captures _ | .sets _ => True
  | _ => False

theorem nameToken_isOpening (h : nameToken? cs = some (token, rest)) : token.IsOpening := by
  obtain ⟨name, mid, -, h⟩ := of_andThen h
  obtain ⟨c, inside, h⟩ := of_onHead h
  split at h
  · obtain ⟨rfl, -⟩ := Prod.mk.inj (Option.some.inj h)
    trivial
  · exact absurd h (by simp)

theorem flagToken_isOpening (h : flagToken? f cs = some (token, rest)) : token.IsOpening := by
  obtain ⟨letters, mid, -, h⟩ := of_andThen h
  obtain ⟨c, inside, h⟩ := of_onHead h
  obtain ⟨flags, -, h⟩ := Option.bind_eq_some_iff.mp h
  split at h
  · obtain ⟨rfl, -⟩ := Prod.mk.inj (Option.some.inj h)
    trivial
  · split at h
    · obtain ⟨rfl, -⟩ := Prod.mk.inj (Option.some.inj h)
      trivial
    · exact absurd h (by simp)

theorem openToken_isOpening (h : openToken? f cs = some (token, rest)) : token.IsOpening := by
  rcases of_onMark h with ⟨inside, h⟩ | h
  · rcases of_onMark h with ⟨inside, h⟩ | h
    · rcases of_onMark h with ⟨inside, h⟩ | h
      · exact nameToken_isOpening h
      · exact absurd h (by simp)
    · rcases of_onMark h with ⟨inside, h⟩ | h
      · rcases of_onMark h with ⟨inside, h⟩ | h
        · exact absurd h (by simp)
        · rcases of_onMark h with ⟨inside, h⟩ | h
          · exact absurd h (by simp)
          · exact nameToken_isOpening h
      · exact flagToken_isOpening h
  · obtain ⟨rfl, -⟩ := Prod.mk.inj (Option.some.inj h)
    trivial

/-- Only a closing parenthesis closes. -/
theorem token_closes (h : token? f c cs = some (.closes, rest)) : c = ')' ∧ cs = rest := by
  rw [token?.eq_def] at h
  split at h
  case h_1 => exact (openToken_isOpening h).elim
  case h_2 => exact ⟨rfl, (Prod.mk.inj (Option.some.inj h)).2⟩
  case h_7 =>
    obtain ⟨found, -, h⟩ := Option.bind_eq_some_iff.mp h
    exact absurd h (by simp [repeatToken?])
  case h_9 =>
    obtain ⟨found, -, h⟩ := Option.bind_eq_some_iff.mp h
    obtain ⟨part, -, h⟩ := Option.bind_eq_some_iff.mp h
    exact absurd h (by simp)
  case h_8 | h_10 | h_13 =>
    obtain ⟨found, -, h⟩ := Option.bind_eq_some_iff.mp h
    exact absurd h (by simp)
  all_goals exact absurd h (by simp [repeatToken?])

/-- No bounds stand in front of a closing parenthesis. -/
theorem boundPair_closing (f : Flags) (cs : List Char) : boundPair? f (')' :: cs) = none := by
  have hblank : (')' :: cs).dropWhile Text.isBlank = ')' :: cs :=
    List.dropWhile_cons_of_neg (by decide)
  have hdigits : (f.takeRun Char.isDigit (')' :: cs)).1 = [] := by
    have hnotBlank : (f.verbose && Text.isBlank ')') = false := by
      rw [show Text.isBlank ')' = false from rfl, Bool.and_false]
    rw [Flags.takeRun, takeSkipping, if_neg (by decide), hnotBlank]
    simp
  have hrounds : rounds? f (')' :: cs) = none := by
    rw [rounds?, hblank]
    simp only [hdigits]
    rfl
  rw [boundPair?, andThen, hrounds]
  rfl

/-! ### Bounds in order -/

/-- Whether all bounds of a token are in order. -/
def Token.Orderly : Token → Prop
  | .part p => p.node.Orderly
  | .repeats least most _ => ∀ m, most = some m → least ≤ m
  | _ => True

theorem Token.IsOpening.orderly (h : token.IsOpening) : token.Orderly := by
  cases token with
  | opens | captures | sets => trivial
  | part | closes | branches | repeats => exact h.elim

theorem boundPair_orderly {pair : Nat × Option Nat} (h : boundPair? f cs = some (pair, rest)) :
    ∀ m, pair.2 = some m → pair.1 ≤ m := by
  obtain ⟨least, mid, -, h⟩ := of_andThen h
  rcases of_onMark h with ⟨inside, h⟩ | h
  · obtain ⟨rfl, -⟩ := Prod.mk.inj (Option.some.inj h)
    rintro m hm
    exact Nat.le_of_eq (Option.some.inj hm)
  · rcases of_onMark h with ⟨inside, h⟩ | h
    · rcases of_onMark h with ⟨inside, h⟩ | h
      · obtain ⟨rfl, -⟩ := Prod.mk.inj (Option.some.inj h)
        rintro m hm
        exact absurd hm (by simp)
      · obtain ⟨most, mid, -, h⟩ := of_andThen h
        rcases of_onMark h with ⟨inside, h⟩ | h
        · split at h
          · rename_i horder
            obtain ⟨rfl, -⟩ := Prod.mk.inj (Option.some.inj h)
            rintro m hm
            exact Option.some.inj hm ▸ horder
          · exact absurd h (by simp)
        · exact absurd h (by simp)
    · exact absurd h (by simp)

theorem charPart_orderly {part : Part} {asByte : Bool} (h : charPart? f c asByte = some part) :
    part.node.Orderly := by
  rw [charPart?] at h
  split at h
  · exact absurd h (by simp)
  · split at h
    all_goals
      obtain rfl := Option.some.inj h
      trivial

theorem atom_orderly {atom : Atom} {part : Part} (h : atom.part? f = some part) :
    part.node.Orderly := by
  cases atom with
  | char c asByte => exact charPart_orderly h
  | set s =>
      obtain rfl := Option.some.inj h
      trivial
  | look l =>
      obtain rfl := Option.some.inj h
      trivial

theorem token_orderly (h : token? f c cs = some (token, rest)) : token.Orderly := by
  rw [token?.eq_def] at h
  split at h
  case h_1 => exact (openToken_isOpening h).orderly
  case h_4 =>
    obtain ⟨rfl, -⟩ := Prod.mk.inj (Option.some.inj h)
    rintro m hm
    exact Nat.zero_le m
  case h_7 =>
    obtain ⟨⟨pair, mid⟩, hbounds, h⟩ := Option.bind_eq_some_iff.mp h
    obtain ⟨rfl, -⟩ := Prod.mk.inj (Option.some.inj h)
    exact boundPair_orderly hbounds
  case h_8 =>
    obtain ⟨found, -, h⟩ := Option.bind_eq_some_iff.mp h
    obtain ⟨rfl, -⟩ := Prod.mk.inj (Option.some.inj h)
    trivial
  case h_9 =>
    obtain ⟨found, -, h⟩ := Option.bind_eq_some_iff.mp h
    obtain ⟨part, hpart, h⟩ := Option.bind_eq_some_iff.mp h
    obtain ⟨rfl, -⟩ := Prod.mk.inj (Option.some.inj h)
    exact atom_orderly hpart
  case h_10 =>
    obtain ⟨part, hpart, h⟩ := Option.bind_eq_some_iff.mp h
    obtain ⟨rfl, -⟩ := Prod.mk.inj (Option.some.inj h)
    rw [dotPart?] at hpart
    split at hpart
    · exact absurd hpart (by simp)
    · obtain rfl := Option.some.inj hpart
      trivial
  case h_13 =>
    obtain ⟨part, hpart, h⟩ := Option.bind_eq_some_iff.mp h
    obtain ⟨rfl, -⟩ := Prod.mk.inj (Option.some.inj h)
    exact charPart_orderly hpart
  case h_5 | h_6 =>
    obtain ⟨rfl, -⟩ := Prod.mk.inj (Option.some.inj h)
    rintro m hm
    exact absurd hm (by simp)
  all_goals
    obtain ⟨rfl, -⟩ := Prod.mk.inj (Option.some.inj h)
    trivial

end ArchiveScout.Regex
