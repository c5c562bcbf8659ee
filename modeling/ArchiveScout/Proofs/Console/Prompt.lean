import ArchiveScout.Console.Prompt
import Mathlib.Data.List.Basic

/-!
# ArchiveScout.Proofs.Console.Prompt

**One answer for each question.** Where the whole input is known, and nobody waits and nobody
listens, a question takes the first of the lines that are left, or finds the end, and the others
stay as they are. The answer is to overwrite where that line says `y`, to merge where merging is
offered and it says `m`, and to skip in all other cases.
-/

namespace ArchiveScout.Console

/-! ### Transcripts -/

namespace Transcript

/-- The questions that have been asked. -/
def questions (t : Transcript) : List String :=
  t.entries.filterMap fun
    | .question text => some text
    | .line _ => none

@[simp] theorem lines_write (t : Transcript) (text : String) :
    (t.write text).lines = t.lines ++ [text] := by
  simp [lines, write]

@[simp] theorem lines_ask (t : Transcript) (text : String) : (t.ask text).lines = t.lines := by
  simp [lines, ask]

@[simp] theorem lines_clearStatus (t : Transcript) : t.clearStatus.lines = t.lines := rfl

@[simp] theorem questions_write (t : Transcript) (text : String) :
    (t.write text).questions = t.questions := by
  simp [questions, write]

@[simp] theorem questions_ask (t : Transcript) (text : String) :
    (t.ask text).questions = t.questions ++ [text] := by
  simp [questions, ask]

end Transcript

/-! ### Answers -/

/-- There is a line, and but for blanks around it, it is a letter in either case. -/
def Says (letter : Char) (line : Option String) : Prop :=
  ∃ text ∈ line, ∃ c, Text.trim text.toList = [c] ∧ (c = letter ∨ c = letter.toUpper)

/-- Only ASCII letters have two cases here. -/
theorem toLower_eq_iff {letter : Char} (hletter : letter.isLower = true) (c : Char) :
    c.toLower = letter ↔ c = letter ∨ c = letter.toUpper := by
  have hrange : 97 ≤ letter.toNat ∧ letter.toNat ≤ 122 := by
    have hbounds : (decide (97 ≤ letter.val) && decide (letter.val ≤ 122)) = true := hletter
    simpa [UInt32.le_iff_toNat_le] using hbounds
  have hlower : 'a'.val ≤ letter.val ∧ letter.val ≤ 'z'.val := by
    simpa [UInt32.le_iff_toNat_le] using hrange
  unfold Char.toLower Char.toUpper
  rw [dif_pos hlower]
  split
  · rename_i hupper
    have hbetween : 65 ≤ c.toNat ∧ c.toNat ≤ 90 := by
      simpa [UInt32.le_iff_toNat_le] using hupper
    simp only [↓Char.isValue, Char.reduceVal, UInt32.reduceSub, Char.ext_iff,
      ← UInt32.toNat_inj, UInt32.toNat_add, Char.toNat_val, UInt32.reduceToNat, Nat.reducePow]
    omega
  · rename_i hupper
    have hbetween : 65 ≤ c.toNat → 90 < c.toNat := by
      simpa [UInt32.le_iff_toNat_le] using hupper
    simp only [↓Char.isValue, Char.reduceVal, UInt32.reduceSub, Char.ext_iff,
      ← UInt32.toNat_inj, UInt32.toNat_add, Char.toNat_val, UInt32.reduceToNat, Nat.reducePow]
    omega

theorem isLetter_iff {letter : Char} (hletter : letter.isLower = true) (text : String) :
    isLetter letter text = true ↔ Says letter (some text) := by
  simp only [isLetter, Says, beq_iff_eq, List.map_eq_singleton_iff, Option.mem_def,
    Option.some.injEq, exists_eq_left', toLower_eq_iff hletter]

theorem not_says_none (letter : Char) : ¬ Says letter none := by
  rintro ⟨text, hmem, -⟩
  exact absurd hmem (by simp)

/-- A line says one letter at most. -/
theorem not_says_y_of_m {line : Option String} (h : Says 'm' line) : ¬ Says 'y' line := by
  obtain ⟨text, hmem, c, htrim, hc⟩ := h
  rintro ⟨text', hmem', c', htrim', hc'⟩
  obtain rfl := Option.mem_unique hmem hmem'
  obtain rfl : c = c' := List.singleton_inj.mp (htrim.symm.trans htrim')
  rcases hc with rfl | rfl
  · exact absurd hc' (by decide)
  · exact absurd hc' (by decide)

/-- The reply to a caller for whom a line has come, or the end. -/
def Reply.ofLine : Option String → Reply
  | some text => .line text
  | none => .ended

theorem ofReply_eq_overwrite_iff (allowMerge : Bool) (line : Option String) :
    Choice.ofReply allowMerge (some (.ofLine line)) = .overwrite ↔ Says 'y' line := by
  cases line with
  | none => simp [Reply.ofLine, Choice.ofReply, not_says_none]
  | some text =>
      rw [Reply.ofLine, Choice.ofReply, Choice.ofAnswer, ← isLetter_iff (by decide)]
      split
      · rename_i hy
        simp [hy]
      · rename_i hy
        split <;> simp [hy]

theorem ofReply_eq_merge_iff (allowMerge : Bool) (line : Option String) :
    Choice.ofReply allowMerge (some (.ofLine line)) = .merge ↔
      allowMerge = true ∧ Says 'm' line := by
  cases line with
  | none => simp [Reply.ofLine, Choice.ofReply, not_says_none]
  | some text =>
      have hother : Says 'm' (some text) → isLetter 'y' text ≠ true := fun hm hy =>
        not_says_y_of_m hm ((isLetter_iff (by decide) text).mp hy)
      rw [Reply.ofLine, Choice.ofReply, Choice.ofAnswer]
      rw [← isLetter_iff (by decide)] at hother ⊢
      split
      · rename_i hy
        simpa using fun _ hm => hother hm hy
      · simp

/-! ### Lines -/

namespace LineInput

/-- These lines are left, and no others will come. Nobody waits for one and nobody listens. -/
structure Holds (i : LineInput) (lines : List String) : Prop where
  lines : i.routing.queue ++ i.unread = lines
  ended : i.ended = true
  caller : i.caller = none
  waiting : i.routing.waiting = 0
  listener : i.routing.listener = none

variable {i : LineInput} {lines : List String}

theorem holds_ofLines (lines : List String) : (ofLines lines).Holds lines :=
  ⟨rfl, rfl, rfl, rfl, rfl⟩

/-- Lines that nobody waits for or hears of are queued. -/
theorem routeAll_of_quiet (i : LineInput) (hcaller : i.caller = none)
    (hwaiting : i.routing.waiting = 0) (hlistener : i.routing.listener = none)
    (texts : List String) :
    i.routeAll texts =
      ({ i with routing := { i.routing with queue := i.routing.queue ++ texts } }, {}) := by
  induction texts generalizing i with
  | nil => simp [routeAll]
  | cons text texts ih =>
      have hroute : i.routing.route text =
          ({ i.routing with queue := i.routing.queue ++ [text] }, none) := by
        simp [Routing.route, hwaiting, hlistener]
      have hrest := ih { i with routing := { i.routing with queue := i.routing.queue ++ [text] } }
        hcaller hwaiting hlistener
      dsimp only at hrest
      rw [routeAll, hroute]
      simp only [wakeCaller, hcaller] at hrest ⊢
      rw [hrest]
      simp

/-- What is left when all of it has been read. -/
theorem Holds.settle (h : i.Holds lines) : { i with started := true }.settle =
    ({ i with started := true, unread := []
              routing := { i.routing with queue := lines, closed := true } }, {}) := by
  obtain ⟨hlines, hended, hcaller, hwaiting, hlistener⟩ := h
  have hroute := routeAll_of_quiet { i with started := true, unread := [] } hcaller hwaiting
    hlistener i.unread
  dsimp only at hroute
  rw [LineInput.settle, if_neg (by simp)]
  dsimp only
  rw [hroute]
  dsimp only
  rw [if_neg (by simp [hended]), hlines]
  simp only [wakeCaller, hcaller]
  rfl

/-- A caller takes the first of the lines that are left, or finds the end. -/
theorem Holds.next (h : i.Holds lines) (caller : Nat) :
    (i.next caller).1.Holds lines.tail ∧
      (i.next caller).2 = { reply := some (.ofLine lines.head?) } := by
  rw [LineInput.next, h.settle]
  obtain ⟨-, hended, hcaller, hwaiting, hlistener⟩ := h
  cases lines with
  | nil => exact ⟨⟨rfl, hended, hcaller, hwaiting, hlistener⟩, rfl⟩
  | cons text lines => exact ⟨⟨List.append_nil _, hended, hcaller, hwaiting, hlistener⟩, rfl⟩

end LineInput

/-- A question takes the first of the lines that are left, and nobody hears of any. -/
theorem ask_console {input : LineInput} {lines : List String} (h : input.Holds lines) (dir : String)
    (allowMerge : Bool) (t : Transcript) : ∃ rest,
      Prompt.console.ask dir allowMerge t input =
        (.ofReply allowMerge (some (.ofLine lines.head?)), [], t.ask (question dir allowMerge),
          rest) ∧ rest.Holds lines.tail := by
  obtain ⟨hrest, hreply⟩ := h.next 0
  refine ⟨_, ?_, hrest⟩
  rw [Prompt.ask]
  dsimp only
  rw [hreply]

end ArchiveScout.Console
