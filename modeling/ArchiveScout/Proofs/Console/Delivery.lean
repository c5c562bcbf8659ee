import ArchiveScout.Proofs.Console.Routing

/-!
# ArchiveScout.Proofs.Console.Delivery

**Every line is delivered once and in order.** A `Delivery` is input under way: the source with the
reader in front of it, what all users share, and what they have got. The reader takes a line out of
the source, routes it, and calls the listener where the line goes to one, and whatever the others
do may come in between. A call returns when its caller has a line or has found the end, and the
calls that have returned are kept in the order in which they did.

Each line that the reader is done with has one `Fate`. Seen all together, the fates say which calls
returned which lines, which listeners were called, and what is queued (`Settled`); no line passes
another one on its way to a caller.

A source is a list of lines, in which `none` is a failure to read. An input whose reader cannot be
started is one that fails at once.
-/

namespace ArchiveScout.Console

namespace Routing

/-- All that a caller can get, with what it leaves behind. -/
inductive Answer (r : Routing) : Routing × Reply → Prop where
  | line {r' : Routing} {text : String} : r.queue = text :: r'.queue → r'.closed = r.closed →
      Answer r (r', .line text)
  | ended {r' : Routing} : r.queue = [] → r'.queue = [] → r.closed = true → r'.closed = true →
      Answer r (r', .ended)
  | wait {r' : Routing} : r'.queue = r.queue → r'.closed = r.closed → Answer r (r', .wait)

theorem answer_enter (r : Routing) (caller : Nat) : Answer r (r.enter caller) := by
  unfold enter
  cases hqueue : r.queue with
  | cons text queue => exact .line hqueue rfl
  | nil =>
      cases hclosed : r.closed with
      | true => exact .ended hqueue hqueue hclosed hclosed
      | false => exact .wait hqueue.symm hclosed.symm

theorem answer_wake (r : Routing) (caller : Nat) : Answer r (r.wake caller) := by
  unfold wake
  cases hqueue : r.queue with
  | cons text queue => exact .line hqueue rfl
  | nil =>
      cases hclosed : r.closed with
      | true => exact .ended hqueue rfl hclosed rfl
      | false => exact .wait rfl rfl

/-- A line goes to the end of the queue, or to the listener. -/
theorem route_cases (r : Routing) (text : String) :
    (∃ r', r.route text = (r', none) ∧ r'.queue = r.queue ++ [text] ∧ r'.closed = r.closed) ∨
    ∃ listener, r.route text = (r, some listener) := by
  unfold route
  split
  · exact .inl ⟨_, rfl, rfl, rfl⟩
  · cases r.listener with
    | none => exact .inl ⟨_, rfl, rfl, rfl⟩
    | some listener => exact .inr ⟨listener, rfl⟩

end Routing

/-- What the reader is doing. -/
inductive Reader where
  /-- It has not been started. -/
  | asleep
  | reading
  /-- It has a line that is not routed yet. -/
  | holding (text : String)
  /-- It has routed a line to a listener that is not called yet. -/
  | calling (text : String) (listener : Nat)
  | done
deriving DecidableEq, Repr

/-- The line that the reader is not done with. -/
def Reader.hand : Reader → List String
  | .holding text | .calling text _ => [text]
  | .asleep | .reading | .done => []

/-- Input under way. -/
structure Delivery where
  /-- What has not been read. -/
  source : List (Option String)
  reader : Reader := .asleep
  routing : Routing := {}
  /-- The lines that the reader is done with. -/
  dealt : List String := []
  /-- The calls that have returned: by whom, and the line, unless it found the end. -/
  replies : List (Nat × Option String) := []
  /-- The listeners that have been called. -/
  heard : List Nat := []
deriving DecidableEq, Repr

namespace Delivery

variable {s s' : Delivery} {caller listener : Nat} {text : String} {routing : Routing}

/-- What can happen next. -/
inductive Event where
  /-- A caller or one who sets a listener starts the reader. -/
  | start
  /-- A caller that is not blocked asks for a line. -/
  | enter (caller : Nat)
  /-- A blocked caller looks again. -/
  | wake (caller : Nat)
  /-- The reader takes a line out of the source. -/
  | read
  /-- The reader routes its line. -/
  | route
  /-- The reader calls the listener that its line goes to. -/
  | call
  /-- The reader finds the end of the source, or fails. -/
  | close
  | listen (listener : Nat)
deriving DecidableEq, Repr

variable {event : Event} {events : List Event} {source : List (Option String)}

/-- What a caller has got is kept, and so is what it left behind. -/
def reply (s : Delivery) (caller : Nat) : Routing × Reply → Delivery
  | (routing, .line text) => { s with routing, replies := s.replies ++ [(caller, some text)] }
  | (routing, .ended) => { s with routing, replies := s.replies ++ [(caller, none)] }
  | (routing, .wait) => { s with routing }

/-- The reader is done with a line that it routed, or has to call a listener. -/
def dispatch (s : Delivery) (text : String) : Routing × Option Nat → Delivery
  | (routing, none) => { s with routing, reader := .reading, dealt := s.dealt ++ [text] }
  | (routing, some listener) => { s with routing, reader := .calling text listener }

/-- What an event does; `none` where it is not possible. -/
def step? (s : Delivery) : Event → Option Delivery
  | .start => if s.reader = .asleep then some { s with reader := .reading } else none
  | .enter caller =>
      if s.reader = .asleep ∨ caller ∈ s.routing.blocked then none
      else some (s.reply caller (s.routing.enter caller))
  | .wake caller =>
      if caller ∈ s.routing.blocked then some (s.reply caller (s.routing.wake caller)) else none
  | .read =>
      match s.reader, s.source with
      | .reading, some text :: source => some { s with reader := .holding text, source }
      | _, _ => none
  | .route =>
      match s.reader with
      | .holding text => some (s.dispatch text (s.routing.route text))
      | _ => none
  | .call =>
      match s.reader with
      | .calling text listener => some { s with
          reader := .reading, dealt := s.dealt ++ [text], heard := s.heard ++ [listener] }
      | _ => none
  | .close =>
      match s.reader, s.source with
      | .reading, some _ :: _ => none
      | .reading, _ => some { s with routing := s.routing.close, reader := .done }
      | _, _ => none
  | .listen listener => some { s with routing := s.routing.listen listener }

/-- What events do one after another. -/
def run? (s : Delivery) : List Event → Option Delivery
  | [] => some s
  | event :: events => (s.step? event).bind (·.run? events)

/-- The lines of a source up to its first failure. -/
def readable : List (Option String) → List String
  | some text :: source => text :: readable source
  | [] | none :: _ => []

/-- What has become of a line. -/
inductive Fate where
  | returned (caller : Nat)
  | heard (listener : Nat)
  | queued
deriving DecidableEq, Repr

namespace Fate

/-- The call that returned a line. -/
def returned? : String × Fate → Option (Nat × String)
  | (text, .returned caller) => some (caller, text)
  | _ => none

/-- The listener that was called for a line. -/
def heard? : String × Fate → Option Nat
  | (_, .heard listener) => some listener
  | _ => none

/-- A line that is queued. -/
def queued? : String × Fate → Option String
  | (text, .queued) => some text
  | _ => none

end Fate

/-- The lines that calls have returned, with their callers. -/
def returned (s : Delivery) : List (Nat × String) :=
  s.replies.filterMap fun (caller, line) => line.map (caller, ·)

/-- What has become of the lines that the reader is done with. -/
structure Settled (s : Delivery) (fates : List (String × Fate)) : Prop where
  /-- There is one fate for each line. -/
  lines : fates.map Prod.fst = s.dealt
  /-- The calls have returned these lines, in this order. -/
  returned : fates.filterMap Fate.returned? = s.returned
  heard : fates.filterMap Fate.heard? = s.heard
  queued : fates.filterMap Fate.queued? = s.routing.queue
  /-- Behind a line that is queued, none has been returned. -/
  later : fates.Pairwise fun x y => x.2 = .queued → ∀ caller, y.2 ≠ .returned caller

/-- What is so at every point of input from a source. -/
structure Sound (source : List (Option String)) (s : Delivery) : Prop where
  settled : ∃ fates, s.Settled fates
  /-- Nothing of the source is lost, and nothing is out of place. -/
  lines : s.dealt ++ s.reader.hand ++ readable s.source = readable source
  closed : s.routing.closed = true → s.reader = .done ∧ readable s.source = []
  /-- A call has returned without a line only behind the last one. -/
  ended : ∀ caller, (caller, none) ∈ s.replies → s.routing.closed = true ∧ s.routing.queue = []

/-! ### Fates -/

theorem filterMap_returned_eq_nil {fates : List (String × Fate)}
    (h : ∀ x ∈ fates, ∀ caller, x.2 ≠ .returned caller) :
    fates.filterMap Fate.returned? = [] := by
  rw [List.filterMap_eq_nil_iff]
  intro x hx
  obtain ⟨text, fate⟩ := x
  cases fate with
  | returned caller => exact absurd rfl (h _ hx caller)
  | heard listener => rfl
  | queued => rfl

/-- The first queued line is in front of the others, and none behind it has been returned. -/
theorem Settled.exists_first {fates : List (String × Fate)} {queue : List String}
    (h : s.Settled fates) (hqueue : s.routing.queue = text :: queue) :
    ∃ front back, fates = front ++ (text, .queued) :: back ∧
      front.filterMap Fate.queued? = [] ∧ back.filterMap Fate.queued? = queue ∧
      back.filterMap Fate.returned? = [] := by
  obtain ⟨front, x, back, rfl, hfront, hx, hback⟩ :=
    List.filterMap_eq_cons_iff.mp (h.queued.trans hqueue)
  obtain ⟨text', fate⟩ := x
  cases fate with
  | returned caller => exact absurd hx (by simp [Fate.queued?])
  | heard listener => exact absurd hx (by simp [Fate.queued?])
  | queued =>
      obtain rfl : text' = text := Option.some.inj hx
      have hlater := (List.pairwise_cons.mp (List.pairwise_append.mp h.later).2.1).1
      refine ⟨front, back, rfl, List.filterMap_eq_nil_iff.mpr hfront, hback, ?_⟩
      exact filterMap_returned_eq_nil fun y hy => hlater y hy rfl

/-- A caller takes the first line of the queue. -/
theorem Settled.take {fates : List (String × Fate)} {queue : List String} (h : s.Settled fates)
    (hqueue : s.routing.queue = text :: queue) (hrouting : routing.queue = queue) :
    ∃ fates, (s.reply caller (routing, .line text)).Settled fates := by
  obtain ⟨front, back, rfl, hfront, hback, hnone⟩ := h.exists_first hqueue
  refine ⟨front ++ (text, .returned caller) :: back, ?_, ?_, ?_, ?_, ?_⟩
  · show _ = s.dealt
    rw [← h.lines, List.map_append, List.map_append, List.map_cons, List.map_cons]
  · -- No line behind this one has been returned, so its call is the last one.
    have hreturned := h.returned
    simp only [List.filterMap_append, List.filterMap_cons, Fate.returned?, hnone,
      List.append_nil] at hreturned ⊢
    rw [hreturned, Delivery.returned, Delivery.returned, reply, List.filterMap_append]
    rfl
  · show _ = s.heard
    rw [← h.heard, List.filterMap_append, List.filterMap_append]
    rfl
  · show _ = routing.queue
    rw [List.filterMap_append, hfront, hrouting, ← hback]
    rfl
  · have hlater := h.later
    simp only [List.pairwise_append, List.pairwise_cons, List.mem_cons, forall_eq_or_imp]
      at hlater ⊢
    obtain ⟨hbefore, ⟨-, hafter⟩, hcross⟩ := hlater
    refine ⟨hbefore, ⟨fun y _ hqueued => absurd hqueued (by simp), hafter⟩, ?_⟩
    intro x hx
    refine ⟨fun hqueued => ?_, (hcross x hx).2⟩
    -- There is no queued line in front of the first one.
    obtain ⟨text', fate⟩ := x
    obtain rfl : fate = .queued := hqueued
    exact absurd (List.filterMap_eq_nil_iff.mp hfront _ hx) (by simp [Fate.queued?])

/-- A line that has just been read comes behind the others, and no call has returned it. -/
theorem Settled.concat {fates : List (String × Fate)} (h : s.Settled fates) (fate : Fate)
    (hlines : s'.dealt = s.dealt ++ [text]) (hreplies : s'.replies = s.replies)
    (hfate : ∀ caller, fate ≠ .returned caller)
    (hheard : s'.heard = s.heard ++ (Fate.heard? (text, fate)).toList)
    (hqueued : s'.routing.queue = s.routing.queue ++ (Fate.queued? (text, fate)).toList) :
    s'.Settled (fates ++ [(text, fate)]) where
  lines := by simp [h.lines, hlines]
  returned := by
    have hnone : [(text, fate)].filterMap Fate.returned? = [] := by
      apply filterMap_returned_eq_nil
      intro x hx
      rw [List.mem_singleton.mp hx]
      exact hfate
    rw [List.filterMap_append, hnone, List.append_nil, h.returned, Delivery.returned,
      Delivery.returned, hreplies]
  heard := by
    rw [List.filterMap_append, h.heard, hheard]
    cases hcall : Fate.heard? (text, fate) <;> simp [hcall]
  queued := by
    rw [List.filterMap_append, h.queued, hqueued]
    cases hcall : Fate.queued? (text, fate) <;> simp [hcall]
  later := by
    refine List.pairwise_append.mpr ⟨h.later, List.pairwise_singleton _ _, ?_⟩
    intro x _ y hy _
    rw [List.mem_singleton.mp hy]
    exact hfate

theorem Settled.congr {fates : List (String × Fate)} (h : s.Settled fates)
    (hlines : s'.dealt = s.dealt) (hreturned : s'.returned = s.returned)
    (hheard : s'.heard = s.heard) (hqueue : s'.routing.queue = s.routing.queue) :
    s'.Settled fates where
  lines := by rw [h.lines, hlines]
  returned := by rw [h.returned, hreturned]
  heard := by rw [h.heard, hheard]
  queued := by rw [h.queued, hqueue]
  later := h.later

/-! ### Steps -/

/-- All that an event can do. -/
inductive Step (s : Delivery) : Event → Delivery → Prop where
  | start : s.reader = .asleep → Step s .start { s with reader := .reading }
  | enter {caller : Nat} : s.reader ≠ .asleep → caller ∉ s.routing.blocked →
      Step s (.enter caller) (s.reply caller (s.routing.enter caller))
  | wake {caller : Nat} : caller ∈ s.routing.blocked →
      Step s (.wake caller) (s.reply caller (s.routing.wake caller))
  | read {text : String} {rest : List (Option String)} :
      s.reader = .reading → s.source = some text :: rest →
      Step s .read { s with reader := .holding text, source := rest }
  | route {text : String} : s.reader = .holding text →
      Step s .route (s.dispatch text (s.routing.route text))
  | call {text : String} {listener : Nat} : s.reader = .calling text listener →
      Step s .call { s with
        reader := .reading, dealt := s.dealt ++ [text], heard := s.heard ++ [listener] }
  | close : s.reader = .reading → readable s.source = [] →
      Step s .close { s with routing := s.routing.close, reader := .done }
  | listen {listener : Nat} :
      Step s (.listen listener) { s with routing := s.routing.listen listener }

theorem readable_eq_nil (h : ∀ text rest, source ≠ some text :: rest) : readable source = [] := by
  cases source with
  | nil => rfl
  | cons line rest =>
      cases line with
      | none => rfl
      | some text => exact absurd rfl (h text rest)

theorem step_of_step? (h : s.step? event = some s') : Step s event s' := by
  unfold step? at h
  cases event with
  | start =>
      obtain ⟨hasleep, rfl⟩ : s.reader = .asleep ∧ { s with reader := .reading } = s' := by
        simpa using h
      exact .start hasleep
  | enter caller =>
      obtain ⟨hfree, rfl⟩ : (s.reader ≠ .asleep ∧ caller ∉ s.routing.blocked) ∧
          s.reply caller (s.routing.enter caller) = s' := by
        simpa using h
      exact .enter hfree.1 hfree.2
  | wake caller =>
      obtain ⟨hmem, rfl⟩ : caller ∈ s.routing.blocked ∧
          s.reply caller (s.routing.wake caller) = s' := by
        simpa using h
      exact .wake hmem
  | read =>
      dsimp only at h
      split at h
      · rename_i hreader hsource
        obtain rfl := Option.some.inj h
        exact .read hreader hsource
      · exact absurd h (by simp)
  | route =>
      dsimp only at h
      split at h
      · rename_i hreader
        obtain rfl := Option.some.inj h
        exact .route hreader
      · exact absurd h (by simp)
  | call =>
      dsimp only at h
      split at h
      · rename_i hreader
        obtain rfl := Option.some.inj h
        exact .call hreader
      · exact absurd h (by simp)
  | close =>
      dsimp only at h
      split at h
      · exact absurd h (by simp)
      · rename_i hreader hmore
        obtain rfl := Option.some.inj h
        exact .close hreader (readable_eq_nil hmore)
      · exact absurd h (by simp)
  | listen listener =>
      obtain rfl : { s with routing := s.routing.listen listener } = s' := Option.some.inj h
      exact .listen

theorem sound_new (source : List (Option String)) : Sound source { source } where
  settled := ⟨[], rfl, rfl, rfl, rfl, .nil⟩
  lines := rfl
  closed h := absurd h (by simp)
  ended caller h := absurd h (List.not_mem_nil)

/-- A reader that is not done has not closed the input. -/
theorem Sound.isOpen (h : s.Sound source) (hreader : s.reader ≠ .done) :
    s.routing.closed ≠ true :=
  fun hclosed => hreader (h.closed hclosed).1

/-- The reader goes on in its work, and nothing else changes. -/
theorem Sound.goOn {reader : Reader} {rest : List (Option String)} (h : s.Sound source)
    (hreader : s.reader ≠ .done)
    (hlines : reader.hand ++ readable rest = s.reader.hand ++ readable s.source) :
    Sound source { s with reader, source := rest } := by
  obtain ⟨fates, hsettled⟩ := h.settled
  refine ⟨⟨fates, hsettled.congr rfl rfl rfl rfl⟩, ?_,
    fun hclosed => absurd hclosed (h.isOpen hreader), h.ended⟩
  have hbefore := h.lines
  rw [List.append_assoc, ← hlines, ← List.append_assoc] at hbefore
  exact hbefore

/-- A caller takes a line, finds the end, or waits. -/
theorem Sound.reply {result : Routing × Reply} (h : s.Sound source)
    (hanswer : s.routing.Answer result) : (s.reply caller result).Sound source := by
  obtain ⟨fates, hsettled⟩ := h.settled
  cases hanswer with
  | @line routing text hqueue hclosed =>
      refine ⟨hsettled.take hqueue rfl, h.lines, fun hnow => h.closed (hclosed ▸ hnow), ?_⟩
      intro other hmem
      -- No call has found the end yet, because there is a line in the queue.
      have hbefore : (other, none) ∈ s.replies := by simpa [Delivery.reply] using hmem
      exact absurd (h.ended other hbefore).2 (by simp [hqueue])
  | @ended routing hempty hqueue hclosed hstill =>
      have hreturned : (s.reply caller (routing, .ended)).returned = s.returned := by
        rw [Delivery.returned, Delivery.returned, Delivery.reply, List.filterMap_append]
        exact List.append_nil _
      exact ⟨⟨fates, hsettled.congr rfl hreturned rfl (hqueue.trans hempty.symm)⟩, h.lines,
        fun _ => h.closed hclosed, fun _ _ => ⟨hstill, hqueue⟩⟩
  | @wait routing hqueue hclosed =>
      refine ⟨⟨fates, hsettled.congr rfl rfl rfl hqueue⟩, h.lines,
        fun hnow => h.closed (hclosed ▸ hnow), ?_⟩
      intro other hmem
      obtain ⟨hbefore, hempty⟩ := h.ended other hmem
      exact ⟨hclosed.trans hbefore, hqueue.trans hempty⟩

/-- The reader is done with its line, which no call has returned. -/
theorem Sound.deal (h : s.Sound source) (hhand : s.reader.hand = [text]) (fate : Fate)
    (hfate : ∀ caller, fate ≠ .returned caller) (hclosed : routing.closed = s.routing.closed)
    (hqueue : routing.queue = s.routing.queue ++ (Fate.queued? (text, fate)).toList) :
    Sound source { s with
      routing, reader := .reading, dealt := s.dealt ++ [text]
      heard := s.heard ++ (Fate.heard? (text, fate)).toList } := by
  obtain ⟨fates, hsettled⟩ := h.settled
  have hopen : s.routing.closed ≠ true := h.isOpen fun hdone => by simp [hdone, Reader.hand] at hhand
  refine ⟨⟨_, hsettled.concat fate rfl rfl hfate rfl hqueue⟩, ?_, ?_, ?_⟩
  · have hlines := h.lines
    rw [hhand] at hlines
    simpa [Reader.hand] using hlines
  · exact fun hnow => absurd (hclosed ▸ hnow) hopen
  · exact fun other hmem => absurd (h.ended other hmem).1 hopen

/-- Whatever happens, everything stays as it should be. -/
theorem Step.sound (hstep : Step s event s') (h : s.Sound source) : s'.Sound source := by
  cases hstep with
  | start hasleep => exact h.goOn (by simp [hasleep]) (by rw [hasleep]; rfl)
  | enter hawake hnew => exact h.reply (s.routing.answer_enter _)
  | wake hmem => exact h.reply (s.routing.answer_wake _)
  | read hreader hsource => exact h.goOn (by simp [hreader]) (by rw [hreader, hsource]; rfl)
  | @route text hreader =>
      rcases s.routing.route_cases text with ⟨routing, hrouted, hqueue, hclosed⟩ |
        ⟨listener, hrouted⟩
      · have hdealt := h.deal (by rw [hreader]; rfl) .queued (by simp) hclosed hqueue
        simpa [hrouted, dispatch, Fate.heard?] using hdealt
      · rw [hrouted]
        exact h.goOn (by simp [hreader]) (by rw [hreader]; rfl)
  | @call text listener hreader =>
      exact h.deal (by rw [hreader]; rfl) (.heard listener) (by simp) rfl
        (List.append_nil _).symm
  | close hreader hend =>
      obtain ⟨fates, hsettled⟩ := h.settled
      have hlines := h.lines
      rw [hreader] at hlines
      exact ⟨⟨fates, hsettled.congr rfl rfl rfl rfl⟩, hlines, fun _ => ⟨rfl, hend⟩,
        fun other hmem => ⟨rfl, (h.ended other hmem).2⟩⟩
  | listen =>
      obtain ⟨fates, hsettled⟩ := h.settled
      exact ⟨⟨fates, hsettled.congr rfl rfl rfl rfl⟩, h.lines, h.closed, h.ended⟩

/-! ### Runs -/

theorem sound_run (h : s.Sound source) (hrun : s.run? events = some s') : s'.Sound source := by
  induction events generalizing s with
  | nil =>
      obtain rfl := Option.some.inj hrun
      exact h
  | cons event events ih =>
      obtain ⟨next, hstep, hrest⟩ := Option.bind_eq_some_iff.mp hrun
      exact ih ((step_of_step? hstep).sound h) hrest

/-- However callers, the reader and those who set listeners take turns: each line that the reader
is done with was returned by one call, was the one for which a listener was called, or is queued,
and behind a queued line none was returned; the reader has the lines of the source in order and
loses none; and a call returns without a line only when the reader is done with all of them and none
is queued. -/
theorem every_line_is_delivered_once (source : List (Option String)) (events : List Event)
    (s : Delivery) (hrun : run? { source } events = some s) :
    (∃ fates, s.Settled fates) ∧
    s.dealt ++ s.reader.hand ++ readable s.source = readable source ∧
    ∀ caller, (caller, none) ∈ s.replies →
      s.reader = .done ∧ s.routing.queue = [] ∧ s.dealt = readable source := by
  have hsound : s.Sound source := sound_run (sound_new source) hrun
  refine ⟨hsound.settled, hsound.lines, ?_⟩
  intro caller hmem
  obtain ⟨hclosed, hqueue⟩ := hsound.ended caller hmem
  obtain ⟨hdone, hend⟩ := hsound.closed hclosed
  refine ⟨hdone, hqueue, ?_⟩
  have hlines := hsound.lines
  rw [hdone, hend] at hlines
  simpa [Reader.hand] using hlines

/-- One line goes to the listener, which another takes the place of before it is called; the next
two go to callers, the later of which wakes first; and behind them the source fails. -/
def conversation : List Event :=
  [.listen 7, .start, .read, .route, .listen 8, .call, .enter 0, .enter 1, .read, .route, .wake 1,
    .read, .route, .close, .wake 0, .enter 2]

/-- The lines behind the failure are not read, and the last caller gets none. -/
theorem conversation_is_delivered : ∃ s,
    run? { source := [some "", some "y", some "n", none, some "m"] } conversation = some s ∧
    s.replies = [(1, some "y"), (0, some "n"), (2, none)] ∧ s.heard = [7] ∧
    (∃ fates, s.Settled fates) ∧ s.dealt = ["", "y", "n"] := by
  have hrun : run? { source := [some "", some "y", some "n", none, some "m"] } conversation =
      some { source := [none, some "m"], reader := .done
             routing := { listener := some 8, closed := true }, dealt := ["", "y", "n"]
             replies := [(1, some "y"), (0, some "n"), (2, none)], heard := [7] } := by
    decide
  obtain ⟨hsettled, -, hended⟩ := every_line_is_delivered_once _ _ _ hrun
  exact ⟨_, hrun, rfl, rfl, hsettled, (hended 2 (by simp)).2.2⟩

end Delivery

end ArchiveScout.Console
