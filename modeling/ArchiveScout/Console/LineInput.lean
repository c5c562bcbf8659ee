/-!
# ArchiveScout.Console.LineInput

**Lines of input for two kinds of users.** Callers wait for a line; a listener hears
of lines that nobody waits for; lines that neither takes are queued for later callers.
`Routing` is what callers, the reader of the source and the setting of a listener
share; each of its operations is one step, and they may come in any order.

`LineInput` adds the source. It is read from the first use on. After each of its
operations everything that can happen has happened: all lines of the source are
routed, and a waiting caller has taken the line that came for it.
-/

namespace ArchiveScout.Console

/-- What all users of the input share. Callers and listeners are known by numbers. -/
structure Routing where
  /-- Lines that have been read and not been taken. -/
  queue : List String := []
  /-- How many blocked callers there are to whom no line has been routed. -/
  waiting : Nat := 0
  /-- The blocked callers. -/
  blocked : List Nat := []
  listener : Option Nat := none
  closed : Bool := false
deriving DecidableEq, Repr

/-- What a caller gets. -/
inductive Reply where
  | line (text : String)
  /-- The input has ended. -/
  | ended
  /-- The caller goes on waiting. -/
  | wait
deriving DecidableEq, Repr

namespace Routing

/-- A caller asks for a line. -/
def enter (r : Routing) (caller : Nat) : Routing × Reply :=
  match r.queue with
  | text :: queue => ({ r with queue }, .line text)
  | [] =>
    if r.closed then (r, .ended)
    else ({ r with waiting := r.waiting + 1, blocked := r.blocked ++ [caller] }, .wait)

/-- A blocked caller looks again. -/
def wake (r : Routing) (caller : Nat) : Routing × Reply :=
  match r.queue with
  | text :: queue => ({ r with queue, blocked := r.blocked.erase caller }, .line text)
  | [] =>
    if r.closed then
      ({ r with waiting := r.waiting - 1, blocked := r.blocked.erase caller }, .ended)
    else (r, .wait)

/-- A line has been read. The listener that hears of it, if one does. -/
def route (r : Routing) (text : String) : Routing × Option Nat :=
  if 0 < r.waiting then
    ({ r with waiting := r.waiting - 1, queue := r.queue ++ [text] }, none)
  else match r.listener with
    | some listener => (r, some listener)
    | none => ({ r with queue := r.queue ++ [text] }, none)

/-- The source has ended. -/
def close (r : Routing) : Routing := { r with closed := true }

/-- A listener takes the place of the one before. -/
def listen (r : Routing) (listener : Nat) : Routing := { r with listener := some listener }

end Routing

/-- Lines of input. -/
structure LineInput where
  routing : Routing := {}
  /-- Whether the source is being read. -/
  started : Bool := false
  /-- Lines of the source that have not been read. -/
  unread : List String := []
  /-- Whether the source ends behind them. -/
  ended : Bool := false
  /-- A caller that waits. -/
  caller : Option Nat := none
deriving DecidableEq, Repr

/-- What has happened in an operation: the listeners that heard of lines, and the
reply to a caller that had been waiting or has just asked. -/
structure Happening where
  heard : List Nat := []
  reply : Option Reply := none
deriving DecidableEq, Repr

namespace LineInput

/-- Input from a text that is complete. -/
def ofLines (lines : List String) : LineInput := { unread := lines, ended := true }

/-- The waiting caller, if there is one, looks again. -/
def wakeCaller (i : LineInput) : LineInput × Option Reply :=
  match i.caller with
  | none => (i, none)
  | some caller =>
    match i.routing.wake caller with
    | (routing, .wait) => ({ i with routing }, none)
    | (routing, reply) => ({ i with routing, caller := none }, some reply)

/-- Lines of the source are routed, one after another. -/
def routeAll (i : LineInput) : List String → LineInput × Happening
  | [] => (i, {})
  | text :: texts =>
    let (routing, heard) := i.routing.route text
    let (i, reply) := { i with routing }.wakeCaller
    let (i, rest) := i.routeAll texts
    (i, { heard := heard.toList ++ rest.heard, reply := reply.orElse fun _ => rest.reply })

/-- All that the source holds is routed, if it is being read. -/
def settle (i : LineInput) : LineInput × Happening :=
  if !i.started then (i, {})
  else
    let (i, h) := { i with unread := [] }.routeAll i.unread
    if !i.ended then (i, h)
    else
      let (i, reply) := { i with routing := i.routing.close }.wakeCaller
      (i, { h with reply := h.reply.orElse fun _ => reply })

/-- The source gets a line, unless it has ended. -/
def feed (i : LineInput) (text : String) : LineInput × Happening :=
  if i.ended then (i, {}) else { i with unread := i.unread ++ [text] }.settle

/-- The source ends, or fails, which is the same. -/
def close (i : LineInput) : LineInput × Happening := { i with ended := true }.settle

/-- A new listener is set. -/
def listen (i : LineInput) (listener : Nat) : LineInput × Happening :=
  { i with routing := i.routing.listen listener, started := true }.settle

/-- A caller asks for a line. -/
def next (i : LineInput) (caller : Nat) : LineInput × Happening :=
  let (i, h) := { i with started := true }.settle
  match i.routing.enter caller with
  | (routing, .wait) => ({ i with routing, caller := some caller }, { h with reply := some .wait })
  | (routing, reply) => ({ i with routing }, { h with reply := some reply })

end LineInput

end ArchiveScout.Console
