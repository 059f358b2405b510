import ScriptHost.Pair

/-!
# Timers

The table of live timers. Each has one firing outstanding: armed, waiting in line, or running.

## Main definitions

* `Timer` — a callback with its delay, and the ticket of its armed firing.
* `Timers` — the live timers in the order of their numbers, and the one that is firing.
* `Timers.schedule`, `Timers.cancel`, `Timers.begin`, `Timers.finish`, `Timers.clear`.
* `Cancellation`, `Firing` — who has to release the pair.

## Design notes

Numbers are never given out twice, so a timer is dead exactly when its number has left the table. A
cancelled timer gives its pair back at once, unless it is firing: then `finish` does. Arming is the
business of the caller, who passes the ticket that an armed firing gets, or none if the queue
accepts nothing any more.
-/

namespace ScriptHost

/-- A callback that is due after a delay. -/
structure Timer where
  id : Nat
  pair : Pair
  delay : Nat
  recurring : Bool
  /-- The ticket of the armed firing; none while the timer fires. -/
  ticket : Option Nat
deriving DecidableEq, Repr, Inhabited

/-- What a cancellation found. -/
inductive Cancellation where
  /-- No live timer has that number. -/
  | unknown
  /-- The timer is gone and its pair can be buried. -/
  | bury (timer : Timer)
  /-- The timer is gone but still firing; the firing retires its pair. -/
  | deferred (timer : Timer)
deriving DecidableEq, Repr, Inhabited

/-- What has to be done after a firing. -/
inductive Firing where
  | retire (pair : Pair)
  /-- The timer has been armed again, under a ticket. -/
  | rearmed (ticket : Nat)
deriving DecidableEq, Repr, Inhabited

/-- The table of timers. -/
structure Timers where
  nextId : Nat
  live : List Timer
  /-- The number of the timer that is firing. -/
  running : Option Nat
deriving DecidableEq, Repr, Inhabited

namespace Timers

/-- No timer; numbers start at one. -/
def empty : Timers := ⟨1, [], none⟩

/-- The live timer of that number. -/
def find? (t : Timers) (id : Nat) : Option Timer := t.live.find? (·.id == id)

/-- Whether a timer is live. -/
def isLive (t : Timers) (id : Nat) : Bool := (t.find? id).isSome

/-- The table without a timer. -/
def remove (t : Timers) (id : Nat) : Timers := { t with live := t.live.filter (·.id ≠ id) }

/-- Gives out the next number, and enters a timer under it if its firing could be armed. -/
def schedule (t : Timers) (pair : Pair) (delay : Nat) (recurring : Bool) (ticket : Option Nat) :
    Option Nat × Timers :=
  let id := t.nextId
  match ticket with
  | none => (none, { t with nextId := id + 1 })
  | some ticket =>
    (some id,
      { t with nextId := id + 1, live := t.live ++ [⟨id, pair, delay, recurring, some ticket⟩] })

/-- Takes a timer out of the table. -/
def cancel (t : Timers) (id : Nat) : Cancellation × Timers :=
  match t.find? id with
  | none => (.unknown, t)
  | some timer =>
    (if t.running = some id then .deferred timer else .bury timer, t.remove id)

/-- Starts the firing of a timer, if it is live. -/
def begin (t : Timers) (id : Nat) : Option Timer × Timers :=
  match t.find? id with
  | none => (none, t)
  | some timer =>
    let fired := { timer with ticket := none }
    (some fired,
      { t with
        live := t.live.map fun other => if other.id = id then fired else other
        running := some id })

/-- Ends the firing of a timer: one that is recurring and still live is armed again. -/
def finish (t : Timers) (fired : Timer) (ticket : Option Nat) : Firing × Timers :=
  let t := if t.running = some fired.id then { t with running := none } else t
  if t.isLive fired.id then
    match fired.recurring, ticket with
    | true, some ticket =>
      (.rearmed ticket,
        { t with
          live := t.live.map fun other =>
            if other.id = fired.id then { other with ticket := some ticket } else other })
    | _, _ => (.retire fired.pair, t.remove fired.id)
  else (.retire fired.pair, t)

/-- Takes every timer out of the table; those that are not firing are handed back. -/
def clear (t : Timers) : List Timer × Timers :=
  (t.live.filter fun timer => t.running ≠ some timer.id, { t with live := [] })

end Timers
end ScriptHost
