/-!
# Message lanes

The queue between those who post messages and the loop that handles them: an urgent lane that is
always emptied first, an ordinary lane, and messages armed for a later time, which join the end of
the ordinary lane when they are due.

## Main definitions

* `Alarm` — a message armed for a time, under a ticket.
* `Lanes` — the queue.
* `Lanes.post`, `Lanes.postUrgent`, `Lanes.arm`, `Lanes.postLast` — ways to post.
* `Lanes.withdraw`, `Lanes.isArmed` — what a ticket is good for.
* `Lanes.deliverDue`, `Lanes.nextDue?`, `Lanes.next?` — what the loop does.

## Design notes

Alarms are kept in the order in which they will be delivered: by time, and in the order of arming
within one time. A queue is closed when it accepts nothing more, and deserted when nobody will ever
take a message: a deserted queue that is not closed refuses messages but takes alarms, which are
lost.
-/

namespace ScriptHost

/-- A message armed for a time. -/
structure Alarm (μ : Type) where
  ticket : Nat
  due : Nat
  message : μ
deriving Repr, Inhabited

/-- The queue of messages. -/
structure Lanes (μ : Type) where
  urgent : List μ
  ordinary : List μ
  /-- By due time, then in the order of arming. -/
  alarms : List (Alarm μ)
  nextTicket : Nat
  closed : Bool
  deserted : Bool
deriving Repr, Inhabited

namespace Lanes

variable {μ : Type}

/-- No message; everything is accepted. -/
def empty : Lanes μ := ⟨[], [], [], 0, false, false⟩

/-- Whether messages are accepted and somebody takes them. -/
def accepts (l : Lanes μ) : Bool := !l.closed && !l.deserted

/-- Posts a message to the end of the ordinary lane. -/
def post (l : Lanes μ) (m : μ) : Bool × Lanes μ :=
  if l.accepts then (true, { l with ordinary := l.ordinary ++ [m] }) else (false, l)

/-- Posts a message to the end of the urgent lane. -/
def postUrgent (l : Lanes μ) (m : μ) : Bool × Lanes μ :=
  if l.accepts then (true, { l with urgent := l.urgent ++ [m] }) else (false, l)

/-- The ticket that the next armed message gets, if messages can be armed. -/
def ticket? (l : Lanes μ) : Option Nat := if l.closed then none else some l.nextTicket

/-- Puts an alarm behind those that are due no later. -/
def insertAlarm (a : Alarm μ) : List (Alarm μ) → List (Alarm μ)
  | [] => [a]
  | b :: rest => if b.due ≤ a.due then b :: insertAlarm a rest else a :: b :: rest

/-- Arms a message for a time, unless the queue is closed. -/
def arm (l : Lanes μ) (due : Nat) (m : μ) : Option Nat × Lanes μ :=
  match l.ticket? with
  | none => (none, l)
  | some ticket =>
    (some ticket,
      { l with
        alarms := insertAlarm ⟨ticket, due, m⟩ l.alarms
        nextTicket := ticket + 1 })

/-- Whether the message of a ticket still waits for its time. -/
def isArmed (l : Lanes μ) (ticket : Nat) : Bool := l.alarms.any (·.ticket == ticket)

/-- Takes the message of a ticket back, if it still waits for its time. -/
def withdraw (l : Lanes μ) (ticket : Nat) : Lanes μ :=
  { l with alarms := l.alarms.filter (·.ticket ≠ ticket) }

/-- Posts the last message that a queue accepts, and closes it. -/
def postLast (l : Lanes μ) (m : μ) : Bool × Lanes μ :=
  if l.closed then (false, l)
  else
    let (posted, l) := l.post m
    (posted, { l with closed := true })

/-- Closes the queue. -/
def close (l : Lanes μ) : Lanes μ := { l with closed := true }

/-- Nobody takes messages any more; those that wait are lost. -/
def desert (l : Lanes μ) : Lanes μ :=
  { l with urgent := [], ordinary := [], alarms := [], deserted := true }

/-- Moves every message that is due to the end of the ordinary lane. -/
def deliverDue (l : Lanes μ) (clock : Nat) : Lanes μ :=
  { l with
    ordinary := l.ordinary ++ (l.alarms.takeWhile (·.due ≤ clock)).map (·.message)
    alarms := l.alarms.dropWhile (·.due ≤ clock) }

/-- The time of the first armed message. -/
def nextDue? (l : Lanes μ) : Option Nat := l.alarms.head?.map (·.due)

/-- Takes the next message: an urgent one if there is any. -/
def next? (l : Lanes μ) : Option (μ × Lanes μ) :=
  match l.urgent with
  | m :: rest => some (m, { l with urgent := rest })
  | [] =>
    match l.ordinary with
    | m :: rest => some (m, { l with ordinary := rest })
    | [] => none

end Lanes
end ScriptHost
