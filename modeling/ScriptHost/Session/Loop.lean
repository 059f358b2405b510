import ScriptHost.Session.Engine

/-!
# The loop

The owning thread handles messages one at a time, urgent ones first, until the last one.

## Main definitions

* `Session.withEngine` — runs something with the execution lock held, skips it, or waits for good.
* `Session.drain` — runs jobs in batches until there are none.
* `Session.handle` — one message.
* `Session.settle` — every message at the present instant.
* `Session.runTo` — every message up to a time.

## Design notes

Callbacks can post new messages and enqueue new jobs for ever, so the loop takes a bound on its
steps and gives nothing if that is not enough. Helper threads that were started to drain get their
turn when the message that the loop is handling is finished.

A message is handled in one go: no other thread acts while the loop handles it. So the loop finds
the lock with another thread only if that thread has kept it, and then it stands still: there is no
state behind the message, whatever the bound. A lock that the owning thread itself has kept is
refused to it, and what was to be done is skipped.

For the same reason `Session.fireTimer` asks only once whether the timer is live. The program asks
again when the firing has begun, before the loop waits for the lock, and finds it live, since
nothing acts in between. It does not ask a third time behind the wait: where the thread that has the
lock cancels the timer and then lets the loop go on, the callback is called. Here such a loop stands
still, so a timer that has begun to fire cannot be cancelled before its callback is called.
-/

namespace ScriptHost
namespace Session

/-- Runs something with the execution lock held. A loop that has kept the lock itself skips it; one
that has to wait for a thread that keeps the lock stands still. -/
def withEngine (f : Session → Session) (s : Session) : Option Session :=
  match s.lock.acquire .loop with
  | (.granted, lock) => some (f { s with lock }).unlock
  | (.reentrant, _) => some s
  | (.awaited, _) => none

/-- Runs a script with the execution lock held. What panics or is skipped counts as a failure of the
script; a loop that has to wait for a thread that keeps the lock stands still. -/
def withEngineResult (what : String)
    (f : Session → Outcome EngineFailure Json.Value × Session) (s : Session) :
    Option (Except Failure Json.Value × Session) :=
  let lost : EngineFailure := .script ("'" ++ what ++ "' panicked")
  match s.lock.acquire .loop with
  | (.granted, lock) =>
    let (result, s) := f { s with lock }
    some ((result.contain lost).mapError .engine, s.unlock)
  | (.reentrant, _) => some (.error (.engine lost), s)
  | (.awaited, _) => none

/-! ## Draining -/

/-- How a drain ends. -/
inductive Drained where
  /-- It has run so many jobs and found no more. -/
  | emptied (jobs : Nat)
  /-- The thread holds the lock itself. -/
  | refused
  /-- The thread waits for another one that keeps the lock. -/
  | waiting
deriving DecidableEq, Repr, Inhabited

/-- Runs a job on a thread. -/
def runJob (thread : Thread) (job : Work) (s : Session) : Session :=
  (s.record (.executed job)).runWork engineAccess thread (.job job.tag thread) job

/-- Drains the jobs on a thread, after some have been run already. A thread that holds the lock is
refused. One that has to wait for a thread that keeps the lock stands still, and if that is the loop
there is nothing behind it. -/
def drainFrom : Nat → Nat → Thread → Session → Option (Drained × Session)
  | 0, _, _, _ => none
  | bound + 1, executed, thread, s =>
    let s := { s with ticks := s.ticks.look }
    if s.ticks.jobs.isEmpty then some (.emptied executed, s)
    else
      match s.lock.acquire thread with
      | (.granted, lock) =>
        let (batch, ticks) := s.ticks.take
        let s := batch.foldl (fun s job => s.runJob thread job) { s with lock, ticks }
        drainFrom bound (executed + batch.length) thread s.unlock
      | (.reentrant, _) => some (.refused, { s with ticks := s.ticks.giveUp })
      | (.awaited, _) => if thread = .loop then none else some (.waiting, s)

/-- Drains the jobs on a thread. -/
def drain (bound : Nat) (thread : Thread) (s : Session) : Option Session :=
  (drainFrom bound 0 thread s).map (·.2)

/-- Every helper that has been started drains. -/
def runHelpers (bound : Nat) (s : Session) : Option Session :=
  if s.helpers = 0 then some s
  else (List.range s.helpers).foldlM (fun s _ => s.drain bound .helper) { s with helpers := 0 }

/-! ## Messages -/

/-- An observer is told; it is not given the engine. -/
def tell (s : Session) (observer : Work) : Session :=
  s.runWork engineAccess.outside .loop (.observer observer.tag .loop) observer

/-- Readiness is announced, unless the session has left bring-up by another way. -/
def becomeReady (s : Session) : Session :=
  if s.phase ≠ .initializing then s
  else
    let (observers, readiness) := s.readiness.announce
    observers.foldl tell { s with phase := .ready, readiness }

/-- A sweep, after which the next one is armed. -/
def handleSweep (s : Session) : Option Session := do
  let s ← s.withEngine fun s => s.sweepGraveyard.2
  some (s.armSweep true)

/-- A timer fires, if it is live. -/
def fireTimer (s : Session) (id : Nat) : Option Session :=
  match s.timers.begin id with
  | (none, _) => some s
  | (some timer, timers) => do
    let s ← { s with timers }.withEngine fun s => (s.invokeLive .loop timer.pair []).2
    match s.timers.finish timer s.lanes.ticket? with
    | (.retire pair, timers) => some ({ s with timers }.bury pair)
    | (.rearmed _, timers) => some ({ s with timers }.arm timer.delay (.fire timer.id)).2

/-- The completion of a request is delivered to one of its callbacks, and both are buried. -/
def deliver (s : Session) (call : Call) (completion : Completion) : Option Session := do
  let s := { s with
    traffic := { s.traffic with inFlight := s.traffic.inFlight - 1 } }.record (.delivered call)
  let (pair, arguments) := call.delivery (some completion)
  let s ← s.withEngine fun s => (s.invokeLive .loop pair arguments).2
  some (s.buryAll [call.successPair, call.errorPair])

/-- Everyone who listens for an event now is invoked, one after the other. -/
def dispatchEvent (s : Session) (event : String) (value : Json.Value) : Option Session :=
  let pairs := s.listeners.of event
  if pairs.isEmpty then some s
  else s.withEngine fun s => pairs.foldl (fun s pair => (s.invokeLive .loop pair [value]).2) s

/-- Every registration is buried. -/
def clear (s : Session) : Session :=
  let (timers, table) := s.timers.clear
  let s := timers.foldl (fun s timer => s.withdraw timer.ticket)
    { s with phase := .shuttingDown, timers := table }
  { s with listeners := .empty }.buryAll (timers.map Timer.pair ++ s.listeners.all)

/-- The graveyard is swept for the last time, and the loop ends. -/
def finish (s : Session) (query : Option Nat) : Option Session := do
  let s ← (s.record .lastSweep).withEngine fun s => s.sweepGraveyard.2
  let s := match query with
    | some query => s.answer query (.ok .null)
    | none => s
  some { s with phase := .terminated, loop := .ended, lanes := s.lanes.desert }

/-- The last message: every registration is buried, the jobs that are left run, and the graveyard is
swept. -/
def terminate (bound : Nat) (s : Session) (query : Option Nat) : Option Session := do
  let s := s.clear
  let s ← if s.ticks.jobs.isEmpty then some s else s.drain bound .loop
  s.finish query

/-- Handles one message. There is nothing behind it if the bound is too small, or if the loop waits
for a thread that keeps the lock. -/
def handle (bound : Nat) (message : Message) (s : Session) : Option Session :=
  match message with
  | .ready => some s.becomeReady
  | .sweep => s.handleSweep
  | .fire id => s.fireTimer id
  | .drain => s.drain bound .loop
  | .complete call completion => s.deliver call completion
  | .emit event value => s.dispatchEvent event value
  | .register name => s.withEngine fun s => (s.loadModule name).2
  | .task work => s.withEngine fun s => s.runWork engineAccess .loop (.task work.tag .loop) work
  | .script source name query => do
    let (result, s) ← s.withEngineResult name fun s => s.runScript .loop source name
    some (s.answer query result)
  | .require path query => do
    let (result, s) ← s.withEngineResult path fun s => s.loadPath .loop path
    some (s.answer query result)
  | .shutdown query => s.terminate bound query

/-- Whether helpers may run behind a message: not before readiness has been announced or given up.
-/
def helpersWait (s : Session) : Bool := s.phase = .initializing

/-- Moves the messages that are due to the ordinary lane. -/
def deliverDue (s : Session) : Session := { s with lanes := s.lanes.deliverDue s.clock }

/-- Handles every message at the present instant, those that come due meanwhile included. -/
def settle : Nat → Session → Option Session
  | 0, _ => none
  | bound + 1, s =>
    if s.loop ≠ .running then some s
    else
      match s.lanes.next? with
      | some (message, lanes) => do
        let s ← { s with lanes }.handle bound message
        let s ← if s.helpersWait then some s else s.runHelpers bound
        settle bound s
      | none =>
        match s.lanes.nextDue? with
        | some due => if due ≤ s.clock then settle bound s.deliverDue else some s
        | none => some s

/-- Handles every message up to a time, going from one armed message to the next. -/
def runTo : Nat → Nat → Session → Option Session
  | 0, _, _ => none
  | bound + 1, target, s => do
    let s ← s.settle bound
    if s.loop ≠ .running then some s
    else
      match s.lanes.nextDue? with
      | some due =>
        if due ≤ target then runTo bound target { s with clock := due }.deliverDue
        else some { s with clock := target }
      | none => some { s with clock := target }

/-- Lets the loop run for a time. A loop that ends meanwhile leaves the clock where it was. -/
def run (bound : Nat) (ms : Nat) (s : Session) : Option Session :=
  if s.loop ≠ .running then some s
  else do
    let after ← s.deliverDue.runTo bound (s.clock + ms)
    some (if after.loop = .running then after else { after with clock := s.clock })

end Session
end ScriptHost
