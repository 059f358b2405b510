import ScriptHost.Session.Basic

/-!
# Operations on a session

What callers from any thread can ask of a session. Work is refused as soon as the session is not
live any more; the answer then is nothing, no, or zero, and the session stays as it is.

## Main definitions

* `Session.schedule`, `Session.cancel` — timers.
* `Session.enqueue` — next-tick jobs, and how a drain is started for them.
* `Session.issue`, `Session.release` — requests and held completions.
* `Session.hasWorker`, `Session.assign` — the workers that call the transport.
* `Session.listen`, `Session.unlisten`, `Session.emit` — events.
* `Session.registerModule`, `Session.postWork`, `Session.sweepNow` — other messages.
* `Session.armSweep`, `Session.pause`, `Session.unpause` — the periodic sweep.
* `Session.askScript`, `Session.askRequire`, `Session.askShutdown` — messages that are answered.

## Design notes

A pair is adopted before anything else is done with it, and if the rest fails it is buried, so no
pair is lost. At most one sweep is armed: an operation that buries something arms one unless there
is one already, and pausing takes it back.

The settings may limit how many workers there are. A worker that waits for the transport is busy, so
a request that finds all of them busy waits in turn; it has its number and is in flight meanwhile.
-/

namespace ScriptHost
namespace Session

/-- Whether a call by some way reaches a session that accepts work. -/
def admits (s : Session) (door : Door) : Bool :=
  s.isLive && !(door = .context && s.dropped)

/-- Takes all of some pairs into custody, or none of them. -/
def adopt? (s : Session) (pairs : List Pair) : Option Session :=
  (s.custody.adopt? pairs).map fun custody => { s with custody }.record (.registered pairs)

/-! ## The periodic sweep -/

/-- Whether a sweep is armed. -/
def sweepIsArmed (s : Session) : Bool :=
  match s.sweepTicket with
  | none => false
  | some ticket => s.lanes.isArmed ticket

/-- Arms a sweep, unless one is armed. A periodic one is not armed while the session is paused. -/
def armSweep (s : Session) (periodic : Bool) : Session :=
  if s.sweepIsArmed then s
  else if periodic && s.phase = .paused then { s with sweepTicket := none }
  else
    let (ticket, s) := s.arm s.settings.cleanupInterval .sweep
    { s with sweepTicket := ticket }

/-- Takes the armed sweep back. -/
def withdrawSweep (s : Session) : Session :=
  { s.withdraw s.sweepTicket with sweepTicket := none }

/-- Stops the periodic sweep; only a ready session can be paused. -/
def pause (s : Session) : Bool × Session :=
  if s.phase = .ready then (true, { s with phase := .paused }.withdrawSweep) else (false, s)

/-- Starts the periodic sweep again. -/
def unpause (s : Session) : Bool × Session :=
  if s.phase = .paused then (true, { s with phase := .ready }.armSweep true) else (false, s)

/-- Posts a sweep behind everything that has been posted. -/
def sweepNow (s : Session) : Bool × Session :=
  if s.isLive then s.post .sweep else (false, s)

/-! ## Timers -/

/-- Schedules a callback: the number of its timer, unless the pair is in use. -/
def schedule (s : Session) (door : Door) (pair : Pair) (delay : Nat) (recurring : Bool) :
    Option Nat × Session :=
  if !s.admits door then (none, s)
  else
    match s.adopt? [pair] with
    | none => (none, s)
    | some s =>
      let id := s.timers.nextId
      let (ticket, s) := s.arm delay (.fire id)
      let (result, timers) := s.timers.schedule pair delay recurring ticket
      let s := { s with timers }
      (result, if result.isNone then s.bury pair else s)

/-- Cancels a timer, if it is live. -/
def cancel (s : Session) (door : Door) (id : Nat) : Bool × Session :=
  if !s.admits door then (false, s)
  else
    match s.timers.cancel id with
    | (.unknown, _) => (false, s)
    | (.bury timer, timers) =>
      (true, (({ s with timers }.withdraw timer.ticket).bury timer.pair).armSweep false)
    | (.deferred timer, timers) =>
      (true, ({ s with timers }.withdraw timer.ticket).armSweep false)

/-! ## Next-tick jobs -/

/-- Starts a drain: scripts on the owning thread are in its way, so it goes to a helper then; if no
thread can be started, and for any other thread, it is posted to the urgent lane. -/
def startDrain (s : Session) (owning noThreads : Bool) : Session :=
  if owning && !noThreads then { s with helpers := s.helpers + 1 } else (s.postUrgent .drain).2

/-- Enqueues a job; the answer tells whether a drain was started for it. -/
def enqueue (s : Session) (door : Door) (thread : Thread) (noThreads : Bool) (job : Work) :
    Bool × Session :=
  if !s.admits door then (false, s)
  else
    let (wake, ticks) := s.ticks.enqueue job
    let s := { s with ticks }.record (.accepted job)
    (wake, if wake then s.startDrain (door = .context || thread = .loop) noThreads else s)

/-! ## Requests -/

/-- Posts a completion; a request whose completion the queue refuses is no longer in flight. -/
def complete (s : Session) (call : Call) (completion : Completion) : Bool × Session :=
  match s.post (.complete call completion) with
  | (true, s) => (true, s)
  | (false, s) =>
    (false, { s with traffic := { s.traffic with inFlight := s.traffic.inFlight - 1 } })

/-- A request has been answered; a completion that the queue refuses is dropped. -/
def conclude (s : Session) (call : Call) (completion : Completion) : Session :=
  match s.complete call completion with
  | (true, s) => s
  | (false, s) => s.record (.dropped call)

/-- What a request comes back with: without a transport that answers, a client failure. -/
def completionOf (s : Session) (order : Order) : Completion :=
  match s.program.hasTransport, order.answer with
  | true, .completes completion => completion
  | _, _ => .clientFailure

/-- Whether a worker is free. Without a limit there is one for each request. -/
def hasWorker (s : Session) : Bool :=
  match s.settings.workerThreads with
  | none => true
  | some limit => s.held.length < limit

/-- A worker calls the transport; it is busy as long as the answer is held back. -/
def execute (s : Session) (errand : Errand) : Session :=
  let s := if s.program.hasTransport then s.note (.transport errand.prepared) else s
  let s := s.record (.sent errand.call)
  let completion := s.completionOf errand.order
  match s.program.hasTransport, errand.order.hold with
  | true, some key => { s with held := s.held ++ [(key, errand.call, completion)] }
  | _, _ => s.conclude errand.call completion

/-- A free worker takes a request; if there is none the request waits behind the others. -/
def assign (s : Session) (errand : Errand) : Session :=
  if s.hasWorker then s.execute errand else { s with errands := s.errands ++ [errand] }

/-- A request goes to the workers. -/
def dispatch (s : Session) (errand : Errand) : Session :=
  let s := { s with
    traffic := { s.traffic with
      inFlight := s.traffic.inFlight + 1
      dispatched := s.traffic.dispatched + 1 } }.record (.issued errand.call)
  s.assign errand

/-- The requests that wait are given out again, the first ones first. -/
def employ (s : Session) : Session := s.errands.foldl assign { s with errands := [] }

/-- Gives out the next number and starts a request under it. A malformed one fails at once, without
a worker. -/
def startRequest (s : Session) (noThreads : Bool) (order : Order) : Option Nat × Session :=
  let id := s.traffic.nextId
  let call := order.call id
  let s := { s with traffic := { s.traffic with nextId := id + 1 } }
  match order.request.prepareWith s.program.resolve with
  | .error _ =>
    let s := { s with
      traffic := { s.traffic with
        inFlight := s.traffic.inFlight + 1
        rejected := s.traffic.rejected + 1 } }
    match s.complete call .clientFailure with
    | (true, s) => (some id, s.record (.issued call))
    | (false, s) => (none, s)
  | .ok prepared => if noThreads then (none, s) else (some id, s.dispatch ⟨call, prepared, order⟩)

/-- Issues a request: its number, unless one of its pairs is in use or it could not be started. -/
def issue (s : Session) (door : Door) (noThreads : Bool) (order : Order) : Option Nat × Session :=
  let success : Pair := ⟨order.onSuccess, order.receiver⟩
  let error : Pair := ⟨order.onError, order.receiver⟩
  if !s.admits door then (none, s)
  else
    match s.adopt? [success, error] with
    | none => (none, s)
    | some s =>
      let (id, s) := s.startRequest noThreads order
      (id, if id.isNone then s.buryAll [success, error] else s)

/-- Releases the completions that are held back under a key, and the workers with them. -/
def release (s : Session) (key : String) : Bool × Session :=
  let due := s.held.filter (·.1 == key)
  let s := { s with held := s.held.filter (·.1 != key) }
  (!due.isEmpty, (due.foldl (fun s entry => s.conclude entry.2.1 entry.2.2) s).employ)

/-- Every handle is dropped, and the workers with them: what waits for one is given up. -/
def forsake (s : Session) : Session := { s with dropped := true, errands := [] }

/-! ## Events and other messages -/

/-- A pair listens for an event, unless it is in use. -/
def listen (s : Session) (door : Door) (event : String) (pair : Pair) : Bool × Session :=
  if !s.admits door then (false, s)
  else
    match s.adopt? [pair] with
    | none => (false, s)
    | some s => (true, { s with listeners := s.listeners.on event pair })

/-- Nobody listens for an event any more; the answer tells how many did. -/
def unlisten (s : Session) (door : Door) (event : String) : Nat × Session :=
  if !s.admits door then (0, s)
  else
    let removed := s.listeners.of event
    let s := { s with listeners := s.listeners.off event }.buryAll removed
    (removed.length, if removed.isEmpty then s else s.armSweep false)

/-- Posts a value for everyone who listens for an event. -/
def emit (s : Session) (event : String) (value : Json.Value) : Bool × Session :=
  if s.isLive then s.post (.emit event value) else (false, s)

/-- Registers a module: it waits for the engine to be up, and is posted afterwards. -/
def registerModule (s : Session) (name : String) : Bool × Session :=
  if !s.isLive then (false, s)
  else if s.backlog.opened then s.post (.register name)
  else (true, { s with backlog := { s.backlog with names := s.backlog.names ++ [name] } })

/-- Posts a task, at once or after a delay. -/
def postWork (s : Session) (delay : Nat) (work : Work) : Bool × Session :=
  if !s.isLive then (false, s)
  else if delay = 0 then s.post (.task work)
  else
    let (ticket, s) := s.arm delay (.task work)
    (ticket.isSome, s)

/-! ## Messages that are answered -/

/-- Posts a message that answers a query, if it is accepted. -/
def ask (s : Session) (message : Nat → Message) : Except Failure Nat × Session :=
  if !s.isLive then (.error .closed, s)
  else
    let query := s.nextQuery
    match s.post (message query) with
    | (true, s) => (.ok query, { s with nextQuery := query + 1 })
    | (false, s) => (.error .closed, s)

/-- Asks for a script to be run. -/
def askScript (s : Session) (source name : String) : Except Failure Nat × Session :=
  s.ask (.script source name)

/-- Asks for a path to be required. -/
def askRequire (s : Session) (path : String) : Except Failure Nat × Session :=
  s.ask (.require path)

/-- Begins to shut down: the last message is posted and nothing more is accepted. -/
def beginShutdown (s : Session) (query : Option Nat) : Bool × Session :=
  if !s.isLive then (false, s)
  else
    let s := { s with phase := .shuttingDown }.withdrawSweep
    let (posted, lanes) := s.lanes.postLast (.shutdown query)
    (posted, { s with lanes })

/-- Asks for the session to be shut down. -/
def askShutdown (s : Session) : Except Failure Nat × Session :=
  let query := s.nextQuery
  match s.beginShutdown (some query) with
  | (true, s) => (.ok query, { s with nextQuery := query + 1 })
  | (false, s) => (.error .closed, s)

/-- Answers a query. -/
def answer (s : Session) (query : Nat) (result : Except Failure Json.Value) : Session :=
  { s with answers := (query, result) :: s.answers }

/-- The answer to a query, as far as it is known: when the owning thread is gone, no answer will
come any more. -/
def answerOf (s : Session) (query : Nat) : Reply :=
  match s.answers.lookup query with
  | some (.ok v) => .value v
  | some (.error f) => .failed f
  | none => if s.loop = .ended || s.loop = .crashed then .failed .disconnected else .pending

/-- Asks for a script to be run, its result to be fetched under a key. -/
def beginScript (s : Session) (key source name : String) : Reply × Session :=
  match s.askScript source name with
  | (.ok query, s) =>
    (.pending, { s with keys := (key, query) :: s.keys.filter (·.1 != key) })
  | (.error f, s) => (.failed f, s)

/-- Fetches the result that is waited for under a key; once known it is forgotten. -/
def scriptResult (s : Session) (key : String) : Reply × Session :=
  match s.keys.lookup key with
  | none => (.unknown, s)
  | some query =>
    match s.answerOf query with
    | .pending => (.pending, s)
    | reply => (reply, { s with keys := s.keys.filter (·.1 != key) })

end Session
end ScriptHost
