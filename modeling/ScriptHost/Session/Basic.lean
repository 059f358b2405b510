import ScriptHost.Custody
import ScriptHost.Lanes
import ScriptHost.Listeners
import ScriptHost.Readiness
import ScriptHost.Request.Prepare
import ScriptHost.Session.Journal
import ScriptHost.Settings
import ScriptHost.Ticks
import ScriptHost.Timers

/-!
# Sessions

The state of one session: its tables, its queue of messages, and the engine and host around it.

## Main definitions

* `Program` — how the engine, the transport and the scripts behave.
* `Message` — what the loop handles.
* `Entry` — what is logged.
* `Session` — the whole state; `Session.isLive` tells whether it accepts work.
* `Session.statistics` — its counters.

## Design notes

Time is a number of milliseconds that only the loop moves. The execution lock, the tables and the
lanes are fields of one record, and every operation is a function on that record, so the order in
which things happen is the order in which the functions are applied.
-/

namespace ScriptHost

/-- The text behind a prefix, if a text starts with it. -/
def behind? (start s : String) : Option String :=
  if start.toList.isPrefixOf s.toList then
    some (String.ofList (s.toList.drop start.toList.length))
  else none

/-- How the registration of a module ends by its name: names that start with `bad` are refused, and
those that start with `panic` make the engine panic. -/
def moduleEndByName (name : String) : Outcome EngineFailure Unit :=
  if (behind? "panic" name).isSome then .panicked
  else if (behind? "bad" name).isSome then .failed (.script name)
  else .ok ()

/-- How the code around a session behaves. -/
structure Program where
  /-- What the engine does while it is brought up. -/
  bringUp : List Action
  scripts : List (String × List Action)
  /-- For each callback, what it does when it is invoked for the first time, the second, and so on.
  -/
  callbacks : List (UInt64 × List (List Action))
  failDispose : List Pair
  panicDispose : List Pair
  /-- Whether requests reach a transport that answers them. -/
  hasTransport : Bool
  /-- How the registration of a module ends. -/
  moduleEnd : String → Outcome EngineFailure Unit := moduleEndByName
  /-- What is known of an address, or why it cannot be read. -/
  resolve : String → Except String (Option Address) := Address.resolve

namespace Program

/-- Code that does nothing, without a transport. -/
instance : Inhabited Program :=
  ⟨{ bringUp := [], scripts := [], callbacks := [], failDispose := [], panicDispose := [],
     hasTransport := false }⟩

/-- What a script does. -/
def scriptActions (p : Program) (name : String) : List Action := (p.scripts.lookup name).getD []

/-- What a callback does when it has been invoked so many times before. -/
def callbackActions (p : Program) (callback : UInt64) (before : Nat) : List Action :=
  ((p.callbacks.lookup callback).getD [])[before]?.getD []

end Program

/-- What the loop handles. -/
inductive Message where
  /-- The engine is up: tell the observers. -/
  | ready
  | sweep
  | fire (timer : Nat)
  /-- Drain the jobs that other threads enqueued. -/
  | drain
  | complete (call : Call) (completion : Completion)
  | emit (event : String) (value : Json.Value)
  | register (name : String)
  | task (work : Work)
  /-- Runs a script; its result answers a query. -/
  | script (source name : String) (query : Nat)
  | require (path : String) (query : Nat)
  /-- The last message; it may answer a query. -/
  | shutdown (query : Option Nat)
deriving Inhabited

/-- What is logged. -/
inductive Entry where
  | bringUp (locale : Locale) (density : Single) (formFactor : FormFactor)
  | register (name : String)
  | require (path : String)
  | script (name source : String)
  | invoke (pair : Pair) (arguments : List Json.Value) (thread : Thread)
  | dispose (pair : Pair)
  | job (tag : String) (thread : Thread)
  | task (tag : String) (thread : Thread)
  | observer (tag : String) (thread : Thread)
  | transport (request : Prepared)
  | did (action : String) (reply : Reply)
deriving Inhabited

/-- The numbers of requests. -/
structure Traffic where
  nextId : Nat
  inFlight : Nat
  dispatched : Nat
  rejected : Nat
deriving DecidableEq, Repr, Inhabited

/-- What the owning thread is doing. -/
inductive Loop where
  /-- It brings the engine up. -/
  | starting
  | running
  /-- It has ended in order. -/
  | ended
  /-- It panicked while it brought the engine up. -/
  | crashed
deriving DecidableEq, Repr, Inhabited

/-- The modules that wait for the engine to be up. -/
structure Backlog where
  opened : Bool
  names : List String
deriving DecidableEq, Repr, Inhabited

/-- A session. -/
structure Session where
  settings : Settings
  locale : Locale
  program : Program
  phase : Phase
  loop : Loop
  clock : Nat
  lanes : Lanes Message
  lock : Lock Thread
  custody : Custody
  timers : Timers
  listeners : Listeners
  ticks : TickQueue Work
  /-- How many helpers have been started and have not drained yet. -/
  helpers : Nat
  traffic : Traffic
  /-- Requests that wait for a worker. -/
  errands : List Errand
  /-- Completions that are held back, by key; each keeps a worker busy. -/
  held : List (String × Call × Completion)
  readiness : Readiness Work
  backlog : Backlog
  /-- The ticket of the armed sweep. -/
  sweepTicket : Option Nat
  nextQuery : Nat
  /-- The queries that have been answered. -/
  answers : List (Nat × Except Failure Json.Value)
  /-- The queries that are asked for by key. -/
  keys : List (String × Nat)
  /-- How often each callback has been invoked. -/
  invocations : List (UInt64 × Nat)
  /-- Whether every handle has been dropped. -/
  dropped : Bool
  /-- The newest entry first. -/
  log : List Entry
  journal : Journal
deriving Inhabited

namespace Session

/-- A session that is about to be brought up. -/
def create (settings : Settings) (locale : Locale) (program : Program) (modules : List String) :
    Session where
  settings := settings
  locale := locale
  program := program
  phase := .initializing
  loop := .starting
  clock := 0
  lanes := .empty
  lock := .free
  custody := .empty
  timers := .empty
  listeners := .empty
  ticks := .empty
  helpers := 0
  traffic := ⟨1, 0, 0, 0⟩
  errands := []
  held := []
  readiness := .pending
  backlog := ⟨false, modules⟩
  sweepTicket := none
  nextQuery := 0
  answers := []
  keys := []
  invocations := []
  dropped := false
  log := []
  journal := []

/-- Whether work is accepted. -/
def isLive (s : Session) : Bool := s.phase.isLive && !s.lanes.closed

/-- Adds an entry to the log. -/
def note (s : Session) (e : Entry) : Session := { s with log := e :: s.log }

/-- Adds an event to the journal. -/
def record (s : Session) (e : Event) : Session := { s with journal := e :: s.journal }

/-- The counters of a session. -/
def statistics (s : Session) : Statistics where
  liveTimers := s.timers.live.length
  livePairs := s.custody.live.length
  graveyard := s.custody.buried.length
  pendingJobs := s.ticks.jobs.length
  listeners := s.listeners.count
  inFlight := s.traffic.inFlight
  dispatched := s.traffic.dispatched
  rejected := s.traffic.rejected
  disposalFailures := s.custody.failures

/-- Posts a message to the ordinary lane. -/
def post (s : Session) (m : Message) : Bool × Session :=
  let (posted, lanes) := s.lanes.post m
  (posted, { s with lanes })

/-- Posts a message to the urgent lane. -/
def postUrgent (s : Session) (m : Message) : Bool × Session :=
  let (posted, lanes) := s.lanes.postUrgent m
  (posted, { s with lanes })

/-- Arms a message for a delay from now. -/
def arm (s : Session) (delay : Nat) (m : Message) : Option Nat × Session :=
  let (ticket, lanes) := s.lanes.arm (s.clock + delay) m
  (ticket, { s with lanes })

/-- Takes an armed message back, if it still waits. -/
def withdraw (s : Session) (ticket : Option Nat) : Session :=
  match ticket with
  | none => s
  | some ticket => { s with lanes := s.lanes.withdraw ticket }

/-- Puts a pair in line for the next sweep. -/
def bury (s : Session) (p : Pair) : Session := { s with custody := s.custody.bury p }

/-- Puts pairs in line for the next sweep. -/
def buryAll (s : Session) (pairs : List Pair) : Session :=
  { s with custody := s.custody.buryAll pairs }

end Session
end ScriptHost
