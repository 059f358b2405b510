import ScriptHost.Request.Basic
import ScriptHost.Locale
import ScriptHost.Phase

/-!
# What code around a session does

Everything that runs in or next to a session — callbacks, scripts, jobs, tasks, observers and the
host itself — is described by lists of actions.

## Main definitions

* `Thread`, `Door` — where an action runs and by which way it reaches the session.
* `Order`, `Errand` — a request as it is ordered, and as a worker takes it.
* `Action` — one action; `Action.name` is its name in the log.
* `Work` — tagged actions: a job, a task or an observer.
* `Reply` — what an action gives back.
* `Statistics` — the counters of a session.
-/

namespace ScriptHost

/-- The threads around a session. -/
inductive Thread where
  /-- The owning thread, which runs the loop. -/
  | loop
  /-- The thread of the host. -/
  | host
  /-- A thread started to drain jobs. -/
  | helper
deriving DecidableEq, Repr, Inhabited

/-- The ways to reach a session. -/
inductive Door where
  /-- The engine's view, taken to be used by scripts on the owning thread. -/
  | context
  /-- The host's handle, usable from any thread. -/
  | handle
deriving DecidableEq, Repr, Inhabited

/-- How a transport answers a request. -/
inductive Answer where
  | completes (completion : Completion)
  | panics
  /-- As if there were no transport. -/
  | declines
deriving DecidableEq, Repr, Inhabited

/-- A request with its callbacks, and how the transport will answer it. -/
structure Order where
  request : Request
  onSuccess : UInt64
  onError : UInt64
  receiver : UInt64
  answer : Answer
  /-- The key under which the completion is held back until it is released. -/
  hold : Option String
deriving DecidableEq, Repr, Inhabited

/-- The request that an order becomes under a number. -/
def Order.call (order : Order) (id : Nat) : Call :=
  ⟨id, order.request, order.onSuccess, order.onError, order.receiver⟩

/-- What a worker is to do: to call the transport for a request that could be prepared. -/
structure Errand where
  call : Call
  prepared : Prepared
  order : Order
deriving Inhabited

/-- One action. -/
inductive Action where
  | schedule (door : Door) (pair : Pair) (delay : Nat) (recurring : Bool)
  | cancel (door : Door) (timer : Nat)
  /-- Enqueues a job; it can be made impossible to start a thread meanwhile. -/
  | tick (door : Door) (noThreads : Bool) (tag : String) (actions : List Action)
  | request (door : Door) (noThreads : Bool) (order : Order)
  | on (door : Door) (event : String) (pair : Pair)
  | off (door : Door) (event : String)
  | phase (door : Door)
  | locale (door : Door)
  | isTimerLive (timer : Nat)
  | emit (event : String) (value : Json.Value)
  | emitFlag (event : String) (value : Bool)
  | register (name : String)
  | post (tag : String) (delay : Nat) (actions : List Action)
  | pause
  | unpause
  | sweep
  | readiness
  /-- Waits for readiness, but not longer than it takes to look. -/
  | awaitReady
  | interval
  | statistics
  | observe (tag : String) (actions : List Action)
  | unobserve (index : Nat)
  | release (key : String)
  /-- Holds the execution lock while a body runs. -/
  | guarded (body : List Action)
  /-- Takes the execution lock and never releases it. -/
  | leakLock
  | script (source name : String)
  | require (path : String)
  | shutdown
  /-- Starts a script whose result is asked for under a key. -/
  | beginScript (key source name : String)
  | scriptResult (key : String)
  /-- Runs a script on the engine directly. -/
  | callScript (source name : String)
  /-- Invokes a callback on the engine directly. -/
  | callBack (pair : Pair) (arguments : List Json.Value)
  | fail (message : String)
  | panic
deriving Inhabited

/-- The name of an action in the log. -/
def Action.name : Action → String
  | .schedule .. => "schedule"
  | .cancel .. => "cancel"
  | .tick .. => "tick"
  | .request .. => "request"
  | .on .. => "on"
  | .off .. => "off"
  | .phase _ => "state"
  | .locale _ => "locale"
  | .isTimerLive _ => "live"
  | .emit .. => "emit"
  | .emitFlag .. => "emit_bool"
  | .register _ => "module"
  | .post .. => "post"
  | .pause => "pause"
  | .unpause => "unpause"
  | .sweep => "sweep"
  | .readiness => "ready"
  | .awaitReady => "wait_ready"
  | .interval => "config"
  | .statistics => "stats"
  | .observe .. => "observe"
  | .unobserve _ => "unobserve"
  | .release _ => "release"
  | .guarded _ => "lock"
  | .leakLock => "lock_leak"
  | .script .. => "script"
  | .require _ => "require"
  | .shutdown => "shutdown"
  | .beginScript .. => "script_begin"
  | .scriptResult _ => "script_result"
  | .callScript .. => "engine_script"
  | .callBack .. => "engine_invoke"
  | .fail _ => "fail"
  | .panic => "panic"

/-- Tagged actions: a job, a task or an observer. -/
structure Work where
  tag : String
  actions : List Action
deriving Inhabited

/-- The counters of a session. -/
structure Statistics where
  liveTimers : Nat
  livePairs : Nat
  graveyard : Nat
  pendingJobs : Nat
  listeners : Nat
  inFlight : Nat
  dispatched : Nat
  rejected : Nat
  disposalFailures : Nat
deriving DecidableEq, Repr, Inhabited

/-- What an action gives back. -/
inductive Reply where
  | nothing
  | flag (b : Bool)
  | count (n : Nat)
  | phase (p : Phase)
  | locale (l : Locale)
  | readiness (ready closed : Bool)
  | statistics (s : Statistics)
  | value (v : Json.Value)
  | failed (f : Failure)
  | engineFailed (f : EngineFailure)
  /-- What the actions of a guarded body gave back. -/
  | replies (rs : List Reply)
  | panicked
  /-- Not known yet. -/
  | pending
  /-- Nothing was asked under that key. -/
  | unknown
  /-- Will be known when the session has been brought up. -/
  | deferred
  /-- The thread waits for an answer that only it could make possible. -/
  | stuck
deriving Inhabited

end ScriptHost
