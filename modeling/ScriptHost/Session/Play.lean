import ScriptHost.Session.Operations

/-!
# Playing actions

Actions run one after the other on a thread. Each gives a reply; a failure or a panic ends the list
it stands in.

## Main definitions

* `EngineCall`, `EngineAccess` — calls that go to the engine directly, and where it is at hand.
* `Session.perform` — one action.
* `Session.play` — a list of actions, each logged with its reply.
* `Session.collect` — the actions of a guarded body, whose replies are gathered.

## Design notes

Actions nest: an observer that comes late is told within the action that enters it, and a guarded
body runs within the action that takes the lock. Calls to the engine lead to scripts, which are no
part of the action; they are passed in as a function, so that the recursion follows the actions
alone.

Jobs and tasks are given the engine. Observers and the host are not, but whoever takes the lock has
it at hand until the lock is released.
-/

namespace ScriptHost

/-- A call that goes to the engine directly. -/
inductive EngineCall where
  | script (source name : String)
  | invoke (pair : Pair) (arguments : List Json.Value)
deriving Inhabited

/-- How a thread calls the engine. -/
abbrev EngineCaller := Thread → EngineCall → Session → Outcome EngineFailure Json.Value × Session

/-- Where code has the engine at hand. -/
structure EngineAccess where
  /-- Right away. -/
  given : Option EngineCaller
  /-- While it holds the lock. -/
  locked : Option EngineCaller

namespace EngineAccess

/-- The engine is never at hand. -/
def nowhere : EngineAccess := ⟨none, none⟩

/-- The engine is at hand while the lock is held, and otherwise not. -/
def outside (access : EngineAccess) : EngineAccess := ⟨none, access.locked⟩

/-- Within the body of a guard. -/
def inside (access : EngineAccess) : EngineAccess := ⟨access.locked, access.locked⟩

end EngineAccess

namespace Session

/-- The reply to an optional number. -/
def replyId : Option Nat → Reply
  | none => .nothing
  | some n => .count n

/-- An operation that answers yes or no. -/
def flagged : Bool × Session → Outcome String Reply × Session
  | (b, s) => (.ok (.flag b), s)

/-- Asks the loop and waits. The owning thread is refused, since it would have to answer itself; any
other thread that is in the middle of an action keeps the loop from answering. -/
def askFrom (thread : Thread) (ask : Session → Except Failure Nat × Session) (s : Session) :
    Outcome String Reply × Session :=
  if thread = .loop then (.ok (.failed .reentrant), s)
  else
    match ask s with
    | (.ok _, s) => (.ok .stuck, s)
    | (.error f, s) => (.ok (.failed f), s)

/-- Shuts down: the owning thread only posts the last message, any other one would wait. -/
def shutdownFrom (thread : Thread) (s : Session) : Outcome String Reply × Session :=
  if thread = .loop then
    match s.beginShutdown none with
    | (true, s) => (.ok (.value .null), s)
    | (false, s) => (.ok (.failed .closed), s)
  else
    match s.askShutdown with
    | (.ok _, s) => (.ok .stuck, s)
    | (.error f, s) => (.ok (.failed f), s)

/-- A call to the engine, if it is at hand. -/
def callEngine (access : EngineAccess) (thread : Thread) (call : EngineCall) (s : Session) :
    Outcome String Reply × Session :=
  match access.given with
  | none => (.ok .nothing, s)
  | some engine =>
    match engine thread call s with
    | (.ok v, s) => (.ok (.value v), s)
    | (.failed f, s) => (.ok (.engineFailed f), s)
    | (.panicked, s) => (.panicked, s)

/-- Takes the execution lock for a thread, or tells why not. -/
def takeLock (thread : Thread) (s : Session) : Except Reply Session :=
  if !s.isLive then .error (.failed .closed)
  else
    match s.lock.acquire thread with
    | (.granted, lock) => .ok { s with lock }
    | (.reentrant, _) => .error (.failed .reentrant)
    | (.awaited, _) => .error .stuck

/-- The execution lock is released. -/
def unlock (s : Session) : Session := { s with lock := s.lock.release }

mutual

/-- One action on a thread. -/
def perform (access : EngineAccess) (thread : Thread) :
    Action → Session → Outcome String Reply × Session
  | .schedule door pair delay recurring, s =>
    let (id, s) := s.schedule door pair delay recurring
    (.ok (replyId id), s)
  | .cancel door timer, s => flagged (s.cancel door timer)
  | .tick door noThreads tag actions, s => flagged (s.enqueue door thread noThreads ⟨tag, actions⟩)
  | .request door noThreads order, s =>
    let (id, s) := s.issue door noThreads order
    (.ok (replyId id), s)
  | .on door event pair, s => flagged (s.listen door event pair)
  | .off door event, s =>
    let (count, s) := s.unlisten door event
    (.ok (.count count), s)
  | .phase door, s =>
    (.ok (.phase (if door = .context && s.dropped then .terminated else s.phase)), s)
  | .locale door, s =>
    (.ok (if door = .context && s.dropped then .nothing else .locale s.locale), s)
  | .isTimerLive timer, s => (.ok (.flag (s.timers.isLive timer)), s)
  | .emit event value, s => flagged (s.emit event value)
  | .emitFlag event value, s => flagged (s.emit event (.bool value))
  | .register name, s => flagged (s.registerModule name)
  | .post tag delay actions, s => flagged (s.postWork delay ⟨tag, actions⟩)
  | .pause, s => flagged s.pause
  | .unpause, s => flagged s.unpause
  | .sweep, s => flagged s.sweepNow
  | .readiness, s => (.ok (.readiness s.readiness.ready (!s.isLive)), s)
  | .awaitReady, s => (.ok (.flag s.readiness.ready), s)
  | .interval, s => (.ok (.count s.settings.cleanupInterval), s)
  | .statistics, s => (.ok (.statistics s.statistics), s)
  | .observe tag actions, s =>
    let s := if s.readiness.ready then
        (play access.outside thread actions (s.note (.observer tag thread))).2
      else s
    let (index, readiness) := s.readiness.add ⟨tag, actions⟩
    (.ok (.count index), { s with readiness })
  | .unobserve index, s =>
    (.ok (.flag (s.readiness.isWaiting index)),
      { s with readiness := s.readiness.remove index })
  | .release key, s => flagged (s.release key)
  | .guarded body, s =>
    match takeLock thread s with
    | .error reply => (.ok reply, s)
    | .ok s =>
      match collect access.inside thread body s with
      | (some replies, s) => (.ok (.replies replies), s.unlock)
      | (none, s) => (.ok .panicked, s.unlock)
  | .leakLock, s =>
    match takeLock thread s with
    | .error reply => (.ok reply, s)
    | .ok s => (.ok (.value .null), s)
  | .script source name, s => askFrom thread (·.askScript source name) s
  | .require path, s => askFrom thread (·.askRequire path) s
  | .shutdown, s => shutdownFrom thread s
  | .beginScript key source name, s =>
    let (reply, s) := s.beginScript key source name
    (.ok reply, s)
  | .scriptResult key, s =>
    let (reply, s) := s.scriptResult key
    (.ok reply, s)
  | .callScript source name, s => callEngine access thread (.script source name) s
  | .callBack pair arguments, s => callEngine access thread (.invoke pair arguments) s
  | .fail message, s => (.failed message, s)
  | .panic, s => (.panicked, s)

/-- A list of actions, each logged with its reply. -/
def play (access : EngineAccess) (thread : Thread) :
    List Action → Session → Outcome String Unit × Session
  | [], s => (.ok (), s)
  | a :: rest, s =>
    match perform access thread a s with
    | (.ok reply, s) => play access thread rest (s.note (.did a.name reply))
    | (.failed message, s) => (.failed message, s)
    | (.panicked, s) => (.panicked, s)

/-- The actions of a guarded body; nothing is returned if one of them panics. -/
def collect (access : EngineAccess) (thread : Thread) :
    List Action → Session → Option (List Reply) × Session
  | [], s => (some [], s)
  | a :: rest, s =>
    match perform access thread a s with
    | (.ok reply, s) =>
      match collect access thread rest s with
      | (some replies, s) => (some (reply :: replies), s)
      | (none, s) => (none, s)
    | (_, s) => (none, s)

end

end Session
end ScriptHost
