import ScriptHost.Ticks
import ScriptHost.Outcome

/-!
# Trials of jobs and lock

A trial runs nested steps on one queue of jobs and one execution lock: jobs whose actions are steps
again, bodies that run with the lock held, and bodies that run on another thread while the present
one waits.

## Main definitions

* `TickTrial.Step` — what a thread can do.
* `TickTrial.Bench` — the queue, the lock and the log that has not been reported.
* `TickTrial.perform`, `TickTrial.drain` — one step, and a drain.
* `TickTrial.run` — a list of steps from a fresh bench.

## Design notes

Threads are numbered by depth, since a thread that started another one waits for it. A drain goes
round at least once for each job it finds, and every job stems from a step of the trial, so the
number of steps bounds its rounds. A thread that would wait for a lock held by a thread that waits
for it gets no answer; such a step is reported as stuck.
-/

namespace ScriptHost
namespace TickTrial

/-- What a thread can do. -/
inductive Step where
  | enqueue (tag : Json.Value) (actions : List Step)
  | drain
  | held
  | draining
  | length
  | panic
  /-- Takes the lock, runs a body, and releases it. -/
  | acquire (body : List Step)
  /-- Runs a body on another thread and waits. -/
  | thread (body : List Step)
deriving Inhabited

/-- The name of a step in the log. -/
def Step.name : Step → String
  | .enqueue .. => "enqueue"
  | .drain => "drain"
  | .held => "held"
  | .draining => "draining"
  | .length => "len"
  | .panic => "panic"
  | .acquire _ => "acquire"
  | .thread _ => "thread"

mutual

/-- The number of steps in a step. -/
def Step.size : Step → Nat
  | .enqueue _ actions => 1 + sizeAll actions
  | .acquire body => 1 + sizeAll body
  | .thread body => 1 + sizeAll body
  | _ => 1

/-- The number of steps in a list. -/
def sizeAll : List Step → Nat
  | [] => 0
  | s :: rest => s.size + sizeAll rest

end

/-- A job: a tag and what it does. -/
structure Job where
  tag : Json.Value
  actions : List Step
deriving Inhabited

mutual

/-- What a step gives back. -/
inductive Reply where
  | flag (b : Bool)
  | count (n : Nat)
  /-- A drain that ran so many jobs. -/
  | drained (n : Nat)
  | refused (failure : Failure)
  /-- A body that ran under the lock. -/
  | guarded (reports : List Report)
  /-- A body that ran on another thread. -/
  | joined (reports : List Report)
  | panicked
  | stuck

/-- An entry of the log. -/
inductive Entry where
  | job (tag : Json.Value)
  | did (name : String) (reply : Reply)

/-- A reply with what happened since the last report, and the state afterwards. -/
inductive Report where
  | mk (reply : Reply) (log : List Entry) (length : Nat) (draining held : Bool)

end

instance : Inhabited Reply := ⟨.stuck⟩

/-- The queue, the lock and the log that has not been reported, the oldest entry first. -/
structure Bench where
  queue : TickQueue Job
  lock : Lock Nat
  log : List Entry
deriving Inhabited

namespace Bench

/-- An empty queue and a free lock. -/
def fresh : Bench := ⟨.empty, .free, []⟩

/-- Adds an entry to the log. -/
def note (b : Bench) (e : Entry) : Bench := { b with log := b.log ++ [e] }

/-- Reports a reply to a thread; what is reported leaves the log. -/
def report (b : Bench) (thread : Nat) (reply : Reply) : Report × Bench :=
  (.mk reply b.log b.queue.jobs.length b.queue.draining (b.lock.isHeldBy thread),
   { b with log := [] })

/-- The lock is released. -/
def unlock (b : Bench) : Bench := { b with lock := b.lock.release }

end Bench

section
-- how a drain is done by a thread
variable (drain : Nat → Bench → Reply × Bench)

mutual

/-- One step of a thread; nothing is returned if it panics. -/
def performWith (thread : Nat) : Step → Bench → Option Reply × Bench
  | .enqueue tag actions, b =>
    let (wake, queue) := b.queue.enqueue ⟨tag, actions⟩
    (some (.flag wake), { b with queue })
  | .drain, b =>
    let (reply, b) := drain thread b
    (some reply, b)
  | .held, b => (some (.flag (b.lock.isHeldBy thread)), b)
  | .draining, b => (some (.flag b.queue.draining), b)
  | .length, b => (some (.count b.queue.jobs.length), b)
  | .panic, b => (none, b)
  | .acquire body, b =>
    match b.lock.acquire thread with
    | (.granted, lock) =>
      match reportsWith thread body { b with lock } with
      | (some reports, b) => (some (.guarded reports), b.unlock)
      | (none, b) => (some .panicked, b.unlock)
    | (.reentrant, _) => (some (.refused .reentrant), b)
    | (.awaited, _) => (some .stuck, b)
  | .thread body, b =>
    match reportsWith (thread + 1) body b with
    | (some reports, b) => (some (.joined reports), b)
    | (none, b) => (some .panicked, b)

/-- The steps of a body, with a report for each; nothing is returned if one panics. -/
def reportsWith (thread : Nat) : List Step → Bench → Option (List Report) × Bench
  | [], b => (some [], b)
  | s :: rest, b =>
    match performWith thread s b with
    | (none, b) => (none, b)
    | (some reply, b) =>
      let (report, b) := b.report thread reply
      match reportsWith thread rest b with
      | (none, b) => (none, b)
      | (some reports, b) => (some (report :: reports), b)

end

/-- The actions of a job, each noted in the log; a panic ends them. -/
def playWith (thread : Nat) : List Step → Bench → Bench
  | [], b => b
  | s :: rest, b =>
    match performWith drain thread s b with
    | (none, b) => b
    | (some reply, b) => playWith thread rest (b.note (.did s.name reply))

/-- One job. -/
def runJobWith (thread : Nat) (b : Bench) (job : Job) : Bench :=
  playWith drain thread job.actions (b.note (.job job.tag))

end

/-- A drain by a thread within a bound on its rounds, with the number of jobs run before. -/
def drainFrom : Nat → Nat → Nat → Bench → Reply × Bench
  | 0, _, _, b => (.stuck, b)
  | bound + 1, executed, thread, b =>
    let b := { b with queue := b.queue.look }
    if b.queue.jobs.isEmpty then (.drained executed, b)
    else
      match b.lock.acquire thread with
      | (.granted, lock) =>
        let (batch, queue) := b.queue.take
        let b := batch.foldl (runJobWith (drainFrom bound 0) thread) { b with lock, queue }
        drainFrom bound (executed + batch.length) thread b.unlock
      | (.reentrant, _) => (.refused .reentrant, { b with queue := b.queue.giveUp })
      | (.awaited, _) => (.stuck, b)

/-- A drain by a thread. -/
def drain (bound thread : Nat) (b : Bench) : Reply × Bench := drainFrom bound 0 thread b

/-- One step of a thread. -/
def perform (bound thread : Nat) (s : Step) (b : Bench) : Option Reply × Bench :=
  performWith (drain bound) thread s b

/-- Steps from a given bench, with a report for each; a step that panics ends the run. -/
def runFrom (bound : Nat) : List Step → Bench → List Report
  | [], _ => []
  | s :: rest, b =>
    match perform bound 0 s b with
    | (none, _) => []
    | (some reply, b) =>
      let (report, b) := b.report 0 reply
      report :: runFrom bound rest b

/-- Steps on an empty queue and a free lock, with a report for each. -/
def run (steps : List Step) : List Report := runFrom (sizeAll steps + 2) steps .fresh

end TickTrial
end ScriptHost
