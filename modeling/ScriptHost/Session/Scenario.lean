import ScriptHost.Session.Start

/-!
# Scenarios

A scenario is a whole session as the host drives it: steps while the engine is being brought up, and
steps afterwards, with a report for each.

## Main definitions

* `HostStep` — an action of the host, letting the loop run, or dropping every handle.
* `Session.step` — one step after bring-up; `Session.earlyStep` — one during bring-up.
* `Report`, `Transcript` — what is seen of a step, and of a scenario.
* `Scenario.outcome`, `Scenario.run` — the transcript of a scenario, with and without the state in
  which it ends.

## Design notes

The loop stands still while the host acts. A step that waits for an answer lets the loop run at the
present instant; during bring-up nothing is waited for, and the answers come with the report on the
start.

A step is over when the transport has been called for every request that has been issued meanwhile.
Where one waits for a worker, all of which are busy, the host would have to go on for one to come
free: the step is stuck.
-/

namespace ScriptHost

/-- What the host does next. -/
inductive HostStep where
  | act (action : Action)
  | run (ms : Nat)
  /-- Drops every handle, if the owning thread is gone. -/
  | drop
deriving Inhabited

/-- What is seen of a step. -/
structure Report where
  reply : Reply
  /-- What has been logged since the last report, the oldest entry first. -/
  log : List Entry
  clock : Nat
  /-- Not seen any more once every handle has been dropped. -/
  state : Option (Phase × Statistics)
deriving Inhabited

namespace Session

/-- Whether the owning thread is gone. -/
def isGone (s : Session) : Bool := s.loop = .ended || s.loop = .crashed

/-- A message the host waits for, if the action is one. -/
def blockingAsk (a : Action) : Option (Session → Except Failure Nat × Session) :=
  match a with
  | .script source name => some (·.askScript source name)
  | .require path => some (·.askRequire path)
  | .shutdown => some askShutdown
  | _ => none

/-- An action of the host that does not wait for an answer. -/
def act (a : Action) (s : Session) : Reply × Session :=
  match perform engineAccess.outside .host a s with
  | (.ok reply, s) => (reply, s)
  | (_, s) => (.panicked, s)

/-- One step of the host. -/
def step (bound : Nat) (h : HostStep) (s : Session) : Option (Reply × Session) :=
  match h with
  | .run ms => do
    let s ← s.run bound ms
    some (.nothing, s)
  | .drop => some (.flag s.isGone, if s.isGone then s.forsake else s)
  | .act a =>
    match blockingAsk a with
    | some ask =>
      match ask s with
      | (.ok query, s) => do
        let s ← s.run bound 0
        some (s.answerOf query, s)
      | (.error f, s) => some (.failed f, s)
    | none => do
      let (reply, s) := s.act a
      let s ← s.runHelpers bound
      some (reply, s)

/-- One step of the host while the engine is being brought up, with the query whose answer is to be
waited for. -/
def earlyStep (h : HostStep) (s : Session) : Reply × List (Except Failure Nat) × Session :=
  match h with
  | .run _ => (.nothing, [], s)
  | .drop => (.flag false, [], s)
  | .act a =>
    match blockingAsk a with
    | some ask =>
      let (asked, s) := ask s
      (.deferred, [asked], s)
    | none =>
      let (reply, s) := s.act a
      (reply, [], s)

/-- The report on a step that led from one state to another. -/
def report (before after : Session) (reply : Reply) : Report where
  reply := if after.errands.isEmpty then reply else .stuck
  log := (after.log.take (after.log.length - before.log.length)).reverse
  clock := after.clock
  state := if after.dropped then none else some (after.phase, after.statistics)

/-- Steps after bring-up, with a report for each. -/
def stepAll (bound : Nat) : List HostStep → Session → Option (List Report × Session)
  | [], s => some ([], s)
  | h :: rest, s => do
    let (reply, after) ← s.step bound h
    let (reports, last) ← stepAll bound rest after
    some (s.report after reply :: reports, last)

/-- Steps during bring-up, with a report for each and the queries to be waited for. -/
def earlySteps : List HostStep → Session → List Report × List (Except Failure Nat) × Session
  | [], s => ([], [], s)
  | h :: rest, s =>
    let (reply, asked, after) := s.earlyStep h
    let (reports, asked', last) := earlySteps rest after
    (s.report after reply :: reports, asked ++ asked', last)

end Session

/-- A whole session as the host drives it. -/
structure Scenario where
  settings : Settings
  program : Program
  modules : List String
  /-- Whether no thread can be started. -/
  noThreads : Bool
  early : List HostStep
  steps : List HostStep
deriving Inhabited

/-- What is seen of a scenario. -/
structure Transcript where
  early : List Report
  /-- The report on bring-up; its reply has the answers that were waited for. -/
  start : Report
  steps : List Report
deriving Inhabited

/-- The transcript of a scenario and the state in which it ends, or why there is no session; nothing
if the bound is too small. -/
def Scenario.outcome (bound : Nat) (isDirectory : String → Bool) (env : Locale.Environment)
    (c : Scenario) : Option (Except Failure (Transcript × Session)) :=
  match Session.spawn isDirectory env c.settings c.program c.modules with
  | .error f => some (.error f)
  | .ok s =>
    if c.noThreads then some (.error (.noThread "no threads"))
    else do
      let (early, asked, s) := s.earlySteps c.early
      let started ← s.start bound
      let answers := asked.map fun
        | .ok query => started.answerOf query
        | .error f => .failed f
      let (steps, last) ← started.stepAll bound c.steps
      some (.ok (⟨early, s.report started (.replies answers), steps⟩, last))

/-- The transcript of a scenario, or why there is no session; nothing if the bound is too small. -/
def Scenario.run (bound : Nat) (isDirectory : String → Bool) (env : Locale.Environment)
    (c : Scenario) : Option (Except Failure Transcript) :=
  (c.outcome bound isDirectory env).map fun outcome => outcome.map (·.1)

end ScriptHost
