import ScriptHost.Session.Play

/-!
# The engine

The engine as the session drives it: it logs each call, plays the actions that its program gives for
that call, and ends as they end.

## Main definitions

* `Session.invoke`, `Session.runScript`, `Session.loadPath`, `Session.loadModule`,
  `Session.dispose` — the engine's entry points.
* `Session.engineAccess` — direct calls for code that has the engine at hand.
* `Session.invokeLive`, `Session.sweepGraveyard` — calls that go through custody.
* `Session.runWork` — a job, task or observer.

## Design notes

Scripts and callbacks do not have the engine at hand, so what they do cannot lead back into it. They
reach the session while they run; an engine that takes a module or releases a pair could do so, too,
but here these two calls do nothing else.
-/

namespace ScriptHost
namespace Session

/-- Plays actions within a call to the engine. -/
def playScripted (thread : Thread) (actions : List Action) (s : Session) :
    Outcome EngineFailure Unit × Session :=
  match play .nowhere thread actions s with
  | (.ok _, s) => (.ok (), s)
  | (.failed message, s) => (.failed (.script message), s)
  | (.panicked, s) => (.panicked, s)

/-- How many times a callback has been invoked. -/
def invoked (s : Session) (callback : UInt64) : Nat := (s.invocations.lookup callback).getD 0

/-- The engine invokes a callback. -/
def invoke (thread : Thread) (pair : Pair) (arguments : List Json.Value) (s : Session) :
    Outcome EngineFailure Unit × Session :=
  let before := s.invoked pair.callback
  let s := { s.note (.invoke pair arguments thread) with
    invocations := (pair.callback, before + 1) :: s.invocations.filter (·.1 != pair.callback) }
  playScripted thread (s.program.callbackActions pair.callback before) s

/-- The engine runs a script: one whose source begins with `throw ` raises the rest, any other gives
its name and the length of its source in bytes. -/
def runScript (thread : Thread) (source name : String) (s : Session) :
    Outcome EngineFailure Json.Value × Session :=
  let s := s.note (.script name source)
  match playScripted thread (s.program.scriptActions name) s with
  | (.ok _, s) =>
    match behind? "throw " source with
    | some reason => (.failed (.script reason), s)
    | none => (.ok (.object [("name", .text name), ("length", .ofNat source.utf8ByteSize)]), s)
  | (.failed f, s) => (.failed f, s)
  | (.panicked, s) => (.panicked, s)

/-- The engine loads a path and gives the path back. -/
def loadPath (thread : Thread) (path : String) (s : Session) :
    Outcome EngineFailure Json.Value × Session :=
  let s := s.note (.require path)
  let (result, s) := playScripted thread (s.program.scriptActions path) s
  (result.map fun _ => .text path, s)

/-- The engine takes a module. -/
def loadModule (name : String) (s : Session) : Outcome EngineFailure Unit × Session :=
  (s.program.moduleEnd name, s.note (.register name))

/-- The engine releases a pair. -/
def dispose (pair : Pair) (s : Session) : Outcome EngineFailure Unit × Session :=
  let s := s.note (.dispose pair)
  if s.program.panicDispose.contains pair then (.panicked, s)
  else if s.program.failDispose.contains pair then (.failed (.disposal pair.label), s)
  else (.ok (), s)

/-- A direct call to the engine. -/
def callDirectly : EngineCaller := fun thread call s =>
  match call with
  | .script source name => s.runScript thread source name
  | .invoke pair arguments =>
    let s := s.record (.called pair.callback (s.invoked pair.callback))
    let (result, s) := s.invoke thread pair arguments
    (result.map fun _ => .null, s)

/-- The access of jobs and tasks, which are given the engine. -/
def engineAccess : EngineAccess := ⟨some callDirectly, some callDirectly⟩

/-- Invokes a pair that is in custody; any other is refused without a call to the engine. -/
def invokeLive (thread : Thread) (pair : Pair) (arguments : List Json.Value) (s : Session) :
    Outcome Failure Unit × Session :=
  if s.custody.isLive pair then
    let (result, s) := s.invoke thread pair arguments
    (result.ofEngine, s)
  else (.failed (.retired pair), s.record (.refused pair))

/-- How the engine releases pairs that are in custody. -/
def disposer : Custody.Disposer Session := fun pair state =>
  let (result, s) := state.2.dispose pair
  (result, state.1, s)

/-- Releases every buried pair. -/
def sweepGraveyard (s : Session) : SweepReport × Session :=
  let s := s.record (.swept s.custody.buried)
  let (report, custody, s) := Custody.sweep disposer (s.custody, s)
  (report, { s with custody })

/-- Runs a job, a task or an observer behind its entry in the log; however it ends, its end is
contained. -/
def runWork (access : EngineAccess) (thread : Thread) (entry : Entry) (work : Work) (s : Session) :
    Session :=
  (play access thread work.actions (s.note entry)).2

end Session
end ScriptHost
