import ScriptHost.Session.Loop

/-!
# Bringing a session up

## Main definitions

* `Session.spawn` — a session whose engine is about to be brought up, if the settings allow it.
* `Session.bringUp` — engine, modules and entry script, in this order.
* `Session.start` — bring-up, and then everything that waits at the first instant.

## Design notes

The owning thread holds the execution lock from the beginning to the end of bring-up. A failure of
the engine itself ends the session. A module that is refused or an entry script that fails does not;
but a panic anywhere leaves the session without its owning thread, still in bring-up and never
closed.
-/

namespace ScriptHost
namespace Session

/-- A session whose engine is about to be brought up, unless the settings are refused. -/
def spawn (isDirectory : String → Bool) (env : Locale.Environment) (settings : Settings)
    (program : Program) (modules : List String) : Except Failure Session := do
  settings.validate isDirectory
  let locale := Locale.capture settings.locale settings.timezone env
  let s := create settings locale program modules
  pure { s with lock := (s.lock.acquire .loop).2 }

/-- Bring-up has failed: nothing is accepted any more and the owning thread ends. -/
def abandon (s : Session) : Session :=
  { s with phase := .terminated, loop := .ended, lanes := s.lanes.close.desert }

/-- Bring-up has panicked: the owning thread is gone, and nothing else has been done. -/
def crash (s : Session) : Session := { s with loop := .crashed, lanes := s.lanes.desert }

/-- The engine takes the modules, in order; the answer tells whether it survived. -/
def loadModules : List String → Session → Bool × Session
  | [], s => (true, s)
  | name :: rest, s =>
    match s.loadModule name with
    | (.panicked, s) => (false, s)
    | (_, s) => loadModules rest s

/-- Modules and entry script, behind the engine; the answer tells whether the engine survived. -/
def loadAll (s : Session) : Bool × Session :=
  match loadModules s.backlog.names { s with backlog := ⟨true, []⟩ } with
  | (false, s) => (false, s)
  | (true, s) =>
    match s.settings.scriptPath with
    | none => (true, s)
    | some path =>
      match s.loadPath .loop path with
      | (.panicked, s) => (false, s)
      | (_, s) => (true, s)

/-- The engine is up: readiness goes ahead of other messages, and the first sweep is armed. -/
def enterLoop (s : Session) : Session :=
  { (s.postUrgent .ready).2.armSweep true with loop := .running }

/-- Brings the engine up. -/
def bringUp (s : Session) : Session :=
  let s := s.note (.bringUp s.locale s.settings.density s.settings.formFactor)
  match playScripted .loop s.program.bringUp s with
  | (.failed _, s) => s.unlock.abandon
  | (.panicked, s) => s.unlock.crash
  | (.ok _, s) =>
    match s.loadAll with
    | (true, s) => s.unlock.enterLoop
    | (false, s) => s.unlock.crash

/-- Brings the engine up and handles everything at the first instant. Helpers that were started
meanwhile wait for readiness, if it is still to be announced. -/
def start (bound : Nat) (s : Session) : Option Session := do
  let s := s.bringUp
  let s ← if s.helpersWait then some s else s.runHelpers bound
  let s ← s.settle bound
  s.runHelpers bound

end Session
end ScriptHost
