import ScriptHost.Pair

/-!
# Failures

What can go wrong, by cause, and the wording of each.

## Main definitions

* `EngineFailure` — what the script engine reports.
* `Failure` — what the host reports to its callers; engine failures pass through.
* `EngineFailure.message`, `Failure.message` — the wording.
* `Failure.messages` — the wording followed by that of the underlying cause, if it has one.
-/

namespace ScriptHost

/-- A failure that the script engine reports. -/
inductive EngineFailure where
  /-- A script or callback raised. -/
  | script (reason : String)
  /-- A pair could not be released. -/
  | disposal (reason : String)
  /-- The engine could not be brought up. -/
  | bringUp (reason : String)
deriving DecidableEq, Repr, Inhabited

/-- The wording of an engine failure. -/
def EngineFailure.message : EngineFailure → String
  | .script reason => "script error: " ++ reason
  | .disposal reason => "disposal failed: " ++ reason
  | .bringUp reason => "engine initialization failed: " ++ reason

/-- A failure that the host reports to its callers. -/
inductive Failure where
  | missingResource (what : String)
  | invalidSettings (why : String)
  /-- The session accepts nothing any more. -/
  | closed
  /-- The calling thread holds the execution lock already, or is the one that would have to answer.
  -/
  | reentrant
  /-- The pair is not registered. -/
  | retired (pair : Pair)
  | malformedRequest (why : String)
  /-- A thread could not be started. -/
  | noThread (reason : String)
  /-- The owning thread is gone and will not answer. -/
  | disconnected
  | engine (failure : EngineFailure)
deriving DecidableEq, Repr, Inhabited

namespace Failure

/-- The wording of a failure. -/
def message : Failure → String
  | .missingResource what => "missing required resource: " ++ what
  | .invalidSettings why => "invalid configuration: " ++ why
  | .closed => "runtime has been shut down"
  | .reentrant => "execution lock is already held by the current thread"
  | .retired pair => "handle " ++ pair.label ++ " is not live"
  | .malformedRequest why => "malformed request: " ++ why
  | .noThread reason => "failed to spawn thread: " ++ reason
  | .disconnected => "runtime thread did not respond"
  | .engine failure => failure.message

/-- The wording of a failure, then that of its cause: only a thread that cannot be started has one.
-/
def messages (f : Failure) : List String :=
  match f with
  | .noThread reason => [f.message, reason]
  | _ => [f.message]

end Failure
end ScriptHost
