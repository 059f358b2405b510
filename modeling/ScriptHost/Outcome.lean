import ScriptHost.Failure

/-!
# How a call ends

A call into the engine returns a value, reports a failure, or panics. A panic unwinds to the nearest
place that contains it.

## Main definitions

* `Outcome` — the three ends of a call.
* `Outcome.ofEngine` — an engine's failure as one of the host's.
* `Outcome.contain` — a contained call: a panic becomes the failure that is put in its place.
-/

namespace ScriptHost

/-- The three ends of a call. -/
inductive Outcome (ε α : Type) where
  | ok (a : α)
  | failed (e : ε)
  | panicked
deriving DecidableEq, Repr, Inhabited

namespace Outcome

variable {ε α β : Type}

/-- Changes the value of a call that returns. -/
def map (f : α → β) : Outcome ε α → Outcome ε β
  | ok a => ok (f a)
  | failed e => failed e
  | panicked => panicked

/-- An engine's failure as one of the host's. -/
def ofEngine : Outcome EngineFailure α → Outcome Failure α
  | ok a => ok a
  | failed e => failed (.engine e)
  | panicked => panicked

/-- The end of a contained call: a panic becomes a given failure. -/
def contain (onPanic : ε) : Outcome ε α → Except ε α
  | ok a => .ok a
  | failed e => .error e
  | panicked => .error onPanic

end Outcome
end ScriptHost
