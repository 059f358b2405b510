/-!
# Readiness

Observers wait for a session to become ready. They are told once, in the order in which they came;
one that comes later is told at once.

## Main definitions

* `Readiness` — whether the session has become ready, and who is waiting.
* `Readiness.add`, `Readiness.remove`, `Readiness.announce`.

## Design notes

Observers are numbered when they are entered. One that comes after the announcement is told by the
caller and only takes a number, so it is never among those waiting.
-/

namespace ScriptHost

/-- Who waits for a session to become ready. -/
structure Readiness (α : Type) where
  ready : Bool
  nextIndex : Nat
  waiting : List (Nat × α)
deriving Repr, Inhabited

namespace Readiness

variable {α : Type}

/-- Nobody waits and nothing has been announced. -/
def pending : Readiness α := ⟨false, 0, []⟩

/-- Enters an observer: it waits, unless readiness has been announced. -/
def add (r : Readiness α) (observer : α) : Nat × Readiness α :=
  (r.nextIndex,
    { r with
      nextIndex := r.nextIndex + 1
      waiting := if r.ready then r.waiting else r.waiting ++ [(r.nextIndex, observer)] })

/-- Whether an observer is waiting. -/
def isWaiting (r : Readiness α) (index : Nat) : Bool := r.waiting.any (·.1 == index)

/-- Takes an observer out. -/
def remove (r : Readiness α) (index : Nat) : Readiness α :=
  { r with waiting := r.waiting.filter (·.1 ≠ index) }

/-- Announces readiness: those waiting are handed out, in order, to be told. -/
def announce (r : Readiness α) : List α × Readiness α :=
  if r.ready then ([], r)
  else (r.waiting.map (·.2), { r with ready := true, waiting := [] })

end Readiness
end ScriptHost
