import ScriptHost.Readiness

/-!
# Trials of readiness

A trial enters observers, takes them out and announces readiness. An observer does such steps itself
when it is told: within the announcement, or at once if it comes later.

## Main definitions

* `Readiness.Step` — what can be done, by the host or by an observer.
* `Readiness.Notice` — what can be noticed of it.
* `Readiness.Trial` — who is waiting, and what has been noticed so far.
* `Readiness.Trial.announce` — an announcement, with all that the observers do.
* `Readiness.trial` — steps of the host, one after the other.

## Design notes

An observer that is told does its steps in order until one of them panics; the panic is contained.
Only the first announcement does anything, and behind it nobody waits, so an announcement made by an
observer finds nothing to do. What an announcement does is passed to the steps as a function, so
that the recursion follows the steps alone.
-/

namespace ScriptHost
namespace Readiness

/-- What can be done. -/
inductive Step where
  /-- Enters an observer, which does these steps when it is told. -/
  | add (steps : List Step)
  | remove (index : Nat)
  | announce
  | panic
deriving Inhabited

/-- What can be noticed. -/
inductive Notice where
  /-- An observer has got a number. -/
  | added (index : Nat)
  /-- An observer is told. -/
  | told (index : Nat)
  /-- The answer to a removal. -/
  | removed (index : Nat) (found : Bool)
  /-- Readiness has been announced. -/
  | announced
deriving DecidableEq, Repr

/-- Who is waiting, each with its number, and what has been noticed, the first notice first. -/
structure Trial where
  readiness : Readiness (Nat × List Step)
  notices : List Notice

namespace Trial

/-- One more notice. -/
def note (t : Trial) (n : Notice) : Trial := { t with notices := t.notices ++ [n] }

section
-- what an announcement does
variable (spread : Trial → Trial)

mutual

/-- One step. -/
def perform : Step → Trial → Trial
  | .add steps, t =>
    let (index, readiness) := t.readiness.add (t.readiness.nextIndex, steps)
    let t := { t with readiness }.note (.added index)
    if readiness.ready then play steps (t.note (.told index)) else t
  | .remove index, t =>
    { t with readiness := t.readiness.remove index }.note
      (.removed index (t.readiness.isWaiting index))
  | .announce, t => spread t
  | .panic, t => t

/-- Steps in order, until one of them panics. -/
def play : List Step → Trial → Trial
  | [], t => t
  | .panic :: _, t => t
  | step :: rest, t => play rest (perform step t)

end

/-- Tells observers, one after the other. -/
def tell (observers : List (Nat × List Step)) (t : Trial) : Trial :=
  observers.foldl (fun t observer => play spread observer.2 (t.note (.told observer.1))) t

end

/-- Announces readiness and tells those who wait. -/
def announce (t : Trial) : Trial :=
  if t.readiness.ready then t
  else
    let (observers, readiness) := t.readiness.announce
    tell id observers ({ t with readiness }.note .announced)

end Trial

/-- Steps of the host, with nobody waiting at first. -/
def trial (steps : List Step) : Trial := Trial.play Trial.announce steps ⟨.pending, []⟩

end Readiness
end ScriptHost
