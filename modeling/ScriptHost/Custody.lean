import ScriptHost.Outcome

/-!
# Custody of handle pairs

A pair is taken into custody when it is registered and leaves custody once, when the engine is asked
to release it. In between it may be buried, which puts it in line for the next sweep.

## Main definitions

* `Custody` — the live pairs, the buried ones in order, and the number of refused disposals.
* `Custody.adopt?` — takes all of some pairs, or none of them.
* `Custody.bury` — puts a pair in line.
* `Custody.retire` — releases one pair.
* `Custody.sweep` — releases every buried pair.

## Design notes

A live pair backs one registration, so adopting it again is refused; so is adopting a pair twice in
one call. The engine runs on a state of its own, next to the custody, and sees the custody as it is
in the middle of the operation: a pair that is being released is no longer live, and the line is
empty while it is being swept.
-/

namespace ScriptHost

/-- Which pairs the host holds. -/
structure Custody where
  live : List Pair
  /-- The pairs in line for the next sweep, each once. -/
  buried : List Pair
  /-- How many releases the engine has reported as failed. -/
  failures : Nat
deriving DecidableEq, Repr, Inhabited

/-- What a sweep did. -/
structure SweepReport where
  disposed : Nat
  failed : Nat
deriving DecidableEq, Repr, Inhabited

namespace Custody

/-- Nothing in custody. -/
def empty : Custody := ⟨[], [], 0⟩

/-- Whether a pair is registered. -/
def isLive (c : Custody) (p : Pair) : Bool := c.live.contains p

/-- Whether a pair is in line. -/
def isBuried (c : Custody) (p : Pair) : Bool := c.buried.contains p

/-- Whether some pairs can be adopted together: all different, and none of them live. -/
def canAdopt (c : Custody) (pairs : List Pair) : Bool :=
  decide pairs.Nodup && pairs.all (!c.isLive ·)

/-- Takes all of some pairs, or nothing if one of them is live or given twice. -/
def adopt? (c : Custody) (pairs : List Pair) : Option Custody :=
  if c.canAdopt pairs then some { c with live := c.live ++ pairs } else none

/-- Puts a pair in line, unless it is there already. -/
def bury (c : Custody) (p : Pair) : Custody :=
  if c.isBuried p then c else { c with buried := c.buried ++ [p] }

/-- Puts pairs in line, one after the other. -/
def buryAll (c : Custody) (pairs : List Pair) : Custody := pairs.foldl bury c

section
variable {σ : Type}

/-- An engine's way to release a pair. -/
abbrev Disposer (σ : Type) := Pair → Custody × σ → Outcome EngineFailure Unit × (Custody × σ)

/-- Releases one pair: it counts as retired whatever the engine says. -/
def retire (dispose : Disposer σ) (p : Pair) (s : Custody × σ) :
    Outcome Failure Unit × (Custody × σ) :=
  if s.1.isLive p then
    match dispose p ({ s.1 with live := s.1.live.erase p }, s.2) with
    | (.failed e, c, t) => (.failed (.engine e), { c with failures := c.failures + 1 }, t)
    | (result, s) => (result.ofEngine, s)
  else (.failed (.retired p), s)

/-- Releases pairs one after the other; what happens to one does not keep the others back. -/
def retireAll (dispose : Disposer σ) : List Pair → Custody × σ → SweepReport × (Custody × σ)
  | [], s => (⟨0, 0⟩, s)
  | p :: rest, s =>
    let (result, s) := retire dispose p s
    let (report, s) := retireAll dispose rest s
    match result with
    | .ok _ => ({ report with disposed := report.disposed + 1 }, s)
    | _ => ({ report with failed := report.failed + 1 }, s)

/-- Releases every pair that is in line now; those buried meanwhile wait for the next sweep. -/
def sweep (dispose : Disposer σ) (s : Custody × σ) : SweepReport × (Custody × σ) :=
  retireAll dispose s.1.buried ({ s.1 with buried := [] }, s.2)

end

end Custody
end ScriptHost
