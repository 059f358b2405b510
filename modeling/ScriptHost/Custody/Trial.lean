import ScriptHost.Custody

/-!
# Trials of custody

A trial runs operations on one custody with an engine whose calls are recorded and may fail or panic
on any occasion.

## Main definitions

* `Custody.Touch` — a call that reaches the engine.
* `Custody.Manner` — how an engine ends each call, given those before it.
* `Custody.Operation` — what can be asked of custody.
* `Custody.Bench` — a custody and the calls made so far; `Bench.perform` does one operation.
* `Custody.Faults` — an engine that fails or panics for listed pairs.
-/

namespace ScriptHost
namespace Custody

/-- A call that reaches the engine. -/
inductive Touch where
  | invoke (pair : Pair) (arguments : List Json.Value)
  | dispose (pair : Pair)
deriving Repr, Inhabited

/-- How an engine ends a call, given the calls before it. -/
abbrev Manner := List Touch → Touch → Outcome EngineFailure Unit

/-- What can be asked of custody. -/
inductive Operation where
  | adopt (pair : Pair)
  | adoptAll (pairs : List Pair)
  | isLive (pair : Pair)
  | invoke (pair : Pair) (arguments : List Json.Value)
  | retire (pair : Pair)
  | bury (pair : Pair)
  | isBuried (pair : Pair)
  | sweep
deriving Repr, Inhabited

/-- What an operation gives back. -/
inductive Reply where
  | flag (b : Bool)
  | ended (outcome : Outcome Failure Unit)
  | swept (report : SweepReport)
deriving Repr, Inhabited

/-- A custody and the calls made so far, the oldest first. -/
structure Bench where
  custody : Custody
  calls : List Touch
deriving Repr, Inhabited

namespace Bench

/-- Nothing in custody and no call made. -/
def fresh : Bench := ⟨.empty, []⟩

/-- Records a call and ends it in the engine's manner. -/
def touch (manner : Manner) (t : Touch) (calls : List Touch) :
    Outcome EngineFailure Unit × List Touch :=
  (manner calls t, calls ++ [t])

/-- The engine's way to release a pair. -/
def disposer (manner : Manner) : Disposer (List Touch) := fun p s =>
  let (result, calls) := touch manner (.dispose p) s.2
  (result, s.1, calls)

/-- Takes pairs if they can be taken. -/
def adopt (b : Bench) (pairs : List Pair) : Reply × Bench :=
  match b.custody.adopt? pairs with
  | some custody => (.flag true, { b with custody })
  | none => (.flag false, b)

/-- Does one operation. -/
def perform (manner : Manner) (b : Bench) : Operation → Reply × Bench
  | .adopt p => b.adopt [p]
  | .adoptAll pairs => b.adopt pairs
  | .isLive p => (.flag (b.custody.isLive p), b)
  | .invoke p arguments =>
    if b.custody.isLive p then
      let (result, calls) := touch manner (.invoke p arguments) b.calls
      (.ended result.ofEngine, { b with calls })
    else (.ended (.failed (.retired p)), b)
  | .retire p =>
    let (result, custody, calls) := Custody.retire (disposer manner) p (b.custody, b.calls)
    (.ended result, ⟨custody, calls⟩)
  | .bury p => (.flag (!b.custody.isBuried p), { b with custody := b.custody.bury p })
  | .isBuried p => (.flag (b.custody.isBuried p), b)
  | .sweep =>
    let (report, custody, calls) := Custody.sweep (disposer manner) (b.custody, b.calls)
    (.swept report, ⟨custody, calls⟩)

end Bench

/-- The pairs for which an engine fails or panics. -/
structure Faults where
  failInvoke : List Pair
  failDispose : List Pair
  panicDispose : List Pair
deriving Repr, Inhabited

/-- The manner of an engine with listed faults; a panic comes before a failure. -/
def Faults.manner (f : Faults) : Manner := fun _ touch =>
  match touch with
  | .invoke p _ =>
    if f.failInvoke.contains p then .failed (.script (p.label ++ " threw")) else .ok ()
  | .dispose p =>
    if f.panicDispose.contains p then .panicked
    else if f.failDispose.contains p then .failed (.disposal (p.label ++ " refused"))
    else .ok ()

end Custody
end ScriptHost
