import ScriptHost.Session.Action

/-!
# The journal of a session

What a session has taken on and what has become of it, in the order in which it happened. Nothing a
session does depends on its journal: it is what statements about whole sessions speak of.

## Main definitions

* `Event` — what is put on record.
* `Journal` — the events of a session, the newest first.
* `Journal.registered`, `Journal.swept` — the pairs that came into custody, and that sweeps took.
* `Journal.refused` — those that were not in custody when they were to be invoked.
* `Journal.outstanding`, `Journal.dropped` — the requests that still wait for a delivery, and those
  that wait in vain.
* `Journal.called` — the invocations that code has made on the engine directly.
* `Journal.accepted`, `Journal.executed` — the next-tick jobs; `Journal.atLastSweep` — both of them
  as they were when the last sweep began.
-/

namespace ScriptHost

/-- What is put on record. -/
inductive Event where
  /-- Pairs have come into custody. -/
  | registered (pairs : List Pair)
  /-- A callback was to be invoked whose pair is not in custody. -/
  | refused (pair : Pair)
  /-- A sweep begins; these pairs are in line. -/
  | swept (pairs : List Pair)
  /-- A request is on its way. -/
  | issued (call : Call)
  /-- A worker calls the transport for a request. -/
  | sent (call : Call)
  /-- The completion of a request has come to the loop. -/
  | delivered (call : Call)
  /-- The queue has refused the completion of a request. -/
  | dropped (call : Call)
  /-- A next-tick job has been accepted. -/
  | accepted (job : Work)
  /-- A next-tick job begins. -/
  | executed (job : Work)
  /-- Code that has the engine at hand invokes a callback, which has been invoked so many times
  before. -/
  | called (callback : UInt64) (before : Nat)
  /-- The last message comes to its sweep. -/
  | lastSweep
deriving Inhabited

/-- The events of a session, the newest first. -/
abbrev Journal := List Event

namespace Journal

/-- The pairs that came into custody, the first ones first. -/
def registered : Journal → List Pair
  | [] => []
  | .registered pairs :: j => registered j ++ pairs
  | _ :: j => registered j

/-- The pairs that sweeps took, the first ones first. -/
def swept : Journal → List Pair
  | [] => []
  | .swept pairs :: j => swept j ++ pairs
  | _ :: j => swept j

/-- The pairs that were not in custody when they were to be invoked. -/
def refused : Journal → List Pair
  | [] => []
  | .refused pair :: j => pair :: refused j
  | _ :: j => refused j

/-- The requests whose completion has neither come to the loop nor been refused. -/
def outstanding : Journal → List Call
  | [] => []
  | .issued call :: j => call :: outstanding j
  | .delivered call :: j => (outstanding j).erase call
  | .dropped call :: j => (outstanding j).erase call
  | _ :: j => outstanding j

/-- The requests whose completion has been refused. -/
def dropped : Journal → List Call
  | [] => []
  | .dropped call :: j => call :: dropped j
  | _ :: j => dropped j

/-- The invocations that code has made on the engine directly: each with its callback and how many
times that had been invoked before. -/
def called : Journal → List (UInt64 × Nat)
  | [] => []
  | .called callback before :: j => (callback, before) :: called j
  | _ :: j => called j

/-- The jobs that have been accepted, the first ones first. -/
def accepted : Journal → List Work
  | [] => []
  | .accepted job :: j => accepted j ++ [job]
  | _ :: j => accepted j

/-- The jobs that have been begun, the first ones first. -/
def executed : Journal → List Work
  | [] => []
  | .executed job :: j => executed j ++ [job]
  | _ :: j => executed j

/-- The jobs that had been accepted, and those that had been begun, when the last message came to
its sweep. -/
def atLastSweep : Journal → Option (List Work × List Work)
  | [] => none
  | .lastSweep :: j => some (accepted j, executed j)
  | _ :: j => atLastSweep j

end Journal
end ScriptHost
