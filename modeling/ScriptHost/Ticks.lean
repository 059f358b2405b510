import ScriptHost.Failure

/-!
# Next-tick jobs and the execution lock

Jobs wait until a drain takes them. A drain runs them in batches with the execution lock held, until
it finds no more.

## Main definitions

* `TickQueue` — the waiting jobs, and whether a drain is at work.
* `TickQueue.enqueue` — adds a job and tells whether a drain has to be started.
* `TickQueue.look`, `TickQueue.take` — how a drain begins a batch.
* `Lock` — the execution lock; `Lock.acquire` and `Lock.release`.

## Design notes

A drain has to be started for a job that comes into an empty queue with no drain at work; a drain at
work finds later jobs itself. The lock remembers the thread that holds it and is refused to that
thread; any other thread has to wait.
-/

namespace ScriptHost

/-- The jobs that wait for the next tick. -/
structure TickQueue (α : Type) where
  jobs : List α
  draining : Bool
deriving DecidableEq, Repr, Inhabited

namespace TickQueue

variable {α : Type}

/-- No job waits and no drain is at work. -/
def empty : TickQueue α := ⟨[], false⟩

/-- Whether a job that comes now needs a drain to be started. -/
def isIdle (q : TickQueue α) : Bool := q.jobs.isEmpty && !q.draining

/-- Adds a job; the answer tells whether a drain has to be started. -/
def enqueue (q : TickQueue α) (job : α) : Bool × TickQueue α :=
  (q.isIdle, { q with jobs := q.jobs ++ [job] })

/-- A drain looks for jobs: it is at work exactly if there are any. -/
def look (q : TickQueue α) : TickQueue α := { q with draining := !q.jobs.isEmpty }

/-- A drain gives up. -/
def giveUp (q : TickQueue α) : TickQueue α := { q with draining := false }

/-- A drain takes all waiting jobs as one batch. -/
def take (q : TickQueue α) : List α × TickQueue α := (q.jobs, { q with jobs := [] })

end TickQueue

/-- The execution lock, with the thread that holds it. -/
structure Lock (θ : Type) where
  holder : Option θ
deriving DecidableEq, Repr, Inhabited

/-- What a thread that asks for the lock gets. -/
inductive Grant where
  | granted
  /-- The thread holds the lock already. -/
  | reentrant
  /-- Another thread holds the lock and has to release it first. -/
  | awaited
deriving DecidableEq, Repr, Inhabited

namespace Lock

variable {θ : Type} [DecidableEq θ]

/-- A lock that nobody holds. -/
def free : Lock θ := ⟨none⟩

/-- Whether a thread holds the lock. -/
def isHeldBy (l : Lock θ) (thread : θ) : Bool := l.holder == some thread

/-- A thread asks for the lock. -/
def acquire (l : Lock θ) (thread : θ) : Grant × Lock θ :=
  match l.holder with
  | none => (.granted, ⟨some thread⟩)
  | some holder => if holder = thread then (.reentrant, l) else (.awaited, l)

/-- The holder releases the lock. -/
def release (_ : Lock θ) : Lock θ := free

end Lock
end ScriptHost
