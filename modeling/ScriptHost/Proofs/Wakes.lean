import Mathlib.Logic.Relation
import ScriptHost.Ticks.Trial

/-!
# Which enqueues start a drain

Threads enqueue jobs and call for drains in any order: beside each other, from inside jobs, with and
without the lock. The queue keeps one flag for all of its drains. The flag is up exactly while a
drain is at work, as long as no other drain returns beside it: a drain that returns takes the flag
down, whoever else is at work, and it stays down until jobs are found again.

## Main definitions

* `DrainCall` — a call for a drain that has not returned.
* `Drains` — a queue with its lock and the calls that are under way.
* `Drains.Move` — one atomic step of one thread; `Drains.Reached` — where any interleaving leads.

## Main statements

* `Drains.Reached.draining_eq` — when the flag is up.
* `Drains.Reached.wakes` — when an enqueue starts a drain, and what a drain that returns leaves.
* `TickTrial.perform_threaded` — what a thread does in a trial is an interleaving of such steps.

## Design notes

A thread that is in the middle of a job may do anything, and so may all the others, so every step is
allowed at any time. This covers more orders than threads can produce.
-/

namespace ScriptHost

/-- Where a call for a drain stands. -/
inductive DrainStage where
  /-- It has not looked for jobs yet. -/
  | entered
  /-- It has found jobs and asks for the lock. -/
  | asking
  /-- It has the lock and has not taken the jobs yet. -/
  | holding
  /-- It runs the jobs that it has taken. -/
  | running
  /-- It has run a batch and released the lock, and is about to look again. -/
  | between
deriving DecidableEq, Repr

/-- A call for a drain that has not returned. -/
structure DrainCall (θ : Type) where
  thread : θ
  stage : DrainStage
deriving DecidableEq, Repr

namespace DrainCall

variable {θ : Type}

/-- Whether the drain has found jobs. -/
def isActive (c : DrainCall θ) : Bool := c.stage ≠ .entered

/-- Whether the drain is about to look for jobs. -/
def looks (c : DrainCall θ) : Bool := c.stage = .entered ∨ c.stage = .between

/-- The call goes on to a stage. -/
def goTo (c : DrainCall θ) (stage : DrainStage) : DrainCall θ := { c with stage }

end DrainCall

/-- A queue with its lock, and the calls for a drain that are under way. -/
structure Drains (θ α : Type) where
  queue : TickQueue α
  lock : Lock θ
  calls : List (DrainCall θ)

namespace Drains

variable {θ α : Type} [DecidableEq θ]

/-- What a step means for the drains. -/
inductive Kind where
  /-- A drain has found jobs. -/
  | found
  /-- A drain has returned. -/
  | returned
  | other
deriving DecidableEq, Repr

/-- One step of a thread. -/
inductive Move : Drains θ α → Kind → Drains θ α → Prop where
  | enqueue {q : TickQueue α} {l : Lock θ} {calls : List (DrainCall θ)} (job : α) :
      Move ⟨q, l, calls⟩ .other ⟨(q.enqueue job).2, l, calls⟩
  | call {q : TickQueue α} {l : Lock θ} {calls : List (DrainCall θ)} (thread : θ) :
      Move ⟨q, l, calls⟩ .other ⟨q, l, calls ++ [⟨thread, .entered⟩]⟩
  | find {q : TickQueue α} {l : Lock θ} {before after : List (DrainCall θ)} {c : DrainCall θ}
      (looks : c.looks = true) (some : q.jobs.isEmpty = false) :
      Move ⟨q, l, before ++ c :: after⟩ .found ⟨q.look, l, before ++ c.goTo .asking :: after⟩
  /-- A drain finds no job and returns. -/
  | finish {q : TickQueue α} {l : Lock θ} {before after : List (DrainCall θ)} {c : DrainCall θ}
      (looks : c.looks = true) (none : q.jobs.isEmpty = true) :
      Move ⟨q, l, before ++ c :: after⟩ .returned ⟨q.look, l, before ++ after⟩
  | grant {q : TickQueue α} {l l' : Lock θ} {before after : List (DrainCall θ)} {c : DrainCall θ}
      (asks : c.stage = .asking) (granted : l.acquire c.thread = (.granted, l')) :
      Move ⟨q, l, before ++ c :: after⟩ .other ⟨q, l', before ++ c.goTo .holding :: after⟩
  /-- A drain of a thread that holds the lock already is refused. -/
  | refuse {q : TickQueue α} {l l' : Lock θ} {before after : List (DrainCall θ)} {c : DrainCall θ}
      (asks : c.stage = .asking) (refused : l.acquire c.thread = (.reentrant, l')) :
      Move ⟨q, l, before ++ c :: after⟩ .returned ⟨q.giveUp, l, before ++ after⟩
  | take {q : TickQueue α} {l : Lock θ} {before after : List (DrainCall θ)} {c : DrainCall θ}
      (holds : c.stage = .holding) :
      Move ⟨q, l, before ++ c :: after⟩ .other ⟨q.take.2, l, before ++ c.goTo .running :: after⟩
  | release {q : TickQueue α} {l : Lock θ} {before after : List (DrainCall θ)} {c : DrainCall θ}
      (runs : c.stage = .running) :
      Move ⟨q, l, before ++ c :: after⟩ .other ⟨q, l.release, before ++ c.goTo .between :: after⟩
  /-- A thread takes the lock for something else. -/
  | lock {q : TickQueue α} {l l' : Lock θ} {calls : List (DrainCall θ)} {thread : θ}
      (granted : l.acquire thread = (.granted, l')) : Move ⟨q, l, calls⟩ .other ⟨q, l', calls⟩
  /-- It releases the lock. -/
  | unlock {q : TickQueue α} {l : Lock θ} {calls : List (DrainCall θ)} :
      Move ⟨q, l, calls⟩ .other ⟨q, l.release, calls⟩

/-- Any number of steps. -/
def Moves : Drains θ α → Drains θ α → Prop := Relation.ReflTransGen fun d e => ∃ kind, Move d kind e

/-- Whether a drain is at work. -/
def isActive (d : Drains θ α) : Bool := d.calls.any (·.isActive)

/-- Whether a drain has returned beside one that is at work, and none has found jobs since, behind a
step that leads to a state. -/
def crossing (crossed : Bool) (d : Drains θ α) : Kind → Bool
  | .found => false
  | .returned => d.isActive
  | .other => crossed

/-- Where an interleaving leads that starts with an empty queue and without drains, and whether a
drain has returned beside one that is at work and none has found jobs since. -/
inductive Reached : Bool → Drains θ α → Prop where
  | start (l : Lock θ) : Reached false ⟨.empty, l, []⟩
  | moved {crossed : Bool} {d e : Drains θ α} {kind : Kind} (r : Reached crossed d)
      (m : Move d kind e) : Reached (e.crossing crossed kind) e

variable {d e : Drains θ α} {crossed : Bool}

omit [DecidableEq θ] in
/-- A drain that is at work stays at work on its way. -/
theorem isActive_goTo {q q' : TickQueue α} {l l' : Lock θ} {before after : List (DrainCall θ)}
    {c : DrainCall θ} {stage : DrainStage} (active : c.stage ≠ .entered) (on : stage ≠ .entered) :
    (⟨q', l', before ++ c.goTo stage :: after⟩ : Drains θ α).isActive =
      (⟨q, l, before ++ c :: after⟩ : Drains θ α).isActive := by
  simp [isActive, DrainCall.isActive, DrainCall.goTo, active, on]

/-- A drain that finds jobs is at work and puts the flag up. -/
theorem Move.found (m : Move d .found e) : e.isActive = true ∧ e.queue.draining = true := by
  cases m with
  | find looks some =>
    refine ⟨?_, by simp [TickQueue.look, some]⟩
    simp [isActive, DrainCall.isActive, DrainCall.goTo]

/-- A drain that returns takes the flag down and leaves the jobs as they are. -/
theorem Move.returned (m : Move d .returned e) : e.queue = { d.queue with draining := false } := by
  cases m with
  | finish looks none => simp [TickQueue.look, none]
  | refuse asks refused => rfl

/-- No other step changes the flag, or who is at work. -/
theorem Move.other (m : Move d .other e) :
    e.isActive = d.isActive ∧ e.queue.draining = d.queue.draining := by
  cases m with
  | enqueue job => exact ⟨rfl, rfl⟩
  | call thread => exact ⟨by simp [isActive, DrainCall.isActive], rfl⟩
  | grant asks granted => exact ⟨isActive_goTo (by simp [asks]) (by simp), rfl⟩
  | take holds => exact ⟨isActive_goTo (by simp [holds]) (by simp), rfl⟩
  | release runs => exact ⟨isActive_goTo (by simp [runs]) (by simp), rfl⟩
  | lock granted => exact ⟨rfl, rfl⟩
  | unlock => exact ⟨rfl, rfl⟩

/-- The flag is up while a drain is at work, unless another one has returned beside it and no jobs
have been found since. -/
theorem Reached.draining_eq (r : Reached crossed d) :
    d.queue.draining = (d.isActive && !crossed) := by
  induction r with
  | start l => rfl
  | @moved crossed d e kind _ m ih =>
    cases kind with
    | found =>
      obtain ⟨active, up⟩ := m.found
      simp [crossing, active, up]
    | returned => simp [crossing, m.returned]
    | other =>
      obtain ⟨active, same⟩ := m.other
      rw [crossing, active, same]
      exact ih

/-! ## Any number of steps -/

theorem Move.moves {kind : Kind} (m : Move d kind e) : Moves d e := .single ⟨kind, m⟩

theorem Reached.moves (r : Reached crossed d) (m : Moves d e) : ∃ crossed', Reached crossed' e := by
  induction m with
  | refl => exact ⟨crossed, r⟩
  | tail _ m ih =>
    obtain ⟨crossed', r⟩ := ih
    obtain ⟨kind, m⟩ := m
    exact ⟨_, r.moved m⟩

end Drains

namespace TickTrial

open Drains (Move Moves)

/-- What the drains are about on a bench, with the calls that are under way. -/
def Bench.drains (b : Bench) (calls : List (DrainCall Nat)) : Drains Nat Job :=
  ⟨b.queue, b.lock, calls⟩

/-- Steps lead from one bench to another. Calls that are under way stay so, and those that get stuck
join them. -/
def Threaded (b b' : Bench) : Prop :=
  ∀ calls, ∃ more, Moves (b.drains calls) (b'.drains (calls ++ more))

namespace Threaded

variable {b b' b'' : Bench}

theorem of_same (queue : b'.queue = b.queue) (lock : b'.lock = b.lock) : Threaded b b' := by
  intro calls
  refine ⟨[], ?_⟩
  rw [Bench.drains, Bench.drains, queue, lock, List.append_nil]
  exact .refl

theorem refl (b : Bench) : Threaded b b := of_same rfl rfl

theorem trans (m : Threaded b b') (n : Threaded b' b'') : Threaded b b'' := by
  intro calls
  obtain ⟨more, m⟩ := m calls
  obtain ⟨more', n⟩ := n (calls ++ more)
  rw [List.append_assoc] at n
  exact ⟨more ++ more', m.trans n⟩

theorem one (h : ∀ calls, Move (b.drains calls) .other (b'.drains calls)) : Threaded b b' := by
  intro calls
  refine ⟨[], ?_⟩
  rw [List.append_nil]
  exact (h calls).moves

end Threaded

section
variable {drain : Nat → Bench → Reply × Bench}

mutual

theorem performWith_threaded (h : ∀ thread b, Threaded b (drain thread b).2) (thread : Nat) :
    (s : Step) → (b : Bench) → Threaded b (performWith drain thread s b).2
  | .enqueue tag actions, b => .one fun _ => .enqueue (Job.mk tag actions)
  | .drain, b => h thread b
  | .held, b => .refl b
  | .draining, b => .refl b
  | .length, b => .refl b
  | .panic, b => .refl b
  | .acquire body, b => by
    unfold performWith
    split
    · next lock granted =>
      have taken : Threaded b { b with lock } := .one fun _ => .lock granted
      have inner := taken.trans (reportsWith_threaded h thread body { b with lock })
      split <;> next heq =>
        rw [heq] at inner
        exact inner.trans (.one fun _ => .unlock)
    · exact .refl b
    · exact .refl b
  | .thread body, b => by
    have inner := reportsWith_threaded h (thread + 1) body b
    unfold performWith
    split <;> next heq => rw [heq] at inner; exact inner

theorem reportsWith_threaded (h : ∀ thread b, Threaded b (drain thread b).2) (thread : Nat) :
    (body : List Step) → (b : Bench) → Threaded b (reportsWith drain thread body b).2
  | [], b => .refl b
  | s :: rest, b => by
    have first := performWith_threaded h thread s b
    unfold reportsWith
    split
    · next heq => rw [heq] at first; exact first
    · next reply b' heq =>
      rw [heq] at first
      have reported : Threaded b' (b'.report thread reply).2 := .of_same rfl rfl
      have others := reported.trans (reportsWith_threaded h thread rest _)
      dsimp only
      split <;> next heq => rw [heq] at others; exact first.trans others

end

theorem playWith_threaded (h : ∀ thread b, Threaded b (drain thread b).2) (thread : Nat)
    (actions : List Step) (b : Bench) : Threaded b (playWith drain thread actions b) := by
  induction actions generalizing b with
  | nil => exact .refl b
  | cons s rest ih =>
    have first := performWith_threaded h thread s b
    unfold playWith
    split
    · next heq => rw [heq] at first; exact first
    · next reply b' heq =>
      rw [heq] at first
      have noted : Threaded b' (b'.note (.did s.name reply)) := .of_same rfl rfl
      exact (first.trans noted).trans (ih _)

theorem runJobs_threaded (h : ∀ thread b, Threaded b (drain thread b).2) (thread : Nat)
    (jobs : List Job) (b : Bench) : Threaded b (jobs.foldl (runJobWith drain thread) b) := by
  induction jobs generalizing b with
  | nil => exact .refl b
  | cons job rest ih =>
    have noted : Threaded b (b.note (.job job.tag)) := .of_same rfl rfl
    have ran : Threaded b (runJobWith drain thread b job) :=
      noted.trans (playWith_threaded h thread job.actions _)
    exact ran.trans (ih _)

end

/-- A drain goes on by steps from where its call stands, whichever calls there are around it. -/
theorem drainFrom_moves (bound executed : Nat) (b : Bench) {before after : List (DrainCall Nat)}
    {c : DrainCall Nat} (looks : c.looks = true) :
    ∃ more, Moves (b.drains (before ++ c :: after))
      ((drainFrom bound executed c.thread b).2.drains (before ++ more)) := by
  induction bound generalizing executed b before after c with
  | zero => exact ⟨c :: after, .refl⟩
  | succ bound ih =>
    have nested : ∀ thread b, Threaded b (drainFrom bound 0 thread b).2 := by
      intro thread b calls
      obtain ⟨more, inner⟩ := @ih 0 b calls [] ⟨thread, .entered⟩ rfl
      have called : Move (b.drains calls) .other (b.drains (calls ++ [⟨thread, .entered⟩])) :=
        .call thread
      exact ⟨more, called.moves.trans inner⟩
    unfold drainFrom
    dsimp only
    split
    · next none =>
      have finished : Move ⟨b.queue, b.lock, before ++ c :: after⟩ .returned
          ⟨b.queue.look, b.lock, before ++ after⟩ := .finish looks none
      exact ⟨after, finished.moves⟩
    next some =>
    have found : Move ⟨b.queue, b.lock, before ++ c :: after⟩ .found
        ⟨b.queue.look, b.lock, before ++ c.goTo .asking :: after⟩ :=
      .find looks (by simpa [TickQueue.look] using some)
    split
    · next lock granted =>
      have granted : Move ⟨b.queue.look, b.lock, before ++ c.goTo .asking :: after⟩ .other
          ⟨b.queue.look, lock, before ++ c.goTo .holding :: after⟩ := .grant rfl granted
      have taken : Move ⟨b.queue.look, lock, before ++ c.goTo .holding :: after⟩ .other
          ⟨b.queue.look.take.2, lock, before ++ c.goTo .running :: after⟩ := .take rfl
      obtain ⟨more, ran⟩ := runJobs_threaded nested c.thread b.queue.look.take.1
        { b with lock, queue := b.queue.look.take.2 } (before ++ c.goTo .running :: after)
      rw [List.append_assoc, List.cons_append] at ran
      generalize b.queue.look.take.1.foldl _ _ = b' at ran ⊢
      have released : Move ⟨b'.queue, b'.lock, before ++ c.goTo .running :: (after ++ more)⟩ .other
          ⟨b'.queue, b'.lock.release, before ++ c.goTo .between :: (after ++ more)⟩ := .release rfl
      obtain ⟨more', rest⟩ := @ih (executed + b.queue.look.take.1.length) b'.unlock before
        (after ++ more) (c.goTo .between) rfl
      refine ⟨more', found.moves.trans ?_⟩
      exact (((granted.moves.trans taken.moves).trans ran).trans released.moves).trans rest
    · next refused =>
      have refused : Move ⟨b.queue.look, b.lock, before ++ c.goTo .asking :: after⟩ .returned
          ⟨b.queue.look.giveUp, b.lock, before ++ after⟩ := .refuse rfl refused
      exact ⟨after, found.moves.trans refused.moves⟩
    · exact ⟨c.goTo .asking :: after, found.moves⟩

/-- What a thread does in a trial is an interleaving of steps. -/
theorem perform_threaded (bound thread : Nat) (s : Step) (b : Bench) :
    Threaded b (perform bound thread s b).2 := by
  refine performWith_threaded (fun thread b calls => ?_) thread s b
  obtain ⟨more, inner⟩ := @drainFrom_moves bound 0 b calls [] ⟨thread, .entered⟩ rfl
  have called : Move (b.drains calls) .other (b.drains (calls ++ [⟨thread, .entered⟩])) :=
    .call thread
  exact ⟨more, called.moves.trans inner⟩

end TickTrial

namespace Drains

variable {crossed : Bool}

/-- Any number of steps by which no drain returns. -/
def Undisturbed {θ α : Type} [DecidableEq θ] : Drains θ α → Drains θ α → Prop :=
  Relation.ReflTransGen fun d e => ∃ kind, kind ≠ .returned ∧ Move d kind e

/-- As long as no drain returns, one that has found jobs keeps the flag up. -/
theorem Reached.undisturbed {θ α : Type} [DecidableEq θ] {d e : Drains θ α} (r : Reached false d)
    (active : d.isActive = true) (u : Undisturbed d e) : Reached false e ∧ e.isActive = true := by
  induction u with
  | refl => exact ⟨r, active⟩
  | @tail e f _ m ih =>
    obtain ⟨r, active⟩ := ih
    obtain ⟨kind, still, m⟩ := m
    cases kind with
    | found => exact ⟨r.moved m, m.found.1⟩
    | returned => exact absurd rfl still
    | other => exact ⟨r.moved m, m.other.1.trans active⟩

/-- In every interleaving, the flag is up exactly while a drain is at work, unless another one has
returned beside it and no jobs have been found since; and an enqueue starts a drain exactly if no
job waits and the flag is down. So from when a drain finds jobs, every enqueue starts none as long
as no drain returns. But each one that returns takes the flag down, though it leaves the jobs as
they are. Whatever a thread does in a trial leads on to such a state. -/
theorem Reached.wakes {d : Drains Nat TickTrial.Job} (r : Reached crossed d) :
    (d.queue.draining = (d.isActive && !crossed) ∧
      ∀ job, (d.queue.enqueue job).1 = (d.queue.jobs.isEmpty && !(d.isActive && !crossed))) ∧
    (∀ e f, Move d .found e → Undisturbed e f →
      f.queue.draining = true ∧ ∀ job, (f.queue.enqueue job).1 = false) ∧
    (∀ e, Move d .returned e → e.queue = { d.queue with draining := false }) ∧
    (∀ bound thread step log, ∃ crossed' more, Reached crossed'
      ((TickTrial.perform bound thread step ⟨d.queue, d.lock, log⟩).2.drains
        (d.calls ++ more))) := by
  have answer : ∀ {crossed} {d : Drains Nat TickTrial.Job}, Reached crossed d → ∀ job,
      (d.queue.enqueue job).1 = (d.queue.jobs.isEmpty && !(d.isActive && !crossed)) := by
    intro crossed d r job
    rw [TickQueue.enqueue, TickQueue.isIdle, r.draining_eq]
  refine ⟨⟨r.draining_eq, answer r⟩, fun e f found u => ?_, fun e m => m.returned, ?_⟩
  · obtain ⟨r, active⟩ := (r.moved found).undisturbed found.found.1 u
    refine ⟨by simp [r.draining_eq, active], fun job => ?_⟩
    simp [answer r, active]
  · intro bound thread step log
    obtain ⟨more, moves⟩ :=
      TickTrial.perform_threaded bound thread step ⟨d.queue, d.lock, log⟩ d.calls
    obtain ⟨crossed', r⟩ := r.moves moves
    exact ⟨crossed', more, r⟩

/-- While a thread runs a job, a drain of another one finds no job and returns. The flag is down
then, and an enqueue inside the job starts another drain. A trial of this ends the same way. -/
theorem wakes_beside_another :
    (∃ d : Drains Nat TickTrial.Job, Reached true d ∧ d.isActive = true ∧
      d.queue.draining = false ∧ ∀ job, (d.queue.enqueue job).1 = true) ∧
    TickTrial.run [.enqueue (.text "a") [.thread [.drain], .enqueue (.text "b") []], .drain] =
      [.mk (.flag true) [] 1 false false,
       .mk (.drained 2)
        [.did "thread" (.joined [.mk (.drained 0) [.job (.text "a")] 0 false false]),
         .did "enqueue" (.flag true), .job (.text "b")]
        0 false false] := by
  have enqueued : Reached false
      (⟨⟨[⟨.null, []⟩], false⟩, .free, []⟩ : Drains Nat TickTrial.Job) :=
    (Reached.start .free).moved (.enqueue (TickTrial.Job.mk .null []))
  have called := enqueued.moved (.call 0)
  have found := called.moved (@Move.find _ _ _ _ _ [] [] ⟨0, .entered⟩ rfl rfl)
  have granted := found.moved (@Move.grant _ _ _ _ _ _ [] [] ⟨0, .asking⟩ rfl rfl)
  have taken := granted.moved (@Move.take _ _ _ _ _ [] [] ⟨0, .holding⟩ rfl)
  have beside := taken.moved (.call 1)
  have returned := beside.moved
    (@Move.finish _ _ _ _ _ [⟨0, .running⟩] [] ⟨1, .entered⟩ rfl rfl)
  obtain ⟨⟨flag, answer⟩, -⟩ := returned.wakes
  exact ⟨⟨_, returned, rfl, flag, answer⟩, rfl⟩

end Drains
end ScriptHost
