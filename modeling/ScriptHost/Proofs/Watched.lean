import ScriptHost.Ticks.Trial

/-!
# Trials seen from within

The execution lock consists of two variables, the mutex around the engine and the record of the
thread that holds it, which are set and cleared one after the other. A watched trial keeps both,
with the guards that are outstanding and the jobs that are under way, and writes down what there is
to see before every step, at every job, and whenever the lock is being taken or released.

## Main definitions

* `TickTrial.Latch` — the lock as a mutex and a record.
* `TickTrial.Sight` — what there is to see at one point of a trial.
* `TickTrial.Watch` — a bench that is watched; `watchStep`, `watchDrainFrom`, `watchRun` — what is
  done on it.
* `TickTrial.Sight.Apt` — the record and the guards agree.
* `TickTrial.Sight.Guarded` — what this means for the threads that ask for the lock.

## Main statements

* `TickTrial.watchStep_mirrors`, `TickTrial.watchDrainFrom_mirrors` — watching changes nothing, and
  everything seen is apt.
* `TickTrial.watchRun_mirrors` — the same for whole trials.
* `TickTrial.perform_lock` — every step leaves the lock as it has found it.

## Design notes

A watched drain takes as many waiting jobs at a time as it is told; a drain takes all of them. A
body that panics leaves the mutex poisoned, which nobody minds: whoever asks for it takes it as it
is.
-/

namespace ScriptHost
namespace TickTrial

/-! ## The lock -/

/-- The lock as two variables: the mutex, which may be poisoned, and the record of the holder. -/
structure Latch where
  taken : Bool
  poisoned : Bool
  holder : Option Nat
deriving DecidableEq, Repr, Inhabited

namespace Latch

/-- The mutex is taken. -/
def seize (l : Latch) : Latch := { l with taken := true }

/-- A thread puts itself down as the holder. -/
def sign (l : Latch) (thread : Nat) : Latch := { l with holder := some thread }

/-- The record is cleared. -/
def strike (l : Latch) : Latch := { l with holder := none }

/-- The mutex is released; a panic on the way poisons it. -/
def yield (l : Latch) (panics : Bool) : Latch :=
  { l with taken := false, poisoned := l.poisoned || panics }

/-- A thread asks for the lock: it looks at the record before it waits for the mutex. -/
def acquire (l : Latch) (thread : Nat) : Grant × Latch :=
  if l.holder = some thread then (.reentrant, l)
  else if l.taken then (.awaited, l)
  else (.granted, l.seize.sign thread)

end Latch

/-! ## What there is to see -/

/-- What a thread is about to do when something is seen. -/
inductive Occasion where
  | step (s : Step)
  | job (j : Job)
  /-- It has taken the mutex and is about to put itself down. -/
  | signing
  /-- It has cleared the record and is about to release the mutex. -/
  | leaving
  /-- It has released the mutex. -/
  | left (panicked : Bool)

/-- What there is to see at one point of a trial. -/
structure Sight where
  thread : Nat
  occasion : Occasion
  queue : TickQueue Job
  latch : Latch
  /-- The threads of the guards that are outstanding, the latest first. -/
  guards : List Nat
  /-- The threads that run a job, the latest first. -/
  running : List Nat

/-- A bench that is watched. -/
structure Watch where
  queue : TickQueue Job
  latch : Latch
  guards : List Nat
  running : List Nat
  log : List Entry
  /-- What has been seen, the earliest first. -/
  seen : List Sight

namespace Watch

/-- The bench that is watched. -/
def bench (w : Watch) : Bench := ⟨w.queue, ⟨w.latch.holder⟩, w.log⟩

/-- Writes down what there is to see. -/
def see (w : Watch) (thread : Nat) (occasion : Occasion) : Watch :=
  { w with seen := w.seen ++ [⟨thread, occasion, w.queue, w.latch, w.guards, w.running⟩] }

/-- A thread takes the lock. -/
def enter (w : Watch) (thread : Nat) : Watch :=
  let w := { w with latch := w.latch.seize }.see thread .signing
  { w with latch := w.latch.sign thread, guards := thread :: w.guards }

/-- A guard is dropped, by a panic or otherwise. -/
def exit (w : Watch) (thread : Nat) (panics : Bool) : Watch :=
  let w := { w with latch := w.latch.strike, guards := w.guards.erase thread }.see thread .leaving
  { w with latch := w.latch.yield panics }.see thread (.left panics)

/-- Adds an entry to the log. -/
def note (w : Watch) (e : Entry) : Watch := { w with log := w.log ++ [e] }

/-- Reports a reply to a thread. -/
def report (w : Watch) (thread : Nat) (reply : Reply) : Report × Watch :=
  ((w.bench.report thread reply).1, { w with log := [] })

end Watch

/-! ## Watched trials -/

section
-- how a drain is done by a thread
variable (drain : Nat → Watch → Reply × Watch)

mutual

/-- One step of a thread; nothing is returned if it panics. -/
def watchStep (thread : Nat) : Step → Watch → Option Reply × Watch
  | .enqueue tag actions, w =>
    let (wake, queue) := w.queue.enqueue ⟨tag, actions⟩
    (some (.flag wake), { w with queue })
  | .drain, w =>
    let (reply, w) := drain thread w
    (some reply, w)
  | .held, w => (some (.flag (w.bench.lock.isHeldBy thread)), w)
  | .draining, w => (some (.flag w.queue.draining), w)
  | .length, w => (some (.count w.queue.jobs.length), w)
  | .panic, w => (none, w)
  | .acquire body, w =>
    match (w.latch.acquire thread).1 with
    | .granted =>
      match watchBody thread body (w.enter thread) with
      | (some reports, w) => (some (.guarded reports), w.exit thread false)
      | (none, w) => (some .panicked, w.exit thread true)
    | .reentrant => (some (.refused .reentrant), w)
    | .awaited => (some .stuck, w)
  | .thread body, w =>
    match watchBody (thread + 1) body w with
    | (some reports, w) => (some (.joined reports), w)
    | (none, w) => (some .panicked, w)

/-- The steps of a body, each seen before it is done. -/
def watchBody (thread : Nat) : List Step → Watch → Option (List Report) × Watch
  | [], w => (some [], w)
  | s :: rest, w =>
    match watchStep thread s (w.see thread (.step s)) with
    | (none, w) => (none, w)
    | (some reply, w) =>
      let (report, w) := w.report thread reply
      match watchBody thread rest w with
      | (none, w) => (none, w)
      | (some reports, w) => (some (report :: reports), w)

end

/-- The actions of a job, each seen before it is done; a panic ends them. -/
def watchPlay (thread : Nat) : List Step → Watch → Watch
  | [], w => w
  | s :: rest, w =>
    match watchStep drain thread s (w.see thread (.step s)) with
    | (none, w) => w
    | (some reply, w) => watchPlay thread rest (w.note (.did s.name reply))

/-- One job, seen when it begins. -/
def watchJob (thread : Nat) (w : Watch) (job : Job) : Watch :=
  let begun := { w with running := thread :: w.running }.see thread (.job job)
  let after := watchPlay drain thread job.actions (begun.note (.job job.tag))
  { after with running := after.running.tail }

end

/-- A drain by a thread within a bound on its rounds, with the number of jobs run before, that takes
so many of the waiting jobs at a time. -/
def watchDrainFrom (share : Nat → Nat) : Nat → Nat → Nat → Watch → Reply × Watch
  | 0, _, _, w => (.stuck, w)
  | bound + 1, executed, thread, w =>
    let w := { w with queue := w.queue.look }
    if w.queue.jobs.isEmpty then (.drained executed, w)
    else
      match (w.latch.acquire thread).1 with
      | .granted =>
        let batch := w.queue.jobs.take (share w.queue.jobs.length)
        let rest := w.queue.jobs.drop (share w.queue.jobs.length)
        let entered := { w.enter thread with queue := { w.queue with jobs := rest } }
        let after := batch.foldl (watchJob (watchDrainFrom share bound 0) thread) entered
        watchDrainFrom share bound (executed + batch.length) thread (after.exit thread false)
      | .reentrant => (.refused .reentrant, { w with queue := w.queue.giveUp })
      | .awaited => (.stuck, w)

/-- A drain by a thread that takes all waiting jobs at a time. -/
def watchDrain (bound thread : Nat) (w : Watch) : Reply × Watch :=
  watchDrainFrom id bound 0 thread w

/-- Steps from a given bench, with a report for each; a step that panics ends the run. -/
def watchRun (bound : Nat) : List Step → Watch → List Report × Watch
  | [], w => ([], w)
  | s :: rest, w =>
    match watchStep (watchDrain bound) 0 s (w.see 0 (.step s)) with
    | (none, w) => ([], w)
    | (some reply, w) =>
      let (report, w) := w.report 0 reply
      let (reports, w) := watchRun bound rest w
      (report :: reports, w)

/-! ## Apt sights -/

/-- The record names the thread of the one outstanding guard, the mutex is taken exactly if there is
one, and jobs run under it. -/
structure Steady (latch : Latch) (guards running : List Nat) : Prop where
  holder : latch.holder = guards.head?
  one : guards.length ≤ 1
  taken : latch.taken = !guards.isEmpty
  running : ∀ thread ∈ running, guards = [thread]

/-- There is no guard and no record, and the mutex is taken. -/
structure Passing (latch : Latch) (guards running : List Nat) : Prop where
  holder : latch.holder = none
  none : guards = []
  taken : latch.taken = true
  idle : running = []

/-- What is seen is apt for the occasion. -/
def Sight.Apt (s : Sight) : Prop :=
  match s.occasion with
  | .step _ => Steady s.latch s.guards s.running
  | .job _ => Steady s.latch s.guards s.running ∧ s.thread ∈ s.running
  | .signing | .leaving => Passing s.latch s.guards s.running
  | .left _ => Steady s.latch s.guards s.running ∧ s.guards = []

/-- The lock and the guards agree, as they did whenever something was seen. -/
structure Watch.Sound (w : Watch) : Prop where
  steady : Steady w.latch w.guards w.running
  apt : ∀ s ∈ w.seen, s.Apt

namespace Steady

variable {latch : Latch} {guards running : List Nat}

/-- With no guard outstanding nothing runs. -/
theorem idle (h : Steady latch guards running) (none : guards = []) : running = [] := by
  cases running with
  | nil => rfl
  | cons thread rest =>
    have one := h.running thread (List.mem_cons_self ..)
    rw [none] at one
    cases one

/-- A thread finds no guard, its own guard, or the guard of another one. -/
theorem guard_cases (h : Steady latch guards running) (thread : Nat) :
    guards = [] ∨ guards = [thread] ∨ ∃ other, other ≠ thread ∧ guards = [other] := by
  cases guards with
  | nil => exact .inl rfl
  | cons guard rest =>
    have single : rest = [] := by
      have one := h.one
      rw [List.length_cons] at one
      exact List.eq_nil_of_length_eq_zero (by omega)
    rw [single]
    by_cases same : guard = thread
    · exact .inr (.inl (by rw [same]))
    · exact .inr (.inr ⟨guard, same, rfl⟩)

/-- With no guard outstanding any thread is granted the lock, poisoned or not. -/
theorem acquire_free (h : Steady latch guards running) (none : guards = []) (thread : Nat) :
    latch.acquire thread = (.granted, ⟨true, latch.poisoned, some thread⟩) ∧
      (⟨latch.holder⟩ : Lock Nat).acquire thread = (.granted, ⟨some thread⟩) := by
  have holder := h.holder
  have taken := h.taken
  rw [none] at holder taken
  have holder : latch.holder = Option.none := holder
  have taken : latch.taken = false := taken
  constructor
  · rw [Latch.acquire, holder, taken]
    rfl
  · rw [holder]
    rfl

/-- The thread of the guard is refused, and nothing changes. -/
theorem acquire_own {thread : Nat} (h : Steady latch guards running) (own : guards = [thread]) :
    latch.acquire thread = (.reentrant, latch) ∧
      (⟨latch.holder⟩ : Lock Nat).acquire thread = (.reentrant, ⟨some thread⟩) := by
  have holder := h.holder
  rw [own] at holder
  have holder : latch.holder = some thread := holder
  constructor
  · rw [Latch.acquire, if_pos holder]
  · rw [holder, Lock.acquire]
    exact if_pos rfl

/-- Any other thread waits for the guard. -/
theorem acquire_other {thread other : Nat} (h : Steady latch guards running)
    (apart : other ≠ thread) (another : guards = [other]) :
    latch.acquire thread = (.awaited, latch) ∧
      (⟨latch.holder⟩ : Lock Nat).acquire thread = (.awaited, ⟨some other⟩) := by
  have holder := h.holder
  have taken := h.taken
  rw [another] at holder taken
  have holder : latch.holder = some other := holder
  have taken : latch.taken = true := taken
  constructor
  · rw [Latch.acquire, holder, if_neg fun eq => apart (Option.some.inj eq), if_pos taken]
  · rw [holder, Lock.acquire]
    exact if_neg apart

end Steady

namespace Watch

variable {w : Watch} {thread : Nat}

theorem Sound.see (h : w.Sound) {occasion : Occasion}
    (apt : (⟨thread, occasion, w.queue, w.latch, w.guards, w.running⟩ : Sight).Apt) :
    (w.see thread occasion).Sound where
  steady := h.steady
  apt s mem := by
    cases List.mem_append.1 mem with
    | inl earlier => exact h.apt s earlier
    | inr last =>
      rw [List.mem_singleton.1 last]
      exact apt

/-- The queue and the log do not matter. -/
theorem Sound.other (h : w.Sound) (queue : TickQueue Job) (log : List Entry) :
    ({ w with queue, log } : Watch).Sound :=
  ⟨h.steady, h.apt⟩

/-- A thread that is granted the lock is the holder. -/
theorem Sound.enter (h : w.Sound) (none : w.guards = []) (thread : Nat) :
    (w.enter thread).Sound where
  steady := by
    have idle := h.steady.idle none
    refine ⟨rfl, ?_, rfl, ?_⟩
    · show (thread :: w.guards).length ≤ 1
      rw [none]
      exact Nat.le_refl 1
    · intro other mem
      change other ∈ w.running at mem
      rw [idle] at mem
      cases mem
  apt s mem := by
    cases List.mem_append.1 mem with
    | inl earlier => exact h.apt s earlier
    | inr last =>
      rw [List.mem_singleton.1 last]
      have holder := h.steady.holder
      rw [none] at holder
      exact ⟨holder, none, rfl, h.steady.idle none⟩

/-- When a guard is dropped the lock is free, by a panic or otherwise. -/
theorem Sound.exit (h : w.Sound) (one : w.guards = [thread]) (idle : w.running = [])
    (panics : Bool) : (w.exit thread panics).Sound := by
  have none : w.guards.erase thread = [] := by
    rw [one, List.erase_cons_head]
  have taken : w.latch.taken = true := by
    rw [h.steady.taken, one]
    rfl
  have after : Steady (w.latch.strike.yield panics) (w.guards.erase thread) w.running := by
    rw [none, idle]
    exact ⟨rfl, Nat.zero_le 1, rfl, fun _ mem => (List.not_mem_nil mem).elim⟩
  refine ⟨after, fun s mem => ?_⟩
  cases List.mem_append.1 mem with
  | inl earlier =>
    cases List.mem_append.1 earlier with
    | inl earlier => exact h.apt s earlier
    | inr leaving =>
      rw [List.mem_singleton.1 leaving]
      exact ⟨rfl, none, taken, idle⟩
  | inr left =>
    rw [List.mem_singleton.1 left]
    exact ⟨after, none⟩

end Watch

/-- A bench at which nothing has been seen yet, with the mutex as earlier panics have left it. -/
def Bench.watched (b : Bench) (poisoned : Bool) : Watch :=
  ⟨b.queue, ⟨b.lock.holder.isSome, poisoned, b.lock.holder⟩, b.lock.holder.toList, [], b.log, []⟩

theorem Bench.watched_sound (b : Bench) (poisoned : Bool) : (b.watched poisoned).Sound where
  steady := by
    obtain ⟨queue, ⟨holder⟩, log⟩ := b
    cases holder with
    | none => exact ⟨rfl, Nat.zero_le 1, rfl, fun _ mem => (List.not_mem_nil mem).elim⟩
    | some thread => exact ⟨rfl, Nat.le_refl 1, rfl, fun _ mem => (List.not_mem_nil mem).elim⟩
  apt _ mem := (List.not_mem_nil mem).elim

/-! ## Watching changes nothing -/

/-- What is done on a watched bench is done on the bench; afterwards the same guards are outstanding
and the same jobs under way, and everything seen is apt. -/
structure Mirrors {α : Type} (w : Watch) (watched : α × Watch) (done : α × Bench) : Prop where
  same : done = (watched.1, watched.2.bench)
  sound : watched.2.Sound
  guards : watched.2.guards = w.guards
  running : watched.2.running = w.running

section
variable {drain : Nat → Bench → Reply × Bench} {watch : Nat → Watch → Reply × Watch}

/-- A body under the lock mirrors what is done with the lock held, and the lock is free again. -/
theorem Mirrors.guarded {α : Type} {w : Watch} {thread : Nat} (h : w.Sound)
    (granted : w.guards = []) {watched : α × Watch} {done : α × Bench}
    (inner : Mirrors (w.enter thread) watched done) (panics : Bool) :
    (watched.2.exit thread panics).Sound ∧ (watched.2.exit thread panics).guards = w.guards ∧
      (watched.2.exit thread panics).running = w.running ∧
      (watched.2.exit thread panics).bench = done.2.unlock := by
  have one : watched.2.guards = [thread] := by
    rw [inner.guards]
    show thread :: w.guards = _
    rw [granted]
  have idle : watched.2.running = [] := inner.running.trans (h.steady.idle granted)
  refine ⟨inner.sound.exit one idle panics, ?_, inner.running, ?_⟩
  · show watched.2.guards.erase thread = _
    rw [one, granted, List.erase_cons_head]
  · rw [inner.same]
    rfl

mutual

theorem watchStep_mirrors
    (fits : ∀ thread w, w.Sound → Mirrors w (watch thread w) (drain thread w.bench))
    (thread : Nat) : (s : Step) → (w : Watch) → w.Sound →
      Mirrors w (watchStep watch thread s w) (performWith drain thread s w.bench)
  | .enqueue tag actions, w, h => ⟨rfl, h.other _ _, rfl, rfl⟩
  | .drain, w, h => by
    have drained := fits thread w h
    unfold watchStep performWith
    rw [drained.same]
    exact ⟨rfl, drained.sound, drained.guards, drained.running⟩
  | .held, w, h => ⟨rfl, h, rfl, rfl⟩
  | .draining, w, h => ⟨rfl, h, rfl, rfl⟩
  | .length, w, h => ⟨rfl, h, rfl, rfl⟩
  | .panic, w, h => ⟨rfl, h, rfl, rfl⟩
  | .acquire body, w, h => by
    have cases := h.steady.guard_cases thread
    unfold watchStep performWith
    obtain none | own | ⟨other, apart, another⟩ := cases
    · have free := h.steady.acquire_free none thread
      have inner := watchBody_mirrors fits thread body (w.enter thread) (h.enter none thread)
      have lock : w.bench.lock = ⟨w.latch.holder⟩ := rfl
      have entered : ({ w.bench with lock := ⟨some thread⟩ } : Bench) = (w.enter thread).bench :=
        rfl
      rw [free.1, lock, free.2]
      dsimp only
      rw [entered, inner.same]
      have quietly := inner.guarded h none false
      have loudly := inner.guarded h none true
      generalize watchBody watch thread body (w.enter thread) = watched at inner quietly loudly ⊢
      obtain ⟨reports | reports, after⟩ := watched
      · obtain ⟨sound, guards, running, bench⟩ := loudly
        exact ⟨by rw [bench, inner.same], sound, guards, running⟩
      · obtain ⟨sound, guards, running, bench⟩ := quietly
        exact ⟨by rw [bench, inner.same], sound, guards, running⟩
    · have refused := h.steady.acquire_own own
      have lock : w.bench.lock = ⟨w.latch.holder⟩ := rfl
      rw [refused.1, lock, refused.2]
      exact ⟨rfl, h, rfl, rfl⟩
    · have waits := h.steady.acquire_other apart another
      have lock : w.bench.lock = ⟨w.latch.holder⟩ := rfl
      rw [waits.1, lock, waits.2]
      exact ⟨rfl, h, rfl, rfl⟩
  | .thread body, w, h => by
    have inner := watchBody_mirrors fits (thread + 1) body w h
    unfold watchStep performWith
    rw [inner.same]
    generalize watchBody watch (thread + 1) body w = watched at inner ⊢
    obtain ⟨reports | reports, after⟩ := watched
    · exact ⟨rfl, inner.sound, inner.guards, inner.running⟩
    · exact ⟨rfl, inner.sound, inner.guards, inner.running⟩

theorem watchBody_mirrors
    (fits : ∀ thread w, w.Sound → Mirrors w (watch thread w) (drain thread w.bench))
    (thread : Nat) : (body : List Step) → (w : Watch) → w.Sound →
      Mirrors w (watchBody watch thread body w) (reportsWith drain thread body w.bench)
  | [], w, h => ⟨rfl, h, rfl, rfl⟩
  | s :: rest, w, h => by
    have seen : (w.see thread (.step s)).Sound := h.see (by exact h.steady)
    have first := watchStep_mirrors fits thread s _ seen
    unfold watchBody reportsWith
    rw [show w.bench = (w.see thread (.step s)).bench from rfl, first.same]
    generalize watchStep watch thread s (w.see thread (.step s)) = watched at first ⊢
    obtain ⟨reply | reply, after⟩ := watched
    · exact ⟨rfl, first.sound, first.guards, first.running⟩
    · have others := watchBody_mirrors fits thread rest (after.report thread reply).2
        (first.sound.other after.queue [])
      dsimp only
      rw [show (after.bench.report thread reply).2 = (after.report thread reply).2.bench from rfl,
        others.same]
      have guards := others.guards.trans first.guards
      have running := others.running.trans first.running
      have sound := others.sound
      generalize watchBody watch thread rest (after.report thread reply).2 = watched
        at guards running sound ⊢
      obtain ⟨reports | reports, last⟩ := watched
      · exact ⟨rfl, sound, guards, running⟩
      · exact ⟨rfl, sound, guards, running⟩

end

theorem watchPlay_mirrors
    (fits : ∀ thread w, w.Sound → Mirrors w (watch thread w) (drain thread w.bench))
    (thread : Nat) (actions : List Step) (w : Watch) (h : w.Sound) :
    Mirrors w ((), watchPlay watch thread actions w)
      ((), playWith drain thread actions w.bench) := by
  induction actions generalizing w with
  | nil => exact ⟨rfl, h, rfl, rfl⟩
  | cons s rest ih =>
    have seen : (w.see thread (.step s)).Sound := h.see (by exact h.steady)
    have first := watchStep_mirrors fits thread s _ seen
    unfold watchPlay playWith
    rw [show w.bench = (w.see thread (.step s)).bench from rfl, first.same]
    generalize watchStep watch thread s (w.see thread (.step s)) = watched at first ⊢
    obtain ⟨reply | reply, after⟩ := watched
    · exact ⟨rfl, first.sound, first.guards, first.running⟩
    · have others := ih (after.note (.did s.name reply)) (first.sound.other after.queue _)
      exact ⟨others.same, others.sound, others.guards.trans first.guards,
        others.running.trans first.running⟩

/-- A job runs while the draining thread is the holder. -/
theorem watchJob_mirrors
    (fits : ∀ thread w, w.Sound → Mirrors w (watch thread w) (drain thread w.bench))
    {thread : Nat} {w : Watch} (h : w.Sound) (own : w.guards = [thread]) (job : Job) :
    Mirrors w ((), watchJob watch thread w job) ((), runJobWith drain thread w.bench job) := by
  have under : Steady w.latch w.guards (thread :: w.running) := by
    refine ⟨h.steady.holder, h.steady.one, h.steady.taken, fun other mem => ?_⟩
    cases List.mem_cons.1 mem with
    | inl same => rw [same, own]
    | inr earlier => exact h.steady.running other earlier
  let begun : Watch := { w with running := thread :: w.running }
  have sound : begun.Sound := ⟨under, h.apt⟩
  have seen : (begun.see thread (.job job)).Sound :=
    sound.see (show Steady _ _ _ ∧ _ from ⟨under, List.mem_cons_self ..⟩)
  have played := watchPlay_mirrors fits thread job.actions _
    (seen.other w.queue (w.log ++ [.job job.tag]))
  have running : (watchJob watch thread w job).running = w.running :=
    congrArg List.tail played.running
  refine ⟨played.same, ⟨?_, played.sound.apt⟩, played.guards, running⟩
  show Steady (watchJob watch thread w job).latch _ _
  rw [running]
  have after := played.sound.steady
  refine ⟨after.holder, after.one, after.taken, fun other mem => ?_⟩
  have kept := after.running other
  rw [played.running] at kept
  exact kept (List.mem_cons_of_mem _ mem)

theorem watchJobs_mirrors
    (fits : ∀ thread w, w.Sound → Mirrors w (watch thread w) (drain thread w.bench))
    {thread : Nat} (jobs : List Job) {w : Watch} (h : w.Sound) (own : w.guards = [thread]) :
    Mirrors w ((), jobs.foldl (watchJob watch thread) w)
      ((), jobs.foldl (runJobWith drain thread) w.bench) := by
  induction jobs generalizing w with
  | nil => exact ⟨rfl, h, rfl, rfl⟩
  | cons job rest ih =>
    have first := watchJob_mirrors fits h own job
    have others := ih first.sound (first.guards.trans own)
    have bench : runJobWith drain thread w.bench job = (watchJob watch thread w job).bench :=
      congrArg Prod.snd first.same
    refine ⟨?_, others.sound, others.guards.trans first.guards, others.running.trans first.running⟩
    rw [List.foldl_cons, bench]
    exact others.same

end

/-- A watched drain that takes all waiting jobs at a time does what a drain does. -/
theorem watchDrainFrom_mirrors (bound executed thread : Nat) (w : Watch) (h : w.Sound) :
    Mirrors w (watchDrainFrom id bound executed thread w)
      (drainFrom bound executed thread w.bench) := by
  induction bound generalizing executed thread w with
  | zero => exact ⟨rfl, h, rfl, rfl⟩
  | succ bound ih =>
    have looked : ({ w with queue := w.queue.look } : Watch).Sound := h.other _ _
    have lock : w.bench.lock = ⟨w.latch.holder⟩ := rfl
    unfold watchDrainFrom drainFrom
    dsimp only
    by_cases empty : w.queue.look.jobs.isEmpty = true
    · rw [if_pos empty, if_pos (show w.bench.queue.look.jobs.isEmpty = true from empty)]
      exact ⟨rfl, looked, rfl, rfl⟩
    rw [if_neg empty, if_neg (show ¬ w.bench.queue.look.jobs.isEmpty = true from empty)]
    obtain none | own | ⟨other, apart, another⟩ := h.steady.guard_cases thread
    · have free := h.steady.acquire_free none thread
      rw [free.1, lock, free.2]
      dsimp only
      have jobs : w.queue.look.jobs = w.queue.jobs := rfl
      rw [id_eq, List.take_length, List.drop_length, jobs]
      have entered := (looked.enter none thread).other ⟨[], w.queue.look.draining⟩ w.log
      have ran := watchJobs_mirrors (fun thread w h => ih 0 thread w h) w.queue.jobs entered
        (show thread :: w.guards = [thread] by rw [none])
      obtain ⟨sound, guards, running, bench⟩ := Mirrors.guarded looked none
        (⟨ran.same, ran.sound, ran.guards, ran.running⟩ : Mirrors (Watch.enter _ thread) _ _) false
      have rest := ih (executed + w.queue.jobs.length) thread _ sound
      rw [bench] at rest
      exact ⟨rest.same, rest.sound, rest.guards.trans guards, rest.running.trans running⟩
    · have refused := h.steady.acquire_own own
      rw [refused.1, lock, refused.2]
      exact ⟨rfl, h.other _ _, rfl, rfl⟩
    · have waits := h.steady.acquire_other apart another
      rw [waits.1, lock, waits.2]
      exact ⟨rfl, looked, rfl, rfl⟩

theorem watchDrain_mirrors (bound thread : Nat) (w : Watch) (h : w.Sound) :
    Mirrors w (watchDrain bound thread w) (drain bound thread w.bench) :=
  watchDrainFrom_mirrors bound 0 thread w h

/-- A trial that is watched ends with the same reports, and everything seen is apt. -/
theorem watchRun_mirrors (bound : Nat) (steps : List Step) (w : Watch) (h : w.Sound) :
    (watchRun bound steps w).1 = runFrom bound steps w.bench ∧ (watchRun bound steps w).2.Sound ∧
      (watchRun bound steps w).2.guards = w.guards := by
  induction steps generalizing w with
  | nil => exact ⟨rfl, h, rfl⟩
  | cons s rest ih =>
    have seen : (w.see 0 (.step s)).Sound := h.see (by exact h.steady)
    have first := watchStep_mirrors (watchDrain_mirrors bound) 0 s _ seen
    unfold watchRun runFrom perform
    rw [show w.bench = (w.see 0 (.step s)).bench from rfl, first.same]
    generalize watchStep (watchDrain bound) 0 s (w.see 0 (.step s)) = watched at first ⊢
    obtain ⟨reply | reply, after⟩ := watched
    · exact ⟨rfl, first.sound, first.guards⟩
    · obtain ⟨reports, sound, guards⟩ := ih (after.report 0 reply).2
        (first.sound.other after.queue [])
      exact ⟨congrArg ((after.report 0 reply).1 :: ·) reports, sound, guards.trans first.guards⟩

/-! ## The lock follows its guards -/

/-- A bench as it is seen, with some log. -/
def Sight.bench (s : Sight) (log : List Entry) : Bench := ⟨s.queue, ⟨s.latch.holder⟩, log⟩

/-- What holds of the lock at one point of a trial. -/
structure Sight.Guarded (s : Sight) : Prop where
  /-- The record names the thread of the one outstanding guard, if there is one. -/
  holder : s.latch.holder = s.guards.head?
  one : s.guards.length ≤ 1
  /-- A thread is told that it holds the lock exactly if the guard is its own. -/
  told : ∀ bound thread log, perform bound thread .held (s.bench log) =
    (some (.flag (s.guards = [thread])), s.bench log)
  /-- The thread of the guard is refused the lock, and nothing changes. -/
  refused : ∀ thread, s.guards = [thread] → s.latch.acquire thread = (.reentrant, s.latch) ∧
    ∀ bound body log, perform bound thread (.acquire body) (s.bench log) =
      (some (.refused .reentrant), s.bench log)
  /-- A job runs while the draining thread is the holder. -/
  running : ∀ thread ∈ s.running, s.guards = [thread]
  job : ∀ j, s.occasion = .job j → s.thread ∈ s.running
  /-- Behind a body, however it has ended, any thread is granted the lock. -/
  released : ∀ panicked, s.occasion = .left panicked → s.guards = [] ∧ ∀ thread,
    s.latch.acquire thread = (.granted, ⟨true, s.latch.poisoned, some thread⟩)

/-- A thread holds the lock by the record exactly if the guard is its own. -/
theorem held_iff {latch : Latch} {guards : List Nat} (holder : latch.holder = guards.head?)
    (one : guards.length ≤ 1) (thread : Nat) :
    (⟨latch.holder⟩ : Lock Nat).isHeldBy thread = decide (guards = [thread]) := by
  rw [Lock.isHeldBy, holder]
  cases guards with
  | nil => rfl
  | cons guard rest =>
    have single : rest = [] := by
      rw [List.length_cons] at one
      exact List.eq_nil_of_length_eq_zero (by omega)
    rw [single]
    by_cases same : guard = thread
    · simp [same]
    · simp [same]

theorem Steady.refused {s : Sight} (h : Steady s.latch s.guards s.running) {thread : Nat}
    (own : s.guards = [thread]) : s.latch.acquire thread = (.reentrant, s.latch) ∧
      ∀ bound body log, perform bound thread (.acquire body) (s.bench log) =
        (some (.refused .reentrant), s.bench log) := by
  obtain ⟨latch, lock⟩ := h.acquire_own own
  refine ⟨latch, fun bound body log => ?_⟩
  unfold perform performWith
  rw [show (s.bench log).lock = ⟨s.latch.holder⟩ from rfl, lock]

theorem Steady.guarded {s : Sight} (h : Steady s.latch s.guards s.running)
    (job : ∀ j, s.occasion = .job j → s.thread ∈ s.running)
    (left : ∀ panicked, s.occasion = .left panicked → s.guards = []) : s.Guarded where
  holder := h.holder
  one := h.one
  told bound thread log := by
    show (some (Reply.flag ((⟨s.latch.holder⟩ : Lock Nat).isHeldBy thread)), _) = _
    rw [held_iff h.holder h.one]
  refused thread own := h.refused own
  running := h.running
  job := job
  released panicked occasion :=
    ⟨left panicked occasion, fun thread => (h.acquire_free (left panicked occasion) thread).1⟩

theorem Passing.guarded {s : Sight} (h : Passing s.latch s.guards s.running)
    (job : ∀ j, s.occasion ≠ .job j) (left : ∀ panicked, s.occasion ≠ .left panicked) :
    s.Guarded where
  holder := by rw [h.holder, h.none]; rfl
  one := by rw [h.none]; exact Nat.zero_le 1
  told bound thread log := by
    have holder : s.latch.holder = s.guards.head? := by rw [h.holder, h.none]; rfl
    show (some (Reply.flag ((⟨s.latch.holder⟩ : Lock Nat).isHeldBy thread)), _) = _
    rw [held_iff holder (by rw [h.none]; exact Nat.zero_le 1)]
  refused thread own := by
    rw [h.none] at own
    cases own
  running thread mem := by
    rw [h.idle] at mem
    cases mem
  job j occasion := absurd occasion (job j)
  released panicked occasion := absurd occasion (left panicked)

theorem Sight.Apt.guarded {s : Sight} (h : s.Apt) : s.Guarded := by
  obtain ⟨thread, occasion, queue, latch, guards, running⟩ := s
  cases occasion with
  | step step => exact Steady.guarded (by exact h) (fun _ eq => by cases eq) fun _ eq => by cases eq
  | job j => exact h.1.guarded (fun _ _ => h.2) fun _ eq => by cases eq
  | signing => exact Passing.guarded (by exact h) (fun _ eq => by cases eq) fun _ eq => by cases eq
  | leaving => exact Passing.guarded (by exact h) (fun _ eq => by cases eq) fun _ eq => by cases eq
  | left panicked => exact h.1.guarded (fun _ eq => by cases eq) fun _ _ => h.2

/-- Every step leaves the lock as it has found it, whatever it does meanwhile. -/
theorem perform_lock (bound thread : Nat) (s : Step) (b : Bench) :
    (perform bound thread s b).2.lock = b.lock := by
  have sound := b.watched_sound false
  have done := watchStep_mirrors (watchDrain_mirrors bound) thread s _ sound
  have bench : (b.watched false).bench = b := rfl
  rw [bench] at done
  unfold perform
  rw [done.same]
  have holder : (watchStep (watchDrain bound) thread s (b.watched false)).2.latch.holder =
      b.lock.holder := by
    rw [done.sound.steady.holder, done.guards]
    exact sound.steady.holder.symm
  show (⟨_⟩ : Lock Nat) = b.lock
  rw [holder]

end TickTrial
end ScriptHost
