import ScriptHost.Proofs.Stage

/-!
# What the loop does with code

The loop runs code with the execution lock held, runs next-tick jobs in batches, and tells
observers. A property that every deed keeps, and that does not look at the lock, comes through all
of this; if it does not look at the jobs either, it comes through drains.

## Main definitions

* `Message.isRoutine` — the messages that do nothing but run code.
* `Session.isKeptOut` — whether the loop has to wait for a thread that keeps the lock.
* `Session.engaged`, `Session.engagedResult` — where the loop goes on behind what needs the engine.
* `Session.Kept`, `Session.KeptByJobs`, `Session.KeptByDrains` — a property that the loop keeps
  outside drains, one that jobs keep on any thread, and one that is kept by both.

## Main statements

* `Session.withEngine_eq`, `Session.withEngineResult_eq` — the loop goes on there, or not at all.
* `Session.KeptByCode.engaged`, `Session.KeptByCode.routine` — what the loop does keeps it, too.
* `Session.KeptByJobs.drain`, `Session.KeptByJobs.runHelpers` — so do drains.
-/

namespace ScriptHost

/-- The messages that do nothing but run code. -/
def Message.isRoutine : Message → Bool
  | .ready | .drain | .emit .. | .register _ | .task _ | .script .. | .require .. => true
  | .sweep | .fire _ | .complete .. | .shutdown _ => false

namespace Session

variable {s t : Session}

/-! ## The engine -/

/-- Whether another thread keeps the lock, so that the loop has to wait for it. -/
def isKeptOut (s : Session) : Bool := s.lock.holder.any (· ≠ .loop)

/-- Where the loop goes on behind what needs the engine: without it, if it keeps the lock itself. -/
def engaged (f : Session → Session) (s : Session) : Session :=
  if s.lock = .free then (f { s with lock := ⟨some .loop⟩ }).unlock else s

/-- Where the loop goes on behind a script, and with which answer. -/
def engagedResult (what : String) (f : Session → Outcome EngineFailure Json.Value × Session)
    (s : Session) : Except Failure Json.Value × Session :=
  let lost : EngineFailure := .script ("'" ++ what ++ "' panicked")
  if s.lock = .free then
    let r := f { s with lock := ⟨some .loop⟩ }
    ((r.1.contain lost).mapError .engine, r.2.unlock)
  else (.error (.engine lost), s)

/-- A lock that somebody holds is not granted. -/
theorem acquire_cases (s : Session) :
    s.lock = .free ∧ s.isKeptOut = false ∧ s.lock.acquire .loop = (.granted, ⟨some .loop⟩) ∨
      s.lock ≠ .free ∧ s.isKeptOut = false ∧ s.lock.acquire .loop = (.reentrant, s.lock) ∨
      s.lock ≠ .free ∧ s.isKeptOut = true ∧ s.lock.acquire .loop = (.awaited, s.lock) := by
  unfold isKeptOut
  rcases s.lock with ⟨_ | holder⟩
  · exact .inl ⟨rfl, rfl, rfl⟩
  · cases holder with
    | loop => exact .inr (.inl ⟨nofun, rfl, rfl⟩)
    | host => exact .inr (.inr ⟨nofun, rfl, rfl⟩)
    | helper => exact .inr (.inr ⟨nofun, rfl, rfl⟩)

theorem engaged_free (free : s.lock = .free) (f : Session → Session) :
    s.engaged f = (f { s with lock := ⟨some .loop⟩ }).unlock := if_pos free

theorem engaged_held (held : s.lock ≠ .free) (f : Session → Session) : s.engaged f = s :=
  if_neg held

theorem engagedResult_held (held : s.lock ≠ .free) (what : String)
    (f : Session → Outcome EngineFailure Json.Value × Session) :
    (s.engagedResult what f).2 = s := by
  simp [engagedResult, held]

/-- The loop stands still if another thread keeps the lock, and goes on otherwise. -/
theorem withEngine_eq (f : Session → Session) (s : Session) :
    s.withEngine f = if s.isKeptOut then none else some (s.engaged f) := by
  unfold withEngine
  rcases acquire_cases s with ⟨free, out, h⟩ | ⟨held, out, h⟩ | ⟨-, out, h⟩ <;> rw [h, out]
  · rw [engaged_free free]
    rfl
  · rw [engaged_held held]
    rfl
  · rfl

theorem withEngine_free (free : s.lock = .free) (f : Session → Session) :
    s.withEngine f = some (f { s with lock := ⟨some .loop⟩ }).unlock := by
  simp only [withEngine, free, Lock.free, Lock.acquire]

theorem withEngineResult_eq (what : String)
    (f : Session → Outcome EngineFailure Json.Value × Session) (s : Session) :
    s.withEngineResult what f = if s.isKeptOut then none else some (s.engagedResult what f) := by
  unfold withEngineResult
  rcases acquire_cases s with ⟨free, out, h⟩ | ⟨held, out, h⟩ | ⟨-, out, h⟩ <;> rw [h, out]
  · simp [engagedResult, free]
  · simp [engagedResult, held]
  · rfl

theorem eq_engaged {f : Session → Session} (d : s.withEngine f = some t) : t = s.engaged f := by
  rw [withEngine_eq] at d
  split at d
  · cases d
  · exact (Option.some.inj d).symm

theorem eq_engagedResult {what : String}
    {f : Session → Outcome EngineFailure Json.Value × Session}
    {r : Except Failure Json.Value × Session} (d : s.withEngineResult what f = some r) :
    r = s.engagedResult what f := by
  rw [withEngineResult_eq] at d
  split at d
  · cases d
  · exact (Option.some.inj d).symm

theorem going_of_withEngine {f : Session → Session} (d : s.withEngine f = some t) :
    s.isKeptOut = false := by
  rw [withEngine_eq] at d
  split at d
  · cases d
  · next going => simpa using going

theorem going_of_withEngineResult {what : String}
    {f : Session → Outcome EngineFailure Json.Value × Session}
    {r : Except Failure Json.Value × Session} (d : s.withEngineResult what f = some r) :
    s.isKeptOut = false := by
  rw [withEngineResult_eq] at d
  split at d
  · cases d
  · next going => simpa using going

/-- Where the loop goes on behind the listeners of an event. -/
theorem dispatchEvent_cases {event : String} {value : Json.Value}
    (d : s.dispatchEvent event value = some t) :
    s.listeners.of event = [] ∧ t = s ∨
      s.listeners.of event ≠ [] ∧ t = s.engaged fun u =>
        (s.listeners.of event).foldl (fun u pair => (u.invokeLive .loop pair [value]).2) u := by
  unfold dispatchEvent at d
  dsimp only at d
  split at d
  · next none =>
    cases d
    exact .inl ⟨List.isEmpty_iff.1 none, rfl⟩
  · next some => exact .inr ⟨mt List.isEmpty_iff.2 some, eq_engaged d⟩

theorem handle_register {bound : Nat} {name : String}
    (d : s.handle bound (.register name) = some t) :
    t = s.engaged fun s => (s.loadModule name).2 :=
  eq_engaged d

theorem handle_task {bound : Nat} {work : Work} (d : s.handle bound (.task work) = some t) :
    t = s.engaged fun s => s.runWork engineAccess .loop (.task work.tag .loop) work :=
  eq_engaged d

theorem handle_script {bound query : Nat} {source name : String}
    (d : s.handle bound (.script source name query) = some t) :
    let r := s.engagedResult name fun s => s.runScript .loop source name
    t = r.2.answer query r.1 := by
  obtain ⟨r, ran, d⟩ := Option.bind_eq_some_iff.1 d
  cases d
  rw [eq_engagedResult ran]

theorem handle_require {bound query : Nat} {path : String}
    (d : s.handle bound (.require path query) = some t) :
    let r := s.engagedResult path fun s => s.loadPath .loop path
    t = r.2.answer query r.1 := by
  obtain ⟨r, ran, d⟩ := Option.bind_eq_some_iff.1 d
  cases d
  rw [eq_engagedResult ran]

/-! ## Drains -/

/-- A drain finds no job, is in the way of whoever holds the lock, or runs all the jobs that wait as
one batch and goes on. The loop is in the way of nobody but itself. -/
theorem drainFrom_cases {bound executed : Nat} {thread : Thread} {r : Drained}
    (d : s.drainFrom (bound + 1) executed thread = some (r, t)) :
    s.ticks.jobs = [] ∧ t = { s with ticks := .empty } ∨
      (s.lock ≠ .free ∧ (thread = .loop → s.isKeptOut = false) ∧
        ∃ draining, t = { s with ticks.draining := draining }) ∨
      s.ticks.jobs ≠ [] ∧ s.lock = .free ∧
        ∃ n, (s.ticks.jobs.foldl (fun (s : Session) job => s.runJob thread job)
          { s with lock := ⟨some thread⟩, ticks := ⟨[], true⟩ }).unlock.drainFrom bound n thread =
            some (r, t) := by
  cases hjobs : s.ticks.jobs with
  | nil =>
    simp only [drainFrom, TickQueue.look, hjobs] at d
    cases d
    exact .inl ⟨rfl, by simp [TickQueue.empty]⟩
  | cons job rest =>
    refine .inr ?_
    cases hlock : s.lock with
    | mk holder =>
      cases holder with
      | none =>
        refine .inr ⟨nofun, rfl, executed + (job :: rest).length, ?_⟩
        simpa [drainFrom, TickQueue.look, TickQueue.take, hjobs, hlock, Lock.acquire] using d
      | some other =>
        refine .inl ⟨by simp [Lock.free], ?_⟩
        by_cases same : other = thread
        · simp only [drainFrom, TickQueue.look, hjobs, hlock, Lock.acquire, same] at d
          cases d
          exact ⟨fun loop => by simp [isKeptOut, hlock, same, loop],
            false, by simp [TickQueue.giveUp, hjobs, same]⟩
        · -- The loop would wait for good.
          have other_thread : thread ≠ .loop := by
            rintro rfl
            simp [drainFrom, TickQueue.look, hjobs, hlock, Lock.acquire, same] at d
          simp only [drainFrom, TickQueue.look, hjobs, hlock, Lock.acquire, same, other_thread] at d
          cases d
          exact ⟨fun loop => absurd loop other_thread, true, by simp [hjobs]⟩

/-- What a drain keeps is kept by many. -/
theorem drains_induct {P : Session → Prop} {bound : Nat} {thread : Thread}
    (drained : ∀ {s t}, P s → s.drain bound thread = some t → P t) (rounds : List Nat) (h : P s)
    (d : rounds.foldlM (fun (s : Session) _ => s.drain bound thread) s = some t) : P t := by
  induction rounds generalizing s with
  | nil =>
    cases d
    exact h
  | cons _ rest ih =>
    simp only [List.foldlM_cons, Option.bind_eq_bind, Option.bind_eq_some_iff] at d
    obtain ⟨u, first, d⟩ := d
    exact ih (drained h first) d

theorem runHelpers_none (none : s.helpers = 0) (bound : Nat) : s.runHelpers bound = some s := by
  simp [runHelpers, none]

/-- If any helper has been started, there is a first one that drains. -/
theorem runHelpers_cases {bound : Nat} (d : s.runHelpers bound = some t) :
    s.helpers = 0 ∧ t = s ∨
      ∃ u, { s with helpers := 0 }.drain bound .helper = some u ∧ ∃ rounds : List Nat,
        rounds.foldlM (fun (s : Session) _ => s.drain bound .helper) u = some t := by
  unfold runHelpers at d
  split at d
  · next none =>
    cases d
    exact .inl ⟨none, rfl⟩
  next some =>
    obtain ⟨n, helpers⟩ := Nat.exists_eq_succ_of_ne_zero some
    rw [helpers, List.range_succ_eq_map] at d
    simp only [List.foldlM_cons, Option.bind_eq_bind, Option.bind_eq_some_iff] at d
    obtain ⟨u, first, d⟩ := d
    exact .inr ⟨u, first, _, d⟩

/-- What each job keeps, and what depends neither on the lock nor on the jobs that wait, is kept by
a drain, however many jobs it has run already. -/
theorem drainFrom_induct {P : Session → Prop} {bound executed : Nat} {thread : Thread}
    {r : Drained}
    (lock : ∀ {s} lock, P s → P { s with lock := lock })
    (ticks : ∀ {s} ticks, P s → P { s with ticks := ticks })
    (job : ∀ {s} job, P s → P (s.runJob thread job)) (h : P s)
    (d : s.drainFrom bound executed thread = some (r, t)) : P t := by
  have ran : ∀ (jobs : List Work) {s : Session}, P s →
      P (jobs.foldl (fun s job => s.runJob thread job) s) := by
    intro jobs
    induction jobs with
    | nil => exact fun h => h
    | cons first rest ih => exact fun h => ih (job first h)
  induction bound generalizing executed s with
  | zero => simp [drainFrom] at d
  | succ bound ih =>
    rcases drainFrom_cases d with ⟨-, rfl⟩ | ⟨-, -, draining, rfl⟩ | ⟨-, -, n, d⟩
    · exact ticks _ h
    · exact ticks _ h
    · -- The batch is taken, run, and then the drain looks again.
      have taken := lock ⟨some thread⟩ (ticks ⟨[], true⟩ h)
      refine ih ?_ d
      exact lock _ (ran s.ticks.jobs taken)

/-- What each job keeps, and what depends neither on the lock nor on the jobs that wait, is kept by
a drain. -/
theorem drain_induct {P : Session → Prop} {bound : Nat} {thread : Thread}
    (lock : ∀ {s} lock, P s → P { s with lock := lock })
    (ticks : ∀ {s} ticks, P s → P { s with ticks := ticks })
    (job : ∀ {s} job, P s → P (s.runJob thread job)) (h : P s)
    (d : s.drain bound thread = some t) : P t := by
  simp only [drain, Option.map_eq_some_iff] at d
  obtain ⟨⟨r, t⟩, d, rfl⟩ := d
  exact drainFrom_induct lock ticks job h d

/-- What each drain keeps is kept by the helpers. -/
theorem runHelpers_induct {P : Session → Prop} {bound : Nat}
    (zeroed : P s → P { s with helpers := 0 })
    (drained : ∀ {s t : Session}, P s → s.drain bound .helper = some t → P t) (h : P s)
    (d : s.runHelpers bound = some t) : P t := by
  rcases runHelpers_cases d with ⟨-, rfl⟩ | ⟨u, first, rounds, d⟩
  · exact h
  · exact drains_induct drained rounds (drained (zeroed h) first) d

/-! ## Code under the execution lock -/

/-- A property that code keeps, and that does not depend on the lock. -/
structure KeptByCode (P : Session → Prop) : Prop where
  deeds : ∀ {thread s t}, Deeds thread s t → P s → P t
  lock : ∀ {s} lock, P s → P { s with lock := lock }

/-- A property that does not depend on who waits for readiness either. -/
structure Kept (P : Session → Prop) : Prop extends KeptByCode P where
  ready : ∀ {s} readiness, s.phase = .initializing → P s →
    P { s with phase := .ready, readiness := readiness }

/-- A property that jobs keep wherever they run: it does not depend on the jobs that wait. -/
structure KeptByJobs (P : Session → Prop) : Prop extends KeptByCode P where
  ticks : ∀ {s} ticks, P s → P { s with ticks := ticks }
  helpers : ∀ {s} helpers, P s → P { s with helpers := helpers }
  begun : ∀ {s} job thread, P s → P ((s.record (.executed job)).note (.job job.tag thread))

/-- A property that the loop keeps both in drains and in everything else. -/
structure KeptByDrains (P : Session → Prop) : Prop extends Kept P, KeptByJobs P

namespace KeptByCode

variable {P : Session → Prop} (k : KeptByCode P)
include k

theorem engaged {f : Session → Session} (hf : ∀ s, P s → P (f s)) (h : P s) :
    P (s.engaged f) := by
  unfold Session.engaged
  split
  · exact k.lock _ (hf _ (k.lock _ h))
  · exact h

theorem engagedResult {f : Session → Outcome EngineFailure Json.Value × Session}
    (hf : ∀ s, P s → P (f s).2) (what : String) (h : P s) : P (s.engagedResult what f).2 := by
  unfold Session.engagedResult
  dsimp only
  split
  · exact k.lock _ (hf _ (k.lock _ h))
  · exact h

theorem runWork {access : EngineAccess} (at_hand : AccessDeeds access) (thread : Thread)
    {entry : Entry} (code : entry.isAside = true) (work : Work) (h : P s) :
    P (s.runWork access thread entry work) := by
  have noted : Deeds thread s (s.note entry) := .aside (aside_note s code)
  exact k.deeds (noted.trans (runWork_deeds at_hand thread entry work s)) h

theorem tell (observers : List Work) (h : P s) :
    P (observers.foldl Session.tell s) := by
  induction observers generalizing s with
  | nil => exact h
  | cons work rest ih => exact ih (k.deeds (tell_deeds work s) h)

theorem answer (query : Nat) (result : Except Failure Json.Value) (h : P s) :
    P (s.answer query result) := by
  have answered : Deeds .loop s (s.answer query result) := .aside (aside_answer s query result)
  exact k.deeds answered h

/-- A pair is invoked, or refused where the property bears it. -/
theorem invokeLive {pair : Pair}
    (refuse : ∀ {s}, P s → s.custody.isLive pair = false → P (s.record (.refused pair)))
    (thread : Thread) (arguments : List Json.Value) (h : P s) :
    P (s.invokeLive thread pair arguments).2 := by
  cases live : s.custody.isLive pair with
  | true => exact k.deeds (invokeLive_deeds live thread arguments) h
  | false =>
    simp only [Session.invokeLive, live]
    exact refuse h live

theorem dispatchEvent {event : String}
    (refuse : ∀ pair ∈ s.listeners.of event, ∀ {s}, P s → s.custody.isLive pair = false →
      P (s.record (.refused pair)))
    (value : Json.Value) (h : P s) (d : s.dispatchEvent event value = some t) : P t := by
  -- The listeners are those of the session before the first of them is invoked.
  have invoked : ∀ (pairs : List Pair), pairs ⊆ s.listeners.of event → ∀ {t}, P t →
      P (pairs.foldl (fun s pair => (s.invokeLive .loop pair [value]).2) t) := by
    intro pairs
    induction pairs with
    | nil => exact fun _ _ h => h
    | cons pair rest ih =>
      intro sub t h
      obtain ⟨mem, sub⟩ := List.cons_subset.1 sub
      exact ih sub (k.invokeLive (refuse pair mem) .loop [value] h)
  rcases dispatchEvent_cases d with ⟨-, rfl⟩ | ⟨-, rfl⟩
  · exact h
  · exact k.engaged (fun _ h => invoked _ (List.Subset.refl _) h) h

/-- The messages that do nothing but run code keep it, as far as no jobs are drained and readiness
is not announced. -/
theorem routine {bound : Nat} {m : Message} (routine : m.isRoutine = true)
    (refuse : ∀ event value, m = .emit event value → ∀ pair ∈ s.listeners.of event, ∀ {s}, P s →
      s.custody.isLive pair = false → P (s.record (.refused pair)))
    (announced : m = .ready → P s.becomeReady)
    (drained : m = .drain → s.drain bound .loop = some t → P t)
    (h : P s) (d : s.handle bound m = some t) : P t := by
  cases m with
  | ready => cases d; exact announced rfl
  | drain => exact drained rfl d
  | emit event value => exact k.dispatchEvent (refuse event value rfl) value h d
  | register name =>
    rw [handle_register d]
    exact k.engaged (fun s => k.deeds (loadModule_deeds .loop name s)) h
  | task work =>
    rw [handle_task d]
    exact k.engaged (fun _ => k.runWork engineAccess_deeds .loop rfl work) h
  | script source name query =>
    rw [handle_script d]
    exact k.answer query _
      (k.engagedResult (fun s => k.deeds (runScript_deeds .loop source name s)) name h)
  | require path query =>
    rw [handle_require d]
    exact k.answer query _
      (k.engagedResult (fun s => k.deeds (loadPath_deeds .loop path s)) path h)
  | sweep => cases routine
  | fire id => cases routine
  | complete call completion => cases routine
  | shutdown query => cases routine

end KeptByCode

namespace Kept

variable {P : Session → Prop} (k : Kept P)
include k

theorem becomeReady (h : P s) : P s.becomeReady := by
  unfold Session.becomeReady
  split
  · exact h
  next initializing => exact k.tell _ (k.ready _ (Decidable.not_not.1 initializing) h)

/-- The messages that do nothing but run code keep it, as far as no jobs are drained. -/
theorem routine {bound : Nat} {m : Message} (routine : m.isRoutine = true)
    (refuse : ∀ event value, m = .emit event value → ∀ pair ∈ s.listeners.of event, ∀ {s}, P s →
      s.custody.isLive pair = false → P (s.record (.refused pair)))
    (drained : m = .drain → s.drain bound .loop = some t → P t)
    (h : P s) (d : s.handle bound m = some t) : P t :=
  k.toKeptByCode.routine routine refuse (fun _ => k.becomeReady h) drained h d

end Kept

namespace KeptByJobs

variable {P : Session → Prop} (k : KeptByJobs P)
include k

theorem runJob (thread : Thread) (job : Work) (h : P s) : P (s.runJob thread job) :=
  k.deeds (runJob_deeds thread job _) (k.begun job thread h)

theorem drain {bound : Nat} {thread : Thread} (h : P s) (d : s.drain bound thread = some t) :
    P t :=
  drain_induct k.lock k.ticks (k.runJob thread) h d

theorem runHelpers {bound : Nat} (h : P s) (d : s.runHelpers bound = some t) : P t :=
  runHelpers_induct (k.helpers 0) k.drain h d

end KeptByJobs

end Session
end ScriptHost
