import ScriptHost.Proofs.Charts
import ScriptHost.Proofs.NextTick
import ScriptHost.Proofs.Watched

/-!
# Whoever holds the lock

In a trial the execution lock follows its guards: the record names the thread of the one guard that
is outstanding, whatever threads, drains and panics are nested in each other. A session takes the
lock for each message and releases it behind it. So between two messages the lock is free, and the
loop is never refused it, unless some code has taken the lock and kept it; code that has done so on
the loop or on a helper has been told so, and that is in the log.

## Main definitions

* `Session.KeepsLock` — some code has taken the lock and kept it.
* `Session.Way` — how the loop gets the lock for code and for drains; `Session.asking` — it asks for
  the lock, `Session.taking` — it takes the lock as if it could not be refused.
* `Session.handleBy` — how a message is handled in such a way.

## Main statements

* `Session.play_unlocked` — code that leaves the lock taken has been told so.
* `Session.handle_taking` — with the lock free nothing that the loop does is skipped.
* `Session.Reached.unlocked` — the lock is free between two messages, unless code has kept it.
* `lock_follows_guards` — all of it.
-/

namespace ScriptHost

/-- Whether code has been told that it has the lock for good. -/
def Entry.keepsLock : Entry → Bool
  | .did name (.value .null) => name = Action.leakLock.name
  | _ => false

namespace Session

variable {o s t u : Session} {thread : Thread} {bound : Nat}

/-! ## Code that keeps the lock -/

/-- A thread has the lock since code on it has kept it, and has been told so. -/
def KeptBy (thread : Thread) (s : Session) : Prop :=
  s.lock = ⟨some thread⟩ ∧ ∃ e ∈ s.log, e.keepsLock = true

/-- Some code has taken the lock and kept it: the host has it, or code that runs as a part of the
session has been told so. -/
def KeepsLock (s : Session) : Prop :=
  s.lock = ⟨some .host⟩ ∨ ∃ e ∈ s.log, e.keepsLock = true

/-- The lock is free still, or it has been kept. -/
def Unlocked (thread : Thread) (s t : Session) : Prop :=
  s.lock = .free → t.lock = .free ∨ KeptBy thread t

namespace Unlocked

theorem still (h : t.lock = s.lock) : Unlocked thread s t := fun free => .inl (h.trans free)

theorem of_stage (h : t.stage = s.stage) : Unlocked thread s t := still (congrArg Stage.lock h)

/-- A lock that has been kept is kept by whatever code comes later. -/
theorem trans (h : Unlocked thread s t) (d : Deeds thread t u) (h' : Unlocked thread t u) :
    Unlocked thread s u := by
  intro free
  cases h free with
  | inl free => exact h' free
  | inr kept =>
    have held : t.lock ≠ .free := by
      rw [kept.1]
      exact nofun
    obtain ⟨lock, e, mem, keeps⟩ := kept
    exact .inr ⟨(deeds_held d held).trans lock, e, d.grows.subset mem, keeps⟩

end Unlocked

/-- Calls to the engine leave the lock free or kept. -/
def AccessUnlocked (thread : Thread) : EngineAccess → Prop :=
  EngineAccess.All fun engine => ∀ call s, Unlocked thread s (engine thread call s).2

section
variable (thread : Thread) (s : Session)

theorem enqueue_lock (door : Door) (noThreads : Bool) (job : Work) :
    (s.enqueue door thread noThreads job).2.lock = s.lock := by
  rcases enqueue_cases s door thread noThreads job with h | ⟨-, ⟨-, h⟩ | ⟨-, h | h⟩⟩ <;> rw [h]
  · rfl
  · rfl
  · rfl

theorem issue_lock (door : Door) (noThreads : Bool) (order : Order) :
    (s.issue door noThreads order).2.lock = s.lock := by
  obtain ⟨entries, -, eq⟩ := stage_issue s door noThreads order
  exact congrArg Stage.lock eq

theorem release_lock (key : String) : (s.release key).2.lock = s.lock := by
  obtain ⟨entries, -, eq⟩ := stage_release s key
  exact congrArg Stage.lock eq

theorem arm_lock (delay : Nat) (m : Message) : (s.arm delay m).2.lock = s.lock :=
  congrArg Stage.lock (stage_arm s delay m)

theorem pause_lock : s.pause.2.lock = s.lock := by
  rcases pause_cases s with h | ⟨-, h⟩ <;> rw [h]
  rw [withdrawSweep_eq]

theorem unpause_lock : s.unpause.2.lock = s.lock := by
  rcases unpause_cases s with h | ⟨-, h⟩ <;> rw [h]
  exact congrArg Stage.lock (stage_armSweep { s with phase := .ready } true)

theorem beginShutdown_lock (query : Option Nat) : (s.beginShutdown query).2.lock = s.lock := by
  rcases beginShutdown_cases s query with h | ⟨-, ⟨-, h⟩ | ⟨-, h⟩⟩ <;> rw [h]
  · rw [withdrawSweep_eq]
  · rw [withdrawSweep_eq]

theorem askFrom_lock {ask : Session → Except Failure Nat × Session}
    (h : (ask s).2.stage = s.stage) : (askFrom thread ask s).2.lock = s.lock := by
  unfold askFrom
  split
  · rfl
  · split <;> next heq => rw [heq] at h; exact congrArg Stage.lock h

theorem askShutdown_lock : s.askShutdown.2.lock = s.lock := by
  have begun := beginShutdown_lock s (some s.nextQuery)
  unfold askShutdown
  dsimp only
  split <;> next heq => rw [heq] at begun; exact begun

theorem shutdownFrom_lock : (shutdownFrom thread s).2.lock = s.lock := by
  have begun := beginShutdown_lock s none
  have asked := askShutdown_lock s
  unfold shutdownFrom
  split
  · split <;> next heq => rw [heq] at begun; exact begun
  · split <;> next heq => rw [heq] at asked; exact asked

theorem blockingAsk_lock {a : Action} {ask : Session → Except Failure Nat × Session}
    (h : blockingAsk a = some ask) : (ask s).2.lock = s.lock := by
  unfold blockingAsk at h
  split at h
  · cases h; exact congrArg Stage.lock (stage_ask s (.script _ _))
  · cases h; exact congrArg Stage.lock (stage_ask s (.require _))
  · cases h; exact askShutdown_lock s
  · cases h

theorem callEngine_unlocked {access : EngineAccess} (h : AccessUnlocked thread access)
    (call : EngineCall) : Unlocked thread s (callEngine access thread call s).2 := by
  unfold callEngine
  split
  · exact .still rfl
  next engine given =>
    have called := h.1 engine given call s
    split <;> next heq => rw [heq] at called; exact called

end

mutual

/-- An action leaves the lock free or kept; the one that keeps it says so in its reply. -/
theorem perform_unlocked {access : EngineAccess} (h : AccessUnlocked thread access)
    (hd : AccessDeeds access) :
    (a : Action) → (s : Session) → a ≠ .leakLock →
      Unlocked thread s (perform access thread a s).2
  | .schedule door pair delay recurring, s, _ =>
    .of_stage (stage_schedule s door pair delay recurring)
  | .cancel door timer, s, _ => .of_stage (stage_cancel s door timer)
  | .tick door noThreads tag actions, s, _ =>
    .still (enqueue_lock thread s door noThreads ⟨tag, actions⟩)
  | .request door noThreads order, s, _ => .still (issue_lock s door noThreads order)
  | .on door event pair, s, _ => .of_stage (stage_listen s door event pair)
  | .off door event, s, _ => .of_stage (stage_unlisten s door event)
  | .phase _, s, _ => .still rfl
  | .locale _, s, _ => .still rfl
  | .isTimerLive _, s, _ => .still rfl
  | .emit event value, s, _ => .of_stage (stage_emit s event value)
  | .emitFlag event value, s, _ => .of_stage (stage_emit s event (.bool value))
  | .register name, s, _ => .of_stage (stage_registerModule s name)
  | .post tag delay actions, s, _ => .of_stage (stage_postWork s delay ⟨tag, actions⟩)
  | .pause, s, _ => .still (pause_lock s)
  | .unpause, s, _ => .still (unpause_lock s)
  | .sweep, s, _ => .of_stage (stage_sweepNow s)
  | .readiness, s, _ => .still rfl
  | .awaitReady, s, _ => .still rfl
  | .interval, s, _ => .still rfl
  | .statistics, s, _ => .still rfl
  | .observe tag actions, s, _ => by
    show Unlocked thread s { (if s.readiness.ready then
      (play access.outside thread actions (s.note (.observer tag thread))).2 else s) with
        readiness := _ }
    split
    · exact play_unlocked h.outside hd.outside actions (s.note (.observer tag thread))
    · exact .still rfl
  | .unobserve _, s, _ => .still rfl
  | .release key, s, _ => .still (release_lock s key)
  | .guarded body, s, _ => by
    unfold perform
    split
    · exact .still rfl
    · split <;> exact fun _ => .inl rfl
  | .leakLock, s, other => absurd rfl other
  | .script source name, s, _ => .still (askFrom_lock thread s (stage_ask s (.script source name)))
  | .require path, s, _ => .still (askFrom_lock thread s (stage_ask s (.require path)))
  | .shutdown, s, _ => .still (shutdownFrom_lock thread s)
  | .beginScript key source name, s, _ => .of_stage (stage_beginScript s key source name)
  | .scriptResult key, s, _ => .of_stage (stage_scriptResult s key)
  | .callScript source name, s, _ => callEngine_unlocked thread s h (.script source name)
  | .callBack pair arguments, s, _ => callEngine_unlocked thread s h (.invoke pair arguments)
  | .fail _, s, _ => .still rfl
  | .panic, s, _ => .still rfl

/-- Actions that are logged with their replies leave the lock free, or the log tells who keeps it.
-/
theorem play_unlocked {access : EngineAccess} (h : AccessUnlocked thread access)
    (hd : AccessDeeds access) :
    (actions : List Action) → (s : Session) →
      Unlocked thread s (play access thread actions s).2
  | [], s => .still rfl
  | a :: rest, s => by
    have others := play_unlocked h hd rest
    have later := play_deeds hd thread rest
    by_cases keeps : a = .leakLock
    · rw [keeps]
      unfold play perform
      cases taken : takeLock thread s with
      | error reply =>
        have noted : Unlocked thread s (s.note (.did Action.leakLock.name reply)) := .still rfl
        exact noted.trans (later _) (others _)
      | ok u =>
        obtain ⟨-, -, rfl⟩ := takeLock_eq_ok.1 taken
        have told : Unlocked thread s
            (Session.note { s with lock := ⟨some thread⟩ }
              (.did Action.leakLock.name (.value .null))) :=
          fun _ => .inr ⟨rfl, _, List.mem_cons_self .., rfl⟩
        exact told.trans (later _) (others _)
    · have first := perform_unlocked h hd a s keeps
      unfold play
      generalize perform access thread a s = done at first ⊢
      obtain ⟨reply | message, t⟩ := done
      · have noted : Unlocked thread s (t.note (.did a.name reply)) := by
          intro free
          exact (first free).imp (fun free => free) fun ⟨lock, e, mem, keeps⟩ =>
            ⟨lock, e, List.mem_cons_of_mem _ mem, keeps⟩
        exact noted.trans (later _) (others _)
      · exact first
      · exact first

end

/-! ## Code that is run -/

theorem playScripted_unlocked (thread : Thread) (actions : List Action) (s : Session) :
    Unlocked thread s (playScripted thread actions s).2 := by
  have played : Unlocked thread s (play .nowhere thread actions s).2 :=
    play_unlocked EngineAccess.all_nowhere EngineAccess.all_nowhere actions s
  unfold playScripted
  split <;> next heq => rw [heq] at played; exact played

theorem engineAccess_unlocked (thread : Thread) : AccessUnlocked thread engineAccess := by
  refine EngineAccess.all_engineAccess fun call s => ?_
  cases call with
  | script source name =>
    have played := playScripted_unlocked thread
      ((s.note (.script name source)).program.scriptActions name) (s.note (.script name source))
    show Unlocked thread s (runScript thread source name s).2
    unfold runScript
    dsimp only
    split
    · next heq =>
      rw [heq] at played
      split <;> exact played
    · next heq => rw [heq] at played; exact played
    · next heq => rw [heq] at played; exact played
  | invoke pair arguments =>
    intro free
    exact playScripted_unlocked thread (s.program.callbackActions pair.callback _) _ free

theorem tell_unlocked (observer : Work) (s : Session) : Unlocked .loop s (s.tell observer) :=
  play_unlocked (engineAccess_unlocked .loop).outside engineAccess_deeds.outside observer.actions
    (s.note (.observer observer.tag .loop))

/-- Observers that are told leave the lock free, or the log tells that it has been kept. -/
theorem tellAll_unlocked (observers : List Work) (s : Session) :
    Unlocked .loop s (observers.foldl tell s) := by
  have deeds (observers : List Work) (s : Session) : Deeds .loop s (observers.foldl tell s) := by
    induction observers generalizing s with
    | nil => exact .none s
    | cons observer rest ih => exact (tell_deeds observer s).trans (ih _)
  induction observers generalizing s with
  | nil => exact .still rfl
  | cons observer rest ih => exact (tell_unlocked observer s).trans (deeds rest _) (ih _)

/-- What the host does leaves the lock free, or it has been kept. -/
theorem act_unlocked (a : Action) (free : s.lock = .free) :
    (s.act a).2.lock = .free ∨ (s.act a).2.KeepsLock := by
  have same : (s.act a).2 = (perform engineAccess.outside .host a s).2 := by
    unfold act
    split <;> next heq => rw [heq]
  rw [same]
  by_cases keeps : a = .leakLock
  · rw [keeps]
    unfold perform
    cases taken : takeLock .host s with
    | error reply => exact .inl free
    | ok u =>
      obtain ⟨-, -, rfl⟩ := takeLock_eq_ok.1 taken
      exact .inr (.inl rfl)
  · have unlocked := perform_unlocked (engineAccess_unlocked .host).outside
      engineAccess_deeds.outside a s keeps
    exact (unlocked free).imp (fun free => free) fun kept => .inl kept.1

/-! ## Ways to the lock -/

/-- How the loop gets the lock: for code, for a script that is waited for, and for a drain. -/
structure Way where
  enter : (Session → Session) → Session → Option Session
  answer : String → (Session → Outcome EngineFailure Json.Value × Session) → Session →
    Option (Except Failure Json.Value × Session)
  drain : Nat → Session → Option (Drained × Session)

/-- The loop asks for the lock, and goes without it if it is refused. -/
def asking : Way where
  enter := withEngine
  answer := withEngineResult
  drain bound s := s.drainFrom bound 0 .loop

/-- The jobs are drained as if the lock could not be refused. -/
def drainTaking : Nat → Nat → Session → Option (Drained × Session)
  | 0, _, _ => none
  | bound + 1, executed, s =>
    let s := { s with ticks := s.ticks.look }
    if s.ticks.jobs.isEmpty then some (.emptied executed, s)
    else
      let (batch, ticks) := s.ticks.take
      let s := batch.foldl (fun s job => s.runJob .loop job) { s with lock := ⟨some .loop⟩, ticks }
      drainTaking bound (executed + batch.length) s.unlock

/-- The loop takes the lock as if it could not be refused. -/
def taking : Way where
  enter f s := some (f { s with lock := ⟨some .loop⟩ }).unlock
  answer what f s :=
    let (result, s) := f { s with lock := ⟨some .loop⟩ }
    some ((result.contain (.script ("'" ++ what ++ "' panicked"))).mapError .engine, s.unlock)
  drain bound s := drainTaking bound 0 s

/-- Sweeps for the last time and ends the loop, with the lock got in some way. -/
def finishBy (way : Way) (s : Session) (query : Option Nat) : Option Session := do
  let s ← way.enter (fun s => s.sweepGraveyard.2) (s.record .lastSweep)
  let s := match query with
    | some query => s.answer query (.ok .null)
    | none => s
  some { s with phase := .terminated, loop := .ended, lanes := s.lanes.desert }

/-- Handles one message, with the lock got in some way. -/
def handleBy (way : Way) (bound : Nat) (message : Message) (s : Session) : Option Session :=
  match message with
  | .ready => some s.becomeReady
  | .sweep => do
    let s ← way.enter (fun s => s.sweepGraveyard.2) s
    some (s.armSweep true)
  | .fire id =>
    match s.timers.begin id with
    | (none, _) => some s
    | (some timer, timers) => do
      let s ← way.enter (fun s => (s.invokeLive .loop timer.pair []).2) { s with timers }
      match s.timers.finish timer s.lanes.ticket? with
      | (.retire pair, timers) => some ({ s with timers }.bury pair)
      | (.rearmed _, timers) => some ({ s with timers }.arm timer.delay (.fire timer.id)).2
  | .drain => (way.drain bound s).map (·.2)
  | .complete call completion => do
    let s := { s with
      traffic := { s.traffic with inFlight := s.traffic.inFlight - 1 } }.record (.delivered call)
    let (pair, arguments) := call.delivery (some completion)
    let s ← way.enter (fun s => (s.invokeLive .loop pair arguments).2) s
    some (s.buryAll [call.successPair, call.errorPair])
  | .emit event value =>
    let pairs := s.listeners.of event
    if pairs.isEmpty then some s
    else way.enter (fun s => pairs.foldl (fun s pair => (s.invokeLive .loop pair [value]).2) s) s
  | .register name => way.enter (fun s => (s.loadModule name).2) s
  | .task work =>
    way.enter (fun s => s.runWork engineAccess .loop (.task work.tag .loop) work) s
  | .script source name query => do
    let (result, s) ← way.answer name (fun s => s.runScript .loop source name) s
    some (s.answer query result)
  | .require path query => do
    let (result, s) ← way.answer path (fun s => s.loadPath .loop path) s
    some (s.answer query result)
  | .shutdown query => do
    let s := s.clear
    let s ← if s.ticks.jobs.isEmpty then some s else (way.drain bound s).map (·.2)
    finishBy way s query

/-- The loop asks for the lock. -/
theorem handleBy_asking (bound : Nat) (m : Message) (s : Session) :
    handleBy asking bound m s = s.handle bound m := by
  cases m <;> rfl

theorem enter_taking (free : s.lock = .free) (f : Session → Session) :
    asking.enter f s = taking.enter f s :=
  withEngine_free free f

theorem answer_taking (free : s.lock = .free) (what : String)
    (f : Session → Outcome EngineFailure Json.Value × Session) :
    asking.answer what f s = taking.answer what f s := by
  show s.withEngineResult what f = _
  simp only [withEngineResult, free, Lock.free, Lock.acquire]
  rfl

theorem drain_taking (free : s.lock = .free) (bound : Nat) :
    asking.drain bound s = taking.drain bound s := by
  have all (executed : Nat) : s.drainFrom bound executed .loop = drainTaking bound executed s := by
    induction bound generalizing s executed with
    | zero => rfl
    | succ bound ih =>
      unfold drainFrom drainTaking
      dsimp only
      split
      · rfl
      · rw [free]
        exact ih rfl _
  exact all 0

/-- With the lock free the loop does for every message what it would do if it could not be refused
the lock. -/
theorem handle_taking (free : s.lock = .free) (bound : Nat) (m : Message) :
    s.handle bound m = handleBy taking bound m s := by
  rw [← handleBy_asking]
  cases m with
  | ready => rfl
  | sweep =>
    dsimp only [handleBy]
    rw [enter_taking free]
  | fire id =>
    dsimp only [handleBy]
    rcases s.timers.begin id with ⟨timer | timer, timers⟩
    · rfl
    · dsimp only
      rw [enter_taking (by exact free)]
  | drain => exact congrArg (Option.map (·.2)) (drain_taking free bound)
  | complete call completion =>
    dsimp only [handleBy]
    rw [enter_taking (by exact free)]
  | emit event value =>
    dsimp only [handleBy]
    rw [enter_taking free]
  | register name => exact enter_taking free _
  | task work => exact enter_taking free _
  | script source name query =>
    dsimp only [handleBy]
    rw [answer_taking free]
  | require path query =>
    dsimp only [handleBy]
    rw [answer_taking free]
  | shutdown query =>
    have cleared : s.clear.lock = .free := (clear_lock s).trans free
    have finish {u : Session} (free : u.lock = .free) :
        finishBy asking u query = finishBy taking u query := by
      unfold finishBy
      rw [enter_taking (by exact free)]
    dsimp only [handleBy]
    by_cases none : s.clear.ticks.jobs.isEmpty = true
    · rw [if_pos none, if_pos none]
      exact finish cleared
    · rw [if_neg none, if_neg none, ← drain_taking cleared]
      cases drained : asking.drain bound s.clear with
      | none => rfl
      | some done => exact finish (drainFrom_free cleared drained).1

/-! ## Between two messages -/

/-- A message leaves the lock free, or it has been kept. -/
theorem handle_unlocked {m : Message} (free : s.lock = .free) (d : s.handle bound m = some t) :
    t.lock = .free ∨ t.KeepsLock := by
  by_cases ready : m = .ready
  · subst ready
    cases d
    unfold becomeReady
    split
    · exact .inl free
    · have told := tellAll_unlocked s.readiness.announce.1
        { s with phase := .ready, readiness := s.readiness.announce.2 } free
      exact told.imp (fun free => free) fun kept => .inr kept.2
  left
  rw [handle_taking free] at d
  cases m with
  | ready => exact absurd rfl ready
  | sweep =>
    cases d
    exact congrArg Stage.lock (stage_armSweep _ true)
  | fire id =>
    dsimp only [handleBy] at d
    split at d
    · cases d
      exact free
    · simp only [taking, Option.bind_eq_bind, Option.bind_some] at d
      split at d <;> cases d
      · rfl
      · rw [arm_lock]
        rfl
  | drain =>
    have drained : s.drain bound .loop = some t := by
      rw [← handle_taking free] at d
      exact d
    exact (drain_free free drained).1
  | complete call completion => cases d; rfl
  | emit event value =>
    dsimp only [handleBy] at d
    split at d <;> cases d
    · exact free
    · rfl
  | register name => cases d; rfl
  | task work => cases d; rfl
  | script source name query => cases d; rfl
  | require path query => cases d; rfl
  | shutdown query =>
    have closed {u : Session} (d : finishBy taking u query = some t) : t.lock = .free := by
      cases query <;> cases d <;> rfl
    dsimp only [handleBy] at d
    split at d
    · exact closed d
    · obtain ⟨u, -, done⟩ := Option.bind_eq_some_iff.1 d
      exact closed done

theorem KeepsLock.held (keeps : s.KeepsLock) (lock : s.lock ≠ .free → t.lock = s.lock)
    (grows : Grows s t) : t.KeepsLock := by
  cases keeps with
  | inl host =>
    have held : s.lock ≠ .free := by
      rw [host]
      exact nofun
    exact .inl ((lock held).trans host)
  | inr told =>
    obtain ⟨e, mem, keeps⟩ := told
    exact .inr ⟨e, grows.subset mem, keeps⟩

/-- The lock is free between two messages, unless code has taken it and kept it. -/
theorem Reached.unlocked {turn : Turn} (r : Reached o turn s) : s.lock = .free ∨ s.KeepsLock := by
  induction r with
  | broughtUp =>
    obtain ⟨u, -, h⟩ := bringUp_cases o
    obtain h | h | h := h
    · rw [h]
      exact .inl rfl
    · rw [h]
      exact .inl rfl
    · rw [h]
      exact .inl (congrArg Stage.lock (stage_armSweep (u.unlock.postUrgent .ready).2 true))
  | @handled turn s t m lanes bound r _ _ _ d ih =>
    cases ih with
    | inl free => exact handle_unlocked (by exact free) d
    | inr keeps =>
      have before : ({ s with lanes } : Session).KeepsLock := keeps
      exact .inr (before.held (fun held => handle_held held d) (grows_handle d))
  | waited _ _ ih => exact ih
  | helped _ d ih =>
    cases ih with
    | inl free => exact .inl (runHelpers_lock free d)
    | inr keeps => exact .inr (keeps.held (fun held => runHelpers_held held d) (grows_runHelpers d))
  | due _ ih => exact ih
  | passed _ _ ih => exact ih
  | @acted s r _ a ih =>
    cases ih with
    | inl free => exact act_unlocked a free
    | inr keeps =>
      have deeds := act_deeds a s
      exact .inr (keeps.held (deeds_held deeds) deeds.grows)
  | @asked s a ask _ _ asks ih =>
    have same := blockingAsk_lock s asks
    cases ih with
    | inl free => exact .inl (same.trans free)
    | inr keeps => exact .inr (keeps.held (fun _ => same) (blockingAsk_deeds asks s).grows)
  | dropped _ _ ih => exact ih

/-- A drain that gets the lock ends with the number of its jobs, and the lock is free again. -/
theorem drainFrom_ends {executed : Nat} {r : Drained} (free : s.lock = .free)
    (d : s.drainFrom bound executed thread = some (r, t)) :
    (∃ n, r = .emptied n) ∧ t.lock = .free := by
  refine ⟨?_, (drainFrom_free free d).1⟩
  induction bound generalizing s executed with
  | zero => cases d
  | succ bound ih =>
    unfold drainFrom at d
    dsimp only at d
    split at d
    · cases d
      exact ⟨executed, rfl⟩
    · rw [free] at d
      exact ih rfl d

end Session

/-! ## The lock and its guards -/

/-- Whatever steps are nested in each other in a trial that finds the lock free, and whichever of
them panic: the record names the thread of the one guard that is outstanding, and none if there is
no guard; that thread, and no other one, is told that it holds the lock, and is refused it; jobs run
while their draining thread holds it; and behind every body the lock is free for any thread. In a
session nobody has the lock between two messages, unless code has taken it and kept it; then every
message is handled as if the loop could not be refused the lock, and so does every drain end. -/
theorem lock_follows_guards :
    (∀ (bound : Nat) (steps : List TickTrial.Step) (b : TickTrial.Bench) (poisoned : Bool),
      b.lock = .free →
      let watched := TickTrial.watchRun bound steps (b.watched poisoned)
      watched.1 = TickTrial.runFrom bound steps b ∧ (∀ s ∈ watched.2.seen, s.Guarded) ∧
      watched.2.guards = [] ∧ watched.2.bench.lock = .free) ∧
    (∀ (bound thread : Nat) (s : TickTrial.Step) (b : TickTrial.Bench),
      (TickTrial.perform bound thread s b).2.lock = b.lock) ∧
    ∀ {o s : Session} {turn : Session.Turn}, Session.Reached o turn s → ¬ s.KeepsLock →
      s.lock = .free ∧
      (∀ (bound : Nat) (m : Message) (lanes : Lanes Message),
        ({ s with lanes } : Session).handle bound m =
          Session.handleBy Session.taking bound m { s with lanes }) ∧
      ∀ {bound executed : Nat} {thread : Thread} {r : Session.Drained} {t : Session},
        s.drainFrom bound executed thread = some (r, t) →
          (∃ n, r = .emptied n) ∧ t.lock = .free := by
  refine ⟨fun bound steps b poisoned free => ?_, TickTrial.perform_lock, fun r kept => ?_⟩
  · obtain ⟨reports, sound, guards⟩ :=
      TickTrial.watchRun_mirrors bound steps _ (b.watched_sound poisoned)
    have none : (b.watched poisoned).guards = [] := by
      show b.lock.holder.toList = []
      rw [free]
      rfl
    refine ⟨reports, fun s mem => (sound.apt s mem).guarded, guards.trans none, ?_⟩
    have holder := sound.steady.holder
    rw [guards, none] at holder
    exact congrArg Lock.mk holder
  · have free := r.unlocked.resolve_right kept
    exact ⟨free, fun bound m lanes => Session.handle_taking (by exact free) bound m,
      Session.drainFrom_ends free⟩

/-- A body panics with the lock held, after it has asked for the lock again; behind it another
thread takes the lock, and a drain whose job asks for it. -/
def TickTrial.crowded : List TickTrial.Step :=
  [.acquire [.held, .acquire [], .panic], .thread [.acquire [.held]],
   .enqueue (.text "a") [.held, .acquire []], .drain]

/-- A crowded trial gets the lock from a poisoned mutex each time; and a session is up, in which two
jobs wait. -/
theorem lock_follows_guards_crowded :
    (∀ sight ∈
      (TickTrial.watchRun 8 TickTrial.crowded (TickTrial.Bench.fresh.watched true)).2.seen,
      sight.Guarded) ∧
    TickTrial.runFrom 8 TickTrial.crowded .fresh =
      [.mk .panicked [] 0 false false,
       .mk (.joined [.mk (.guarded [.mk (.flag true) [] 0 false true]) [] 0 false false])
        [] 0 false false,
       .mk (.flag true) [] 1 false false,
       .mk (.drained 1) [.job (.text "a"), .did "held" (.flag true),
        .did "acquire" (.refused .reentrant)] 0 false false] ∧
    ∃ s, Session.Reached (Session.plain Session.ticking) .helpers s ∧ ¬ s.KeepsLock ∧
      s.lock = .free ∧ s.ticks.jobs.map Work.tag = ["a", "b"] := by
  have kept : ¬ (Session.plain Session.ticking).bringUp.KeepsLock := by
    have free : (Session.plain Session.ticking).bringUp.lock = .free := by decide +kernel
    have none : (Session.plain Session.ticking).bringUp.log.any Entry.keepsLock = false := by
      decide +kernel
    intro keeps
    cases keeps with
    | inl host => cases free.symm.trans host
    | inr told =>
      rw [List.any_eq_true.2 told] at none
      cases none
  have trial := lock_follows_guards.1 8 TickTrial.crowded .fresh true rfl
  refine ⟨trial.2.1, rfl, _, .broughtUp, kept, (lock_follows_guards.2.2 .broughtUp kept).1, ?_⟩
  decide +kernel

/-- The tags of the tasks that entries of the log say were begun, the first ones first. -/
def Session.tasksBegun (log : List Entry) : List String :=
  log.reverse.filterMap fun
    | .task tag _ => some tag
    | _ => none

/-- An observer keeps the lock when readiness is announced. The lock is not free between messages
then, and a task that has been posted is not begun when its message has been handled. -/
theorem lock_kept_by_observer :
    ∃ s, Session.Reached Session.leaking .loop s ∧ s.loop = .running ∧
      s.lanes.next?.isNone = true ∧ s.lock ≠ .free ∧ (s.lock.acquire .loop).1 = .reentrant ∧
      Session.tasksBegun s.log = [] := by
  obtain ⟨s, r, found⟩ := @Session.Fresh.scenario Session.leaking 50
    [.act (.post "t" 0 []), .run 0]
    (fun s => decide (s.loop = .running ∧ s.lanes.next?.isNone = true ∧ s.lock ≠ .free ∧
      (s.lock.acquire .loop).1 = .reentrant ∧ Session.tasksBegun s.log = []))
    (Session.earlySteps_fresh _ (Session.plain_fresh _)) (by decide +kernel)
  exact ⟨s, r, of_decide_eq_true found⟩

end ScriptHost
