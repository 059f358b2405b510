import ScriptHost.Proofs.Jobs

/-!
# No job is left behind

As long as nobody keeps the execution lock for good, a job that waits has a drain to come: one is in
the urgent lane, or a helper has been started. So the loop has no job pending whenever it turns to
the ordinary lane.

## Main definitions

* `Stage.Awake` — no drain is at work, and waiting jobs have one to come.
* `Session.Prompt` — what is known of the jobs between two messages.

## Main statements

* `Session.handle_held` — a lock that is kept is kept for good.
* `Session.handle_awake` — a message leaves no job behind without a drain to come.
* `Session.Reached.jobs_in_order` — no job is lost, run twice, or overtaken.
-/

namespace ScriptHost

namespace Stage

variable {g g' : Stage}

/-- No drain is at work, and jobs do not wait without a drain to come. -/
structure Awake (g : Stage) : Prop where
  taken : g.deserted = false
  rest : g.ticks.draining = false
  wake : g.ticks.jobs ≠ [] → Message.drain ∈ g.urgent ∨ 0 < g.helpers

/-- Code that enqueues into an idle queue starts a drain, and into any other one there is one to
come. -/
theorem Awake.stirred (d : Stirred g g') (h : g.Awake) : g'.Awake := by
  induction d with
  | trans _ _ ih ih' => exact ih' (ih h)
  | queued _ busy job =>
    -- No drain is at work, so the queue is busy because jobs wait in it.
    refine ⟨h.taken, h.rest, fun _ => h.wake fun none => ?_⟩
    simp [TickQueue.isIdle, none, h.rest] at busy
  | helped _ _ job => exact ⟨h.taken, h.rest, fun _ => .inr (Nat.succ_pos _)⟩
  | @posted g _ _ job =>
    refine ⟨h.taken, h.rest, fun _ => .inl ?_⟩
    simp [h.taken]
  | guarded _ _ _ ih =>
    have inner := ih ⟨h.taken, h.rest, h.wake⟩
    exact ⟨inner.taken, inner.rest, inner.wake⟩
  | _ => exact ⟨h.taken, h.rest, h.wake⟩

/-- The loop has ended, and at the last sweep no job was left. -/
structure Done (g : Stage) : Prop where
  ended : g.phase = .terminated
  none : g.ticks.jobs = []
  last : g.atLastSweep = some (g.accepted, g.executed)

/-- Nothing is accepted any more behind the end. -/
theorem Done.stirred (d : Stirred g g') (h : g.Done) : g'.Done := by
  induction d with
  | trans _ _ ih ih' => exact ih' (ih h)
  | queued live => simp [isLive, h.ended, Phase.isLive] at live
  | helped live => simp [isLive, h.ended, Phase.isLive] at live
  | posted live => simp [isLive, h.ended, Phase.isLive] at live
  | shut live => simp [isLive, h.ended, Phase.isLive] at live
  | paused ready => cases h.ended.symm.trans ready
  | unpaused paused => cases h.ended.symm.trans paused
  | guarded _ _ _ ih =>
    have inner := ih ⟨h.ended, h.none, h.last⟩
    exact ⟨inner.ended, inner.none, inner.last⟩
  | _ => exact ⟨h.ended, h.none, h.last⟩

end Stage

namespace Session

variable {o s t : Session}

/-! ## A lock that is kept -/

theorem deeds_held {thread : Thread} (d : Deeds thread s t) (held : s.lock ≠ .free) :
    t.lock = s.lock := d.stirred.lock held

theorem tell_held (observers : List Work) (held : s.lock ≠ .free) :
    (observers.foldl tell s).lock = s.lock := by
  induction observers generalizing s with
  | nil => rfl
  | cons work rest ih =>
    have told := deeds_held (tell_deeds work s) held
    exact (ih fun free => held (told.symm.trans free)).trans told

theorem drain_held {bound : Nat} {thread : Thread} (held : s.lock ≠ .free)
    (d : s.drain bound thread = some t) : t.lock = s.lock := by
  obtain ⟨draining, rfl⟩ := drain_still (.inl held) d
  rfl

theorem clear_lock (s : Session) : s.clear.lock = s.lock := by
  obtain ⟨running, h⟩ := stage_clear s
  exact congrArg Stage.lock h

theorem terminate_held {bound : Nat} {query : Option Nat} (held : s.lock ≠ .free)
    (d : s.terminate bound query = some t) : t.lock = s.lock := by
  obtain ⟨u, drained, d⟩ := terminate_cases d
  have same : u.lock = s.lock := by
    rcases drained with ⟨-, rfl⟩ | drained
    · exact clear_lock s
    · have held : s.clear.lock ≠ .free := clear_lock s ▸ held
      exact (drain_held held drained).trans (clear_lock s)
  rw [eq_finish d, engaged_held (by exact same ▸ held)]
  exact same

/-- Whatever message is handled, a lock that is kept stays with its holder. -/
theorem handle_held {bound : Nat} {m : Message} (held : s.lock ≠ .free)
    (d : s.handle bound m = some t) : t.lock = s.lock := by
  cases m with
  | ready =>
    cases d
    unfold becomeReady
    split
    · rfl
    · exact tell_held _ held
  | sweep =>
    rw [eq_handleSweep d, engaged_held held]
    exact congrArg Stage.lock (stage_armSweep s true)
  | fire id =>
    have called : ∀ timer, (s.called timer).lock = s.lock := by
      intro timer
      rw [Session.called, engaged_held (by exact held)]
    rcases fireTimer_cases d with ⟨-, h⟩ | ⟨timer, -, -, ⟨-, -, -, h⟩ | h⟩
    · rw [h]
    · exact (congrArg Session.lock h).trans (called timer)
    · exact (congrArg Session.lock h).trans (called timer)
  | drain => exact drain_held held d
  | complete call completion =>
    rw [eq_deliver d, engaged_held (s := s.arrived call) held]
    rfl
  | emit event value =>
    rcases dispatchEvent_cases d with ⟨-, rfl⟩ | ⟨-, rfl⟩
    · rfl
    · rw [engaged_held held]
  | register name => rw [handle_register d, engaged_held held]
  | task work => rw [handle_task d, engaged_held held]
  | script source name query =>
    rw [handle_script d]
    have same := congrArg Session.lock (engagedResult_held held name
      fun s => s.runScript .loop source name)
    exact same
  | require path query =>
    rw [handle_require d]
    have same := congrArg Session.lock (engagedResult_held held path
      fun s => s.loadPath .loop path)
    exact same
  | shutdown query => exact terminate_held held d

theorem runHelpers_held {bound : Nat} (held : s.lock ≠ .free) (d : s.runHelpers bound = some t) :
    t.lock = s.lock := by
  obtain ⟨draining, rfl⟩ := runHelpers_still (.inl held) d
  rfl

/-- A lock that is free in the end has been free before. -/
theorem free_before (held : s.lock ≠ .free → t.lock = s.lock) (free : t.lock = .free) :
    s.lock = .free := by
  by_contra kept
  exact kept ((held kept).symm.trans free)

/-! ## The account of the jobs -/

theorem terminate_tallied {bound : Nat} {query : Option Nat} (h : s.stage.Tallied [])
    (d : s.terminate bound query = some t) : t.stage.Tallied [] := by
  obtain ⟨u, drained, d⟩ := terminate_cases d
  have cleared : s.clear.stage.Tallied [] := by
    obtain ⟨running, eq⟩ := stage_clear s
    rw [eq]
    exact ⟨h.order, h.begun⟩
  have left : u.stage.Tallied [] := by
    rcases drained with ⟨-, rfl⟩ | drained
    · exact cleared
    · exact drain_tallied cleared drained
  have noted : (u.record .lastSweep).stage.Tallied [] := ⟨left.order, left.begun⟩
  have swept := (tallied_kept []).swept (fun pairs h => h.released pairs) noted
  rw [eq_finish d]
  exact ⟨swept.order, swept.begun⟩

theorem handle_tallied {bound : Nat} {m : Message} (h : s.stage.Tallied [])
    (d : s.handle bound m = some t) : t.stage.Tallied [] :=
  (tallied_kept []).handle (fun pairs h => h.released pairs) (fun _ h => ⟨h.order, h.begun⟩)
    (fun _ _ => terminate_tallied h) (fun _ => drain_tallied h) h d

/-! ## Drains to come -/

theorem awake_kept : Kept fun s => s.stage.Awake where
  deeds d h := h.stirred d.stirred
  lock _ h := ⟨h.taken, h.rest, h.wake⟩
  ready _ _ h := ⟨h.taken, h.rest, h.wake⟩

/-- A message that has been taken leaves waiting jobs with a drain to come, unless it was that
drain. -/
theorem taken_awake {m : Message} {lanes : Lanes Message} (next : s.lanes.next? = some (m, lanes))
    (other : m ≠ .drain) (h : s.stage.Awake) : ({ s with lanes } : Session).stage.Awake := by
  rcases Lanes.next?_cases next with ⟨urgent, heq, rfl⟩ | ⟨-, ordinary, -, rfl⟩
  · refine ⟨h.taken, h.rest, fun waiting => (h.wake waiting).imp_left fun mem => ?_⟩
    rw [show s.stage.urgent = m :: urgent from heq] at mem
    exact (List.mem_cons.1 mem).resolve_left (Ne.symm other)
  · exact ⟨h.taken, h.rest, h.wake⟩

/-- Whatever message is handled, jobs that wait afterwards have a drain to come. -/
theorem handle_awake {bound : Nat} {m : Message} {lanes : Lanes Message} (h : s.stage.Awake)
    (free : s.lock = .free) (other : ∀ query, m ≠ .shutdown query)
    (next : s.lanes.next? = some (m, lanes)) (d : { s with lanes }.handle bound m = some t) :
    t.stage.Awake := by
  -- The drain that was to come may be this message; then it leaves no job behind.
  by_cases draining : m = .drain
  · subst draining
    obtain ⟨-, empty, -⟩ := drain_free (s := { s with lanes }) free d
    have deserted := congrArg Stage.deserted (handle_scene other d)
    have taken : lanes.deserted = false :=
      (congrArg Lanes.deserted (Lanes.next?_rest next)).trans h.taken
    refine ⟨deserted.trans taken, congrArg TickQueue.draining empty, fun waiting => ?_⟩
    exact absurd (congrArg TickQueue.jobs empty) waiting
  · exact awake_kept.handle (fun _ h => ⟨h.taken, h.rest, h.wake⟩)
      (fun _ h => ⟨h.taken, h.rest, h.wake⟩) (fun query same => absurd same (other query))
      (fun same => absurd same draining) (taken_awake next draining h) d

/-- Helpers leave no job behind. -/
theorem runHelpers_awake {bound : Nat} (h : s.stage.Awake) (free : s.lock = .free)
    (d : s.runHelpers bound = some t) : t.stage.Awake := by
  have deserted := congrArg Stage.deserted (runHelpers_scene d)
  obtain ⟨-, -, ⟨-, rfl⟩ | empty⟩ := runHelpers_free free d
  · exact h
  · refine ⟨deserted.trans h.taken, congrArg TickQueue.draining empty, fun waiting => ?_⟩
    exact absurd (congrArg TickQueue.jobs empty) waiting

/-- The last message leaves no job to its sweep, if it gets the lock. -/
theorem terminate_done {bound : Nat} {query : Option Nat} (free : s.lock = .free)
    (d : s.terminate bound query = some t) : t.stage.Done := by
  obtain ⟨u, drained, d⟩ := terminate_cases d
  have none : u.ticks.jobs = [] := by
    rcases drained with ⟨none, rfl⟩ | drained
    · exact none
    · obtain ⟨-, empty, -⟩ := drain_free ((clear_lock s).trans free) drained
      exact congrArg TickQueue.jobs empty
  obtain ⟨pairs, lock, swept⟩ := stage_swept (u.record .lastSweep)
  have eq := eq_finish d
  have accepted := congrArg Stage.accepted swept
  have executed := congrArg Stage.executed swept
  rw [eq]
  refine ⟨rfl, (congrArg (fun g => g.ticks.jobs) swept).trans none, ?_⟩
  refine (congrArg Stage.atLastSweep swept).trans ?_
  exact congrArg some (Prod.ext accepted.symm executed.symm)

/-! ## The course of a session -/

/-- What is known of the jobs between two messages, as long as nobody keeps the lock. -/
structure Prompt (turn : Turn) (s : Session) : Prop where
  awake : s.loop = .running → s.stage.Awake
  helped : turn = .loop → s.loop = .running → s.helpers = 0 ∨ s.phase = .initializing
  done : s.loop = .ended → s.stage.Done

theorem Fresh.jobs (p : Fresh o) :
    o.stage.Tallied [] ∧ o.stage.Awake ∧ (o.phase = .initializing ∨ o.phase = .shuttingDown) := by
  refine p.induct (P := fun s => s.stage.Tallied [] ∧ s.stage.Awake ∧
    (s.phase = .initializing ∨ s.phase = .shuttingDown)) (fun _ _ _ _ => ?_) ?_
  · exact ⟨⟨rfl, rfl⟩, ⟨rfl, rfl, nofun⟩, .inl rfl⟩
  · rintro s t d ⟨tallied, awake, phase⟩
    exact ⟨tallied.stirred d.stirred, awake.stirred d.stirred, d.stirred.phase.2 phase⟩

theorem Fresh.broughtUp_tallied (p : Fresh o) : o.bringUp.stage.Tallied [] := by
  obtain ⟨u, d, h⟩ := bringUp_cases o
  obtain ⟨tallied, awake, -⟩ := p.jobs
  have tallied := tallied.stirred d.stirred
  have awake := awake.stirred d.stirred
  rcases h with h | h | h <;> rw [h]
  · exact ⟨tallied.order, tallied.begun⟩
  · exact ⟨tallied.order, tallied.begun⟩
  · rw [stage_enterLoop (s := u.unlock) awake.taken]
    exact ⟨tallied.order, tallied.begun⟩

theorem Fresh.broughtUp_jobs (p : Fresh o) (up : o.bringUp.loop = .running) :
    o.bringUp.stage.Awake ∧
      (o.bringUp.phase = .initializing ∨ o.bringUp.phase = .shuttingDown) := by
  obtain ⟨u, d, eq⟩ := bringUp_running up
  obtain ⟨-, awake, phase⟩ := p.jobs
  have awake := awake.stirred d.stirred
  have entered := stage_enterLoop (s := u.unlock) awake.taken
  have same : u.unlock.enterLoop.phase = u.phase := congrArg Stage.phase entered
  rw [eq]
  refine ⟨?_, same ▸ d.stirred.phase.2 phase⟩
  rw [entered]
  refine ⟨awake.taken, awake.rest, fun waiting => (awake.wake waiting).imp_left fun mem => ?_⟩
  dsimp only
  split
  · exact mem
  · exact List.mem_append_left _ mem

theorem tallied_steady : Steady fun s => s.stage.Tallied [] where
  deeds d h := h.stirred d.stirred
  helped h d := runHelpers_tallied h d
  due h := ⟨h.order, h.begun⟩
  passed _ h := ⟨h.order, h.begun⟩
  dropped h := ⟨h.order, h.begun⟩

namespace Reached

variable {turn : Turn}

/-- The jobs are accounted for between any two messages. -/
theorem tallied (p : Fresh o) (r : Reached o turn s) : s.stage.Tallied [] := by
  refine r.invariant tallied_steady p.broughtUp_tallied fun {s t m lanes bound} h _ d => ?_
  have taken : ({ s with lanes } : Session).stage.Tallied [] := ⟨h.order, h.begun⟩
  exact handle_tallied taken d

end Reached

/-- What the host waits for starts no helper. -/
theorem blockingAsk_helpers {a : Action} {ask : Session → Except Failure Nat × Session}
    (h : blockingAsk a = some ask) (s : Session) : (ask s).2.helpers = s.helpers := by
  have asked : ∀ message, (s.ask message).2.helpers = s.helpers :=
    fun message => congrArg Stage.helpers (stage_ask s message)
  unfold blockingAsk at h
  split at h
  · cases h; exact asked _
  · cases h; exact asked _
  · cases h
    have begun : (s.beginShutdown (some s.nextQuery)).2.helpers = s.helpers := by
      rcases beginShutdown_cases s (some s.nextQuery) with h | ⟨-, ⟨-, h⟩ | ⟨-, h⟩⟩ <;> rw [h]
      · rw [withdrawSweep_eq]
      · rw [withdrawSweep_eq]
    unfold askShutdown
    dsimp only
    split <;> next heq => rw [heq] at begun; exact begun
  · cases h

/-! ## Jobs in order -/

/-- An engine that enqueues two jobs while it is brought up. -/
def ticking : Program where
  bringUp := [.tick .context false "a" [], .tick .context false "b" []]
  scripts := []
  callbacks := []
  failDispose := []
  panicDispose := []
  hasTransport := false

/-- A session with an observer that takes the execution lock and never releases it. -/
def leaking : Session := ((plain default).earlySteps [.act (.observe "o" [.leakLock])]).2.2

namespace Reached

variable {turn : Turn}

theorem prompt (p : Fresh o) (up : o.bringUp.loop = .running) (r : Reached o turn s)
    (free : s.lock = .free) : s.Prompt turn := by
  induction r with
  | broughtUp =>
    exact ⟨fun _ => (p.broughtUp_jobs up).1, nofun, fun ended => by cases up.symm.trans ended⟩
  | @handled turn s t m lanes bound _ _ running next h ih =>
    -- A lock that is kept is kept for good, so it has been free all the time.
    have before : s.lock = .free :=
      free_before (fun held => handle_held (s := { s with lanes }) held h) free
    have awake := (ih before).awake running
    by_cases last : ∃ query, m = .shutdown query
    · obtain ⟨query, rfl⟩ := last
      have ended := (terminate_stage h).2.1
      refine ⟨fun running => ?_, nofun, fun _ => terminate_done (s := { s with lanes }) before h⟩
      cases ended.symm.trans running
    · have other : ∀ query, m ≠ .shutdown query := fun query same => last ⟨query, same⟩
      refine ⟨fun _ => handle_awake awake before other next h, nofun, fun ended => ?_⟩
      cases running.symm.trans ((handle_loop other h).symm.trans ended)
  | waited _ h ih =>
    obtain ⟨awake, -, done⟩ := ih free
    exact ⟨awake, fun _ _ => .inr (by simpa [helpersWait] using h), done⟩
  | @helped turn s t bound _ h ih =>
    have before : s.lock = .free := free_before (fun held => runHelpers_held held h) free
    obtain ⟨awake, -, done⟩ := ih before
    have loop := runHelpers_loop h
    refine ⟨fun running => runHelpers_awake (awake (loop.symm.trans running)) before h,
      fun _ _ => .inl (runHelpers_free before h).1, fun ended => ?_⟩
    have done := done (loop.symm.trans ended)
    obtain ⟨draining, rfl⟩ := runHelpers_still (.inr done.none) h
    exact ⟨done.ended, done.none, done.last⟩
  | due _ ih =>
    obtain ⟨awake, helped, done⟩ := ih free
    exact ⟨awake, helped, done⟩
  | passed _ _ ih =>
    obtain ⟨awake, helped, done⟩ := ih free
    refine ⟨fun running => ?_, helped, fun ended => ?_⟩
    · have awake := awake running
      exact ⟨awake.taken, awake.rest, awake.wake⟩
    · have done := done ended
      exact ⟨done.ended, done.none, done.last⟩
  | @acted s _ _ a ih =>
    have d := act_deeds a s
    have before : s.lock = .free := free_before (deeds_held d) free
    obtain ⟨awake, -, done⟩ := ih before
    refine ⟨fun running => (awake (d.loop.symm.trans running)).stirred d.stirred, ?_,
      fun ended => (done (d.loop.symm.trans ended)).stirred d.stirred⟩
    intro same
    cases same
  | @asked s a ask _ heeds asks ih =>
    have d := blockingAsk_deeds asks s
    have before : s.lock = .free := free_before (deeds_held d) free
    obtain ⟨awake, helped, done⟩ := ih before
    refine ⟨fun running => (awake (d.loop.symm.trans running)).stirred d.stirred,
      fun _ running => ?_, fun ended => (done (d.loop.symm.trans ended)).stirred d.stirred⟩
    have running := d.loop.symm.trans running
    have left : s.phase ≠ .initializing := by simpa [helpersWait] using heeds running
    -- The host is heeded after the helpers only, and what it waits for starts none.
    exact .inl ((blockingAsk_helpers asks s).trans ((helped rfl running).resolve_right left))
  | dropped _ _ ih =>
    obtain ⟨awake, helped, done⟩ := ih free
    refine ⟨fun running => ?_, helped, fun ended => ?_⟩
    · have awake := awake running
      exact ⟨awake.taken, awake.rest, awake.wake⟩
    · have done := done ended
      exact ⟨done.ended, done.none, done.last⟩

/-- Between two messages the jobs that have been accepted are those that have been begun, followed
by those that wait. As long as nobody has kept the execution lock, a job that waits has a drain to
come; none waits when the loop turns to the ordinary lane; none waits when the loop is idle; and
when it has ended all have been begun, before the last sweep. -/
theorem jobs_in_order (p : Fresh o) (up : o.bringUp.loop = .running) (r : Reached o turn s) :
    (s.journal.accepted = s.journal.executed ++ s.ticks.jobs ∧
      jobsBegun s.log = s.journal.executed.map Work.tag) ∧
    (s.lock = .free →
      (s.loop = .running → s.ticks.jobs ≠ [] →
        Message.drain ∈ s.lanes.urgent ∨ 0 < s.helpers) ∧
      (s.loop = .running → turn ≠ .helpers → s.lanes.urgent = [] → s.ticks.jobs = []) ∧
      (s.loop = .running → turn ≠ .helpers → s.lanes.next? = none → s.ticks.jobs = []) ∧
      (s.loop = .ended → s.journal.executed = s.journal.accepted ∧
        s.journal.atLastSweep = some (s.journal.accepted, s.journal.accepted))) := by
  have tallied := r.tallied p
  have order : s.journal.accepted = s.journal.executed ++ s.ticks.jobs := by
    have order : s.journal.accepted = s.journal.executed ++ [] ++ s.ticks.jobs := tallied.order
    rwa [List.append_nil] at order
  refine ⟨⟨order, tallied.begun⟩, fun free => ?_⟩
  obtain ⟨awake, helped, done⟩ := r.prompt p up free
  have left : s.loop = .running → s.lanes.urgent = [] → s.phase ≠ .initializing := by
    intro running empty initializing
    have told := r.announced p running initializing
    rw [show s.stage.urgent = [] from empty] at told
    cases told
  have ordinary : s.loop = .running → turn ≠ .helpers → s.lanes.urgent = [] →
      s.ticks.jobs = [] := by
    intro running free empty
    by_contra waiting
    cases turn with
    | helpers => exact free rfl
    | loop =>
      have none : s.helpers = 0 := (helped rfl running).resolve_right (left running empty)
      rcases (awake running).wake waiting with mem | some
      · rw [show s.stage.urgent = [] from empty] at mem
        cases mem
      · exact absurd none (Nat.ne_of_gt some)
  refine ⟨fun running => (awake running).wake, ordinary, fun running free idle => ?_,
    fun ended => ?_⟩
  · exact ordinary running free (Lanes.urgent_eq_nil_of_next? idle)
  · have done := done ended
    have same : s.journal.executed = s.journal.accepted := by
      rw [order, show s.ticks.jobs = [] from done.none, List.append_nil]
    have last : s.journal.atLastSweep = some (s.journal.accepted, s.journal.executed) := done.last
    exact ⟨same, by rw [last, same]⟩

end Reached

/-- While the engine is brought up, two jobs are enqueued; a helper is started for them. -/
theorem jobs_in_order_ticking :
    let s := (plain ticking).bringUp
    s.loop = .running ∧ s.lock = .free ∧ s.ticks.jobs.map Work.tag = ["a", "b"] ∧
      (Message.drain ∈ s.lanes.urgent ∨ 0 < s.helpers) := by
  intro s
  have up : s.loop = .running := by decide +kernel
  have free : s.lock = .free := by decide +kernel
  have jobs : s.ticks.jobs.map Work.tag = ["a", "b"] := by decide +kernel
  have waiting : s.ticks.jobs ≠ [] := by
    intro none
    rw [none] at jobs
    cases jobs
  have prompt := Reached.jobs_in_order (plain_fresh ticking) up .broughtUp
  exact ⟨up, free, jobs, (prompt.2 free).1 up waiting⟩

/-- With an observer that keeps the lock, a job waits in an idle session for ever, and has not been
begun when the loop has ended. -/
theorem jobs_left_behind :
    (∃ s, Reached leaking .loop s ∧ s.loop = .running ∧ s.lanes.next?.isNone = true ∧
      s.ticks.jobs.map Work.tag = ["j"]) ∧
    (∃ s, Reached leaking .loop s ∧ s.loop = .ended ∧
      s.journal.accepted.map Work.tag = ["j"] ∧ s.journal.executed.map Work.tag = []) := by
  refine ⟨?_, ?_⟩
  · obtain ⟨s, r, found⟩ := @Fresh.scenario leaking 50 [.act (.tick .handle false "j" []), .run 0]
      (fun s => decide (s.loop = .running ∧ s.lanes.next?.isNone = true ∧
        s.ticks.jobs.map Work.tag = ["j"])) (earlySteps_fresh _ (plain_fresh _)) (by decide +kernel)
    exact ⟨s, r, of_decide_eq_true found⟩
  · obtain ⟨s, r, found⟩ := @Fresh.scenario leaking 50
      [.act (.tick .handle false "j" []), .act .shutdown]
      (fun s => decide (s.loop = .ended ∧ s.journal.accepted.map Work.tag = ["j"] ∧
        s.journal.executed.map Work.tag = []))
      (earlySteps_fresh _ (plain_fresh _)) (by decide +kernel)
    exact ⟨s, r, of_decide_eq_true found⟩

end Session
end ScriptHost
