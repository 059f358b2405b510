import ScriptHost.Proofs.Edits

/-!
# The stage of a session

A session consists of tables — custody, timers, listeners, requests, and the messages of the
ordinary lane — and of the stage on which they stand: its phase, its urgent lane, its next-tick
jobs, its lock and its log. Operations on the tables leave the stage alone, so code moves the stage
in a few ways only.

## Main definitions

* `Session.stage` — everything but the tables and what is of no consequence.
* `Stage.Stirred` — how code moves a stage.
* `Stage.fixed` — what code cannot move.

## Main statements

* `Session.stage_schedule`, `Session.stage_issue`, … — the operations on the tables.
* `Session.Deeds.stirred` — deeds stir the stage.
-/

namespace ScriptHost

/-- What stands around the tables of a session. -/
structure Stage where
  settings : Settings
  program : Program
  loop : Loop
  clock : Nat
  dropped : Bool
  /-- The timer that is firing. -/
  running : Option Nat
  /-- Whether readiness has been announced. -/
  told : Bool
  phase : Phase
  closed : Bool
  deserted : Bool
  urgent : List Message
  helpers : Nat
  ticks : TickQueue Work
  accepted : List Work
  executed : List Work
  atLastSweep : Option (List Work × List Work)
  lock : Lock Thread
  log : List Entry

namespace Stage

/-- Whether work is accepted. -/
def isLive (g : Stage) : Bool := g.phase.isLive && !g.closed

/-- A job has been accepted. -/
def accept (g : Stage) (job : Work) : Stage :=
  { g with ticks.jobs := g.ticks.jobs ++ [job], accepted := g.accepted ++ [job] }

/-- How code moves a stage. -/
inductive Stirred : Stage → Stage → Prop where
  | none (g : Stage) : Stirred g g
  | trans {g g' g'' : Stage} (d : Stirred g g') (e : Stirred g' g'') : Stirred g g''
  | noted (g : Stage) {entries : List Entry} (h : ∀ e ∈ entries, e.byCode = true) :
      Stirred g { g with log := entries ++ g.log }
  /-- A job comes while others wait or a drain is at work. -/
  | queued {g : Stage} (live : g.isLive = true) (busy : g.ticks.isIdle = false) (job : Work) :
      Stirred g (g.accept job)
  /-- A job comes and a helper is started. -/
  | helped {g : Stage} (live : g.isLive = true) (idle : g.ticks.isIdle = true) (job : Work) :
      Stirred g { g.accept job with helpers := g.helpers + 1 }
  /-- A job comes and a drain is posted, unless nobody takes messages any more. -/
  | posted {g : Stage} (live : g.isLive = true) (idle : g.ticks.isIdle = true) (job : Work) :
      Stirred g { g.accept job with
        urgent := if g.deserted then g.urgent else g.urgent ++ [.drain] }
  | paused {g : Stage} (ready : g.phase = .ready) : Stirred g { g with phase := .paused }
  | unpaused {g : Stage} (paused : g.phase = .paused) : Stirred g { g with phase := .ready }
  | shut {g : Stage} (live : g.isLive = true) :
      Stirred g { g with phase := .shuttingDown, closed := true }
  | guarded {g g' : Stage} (free : g.lock = .free) (thread : Thread)
      (body : Stirred { g with lock := ⟨some thread⟩ } g') : Stirred g { g' with lock := .free }
  | leaked {g : Stage} (free : g.lock = .free) (thread : Thread) :
      Stirred g { g with lock := ⟨some thread⟩ }

/-- What code cannot move. -/
def fixed (g : Stage) : Stage :=
  { g with
    phase := .created
    closed := false
    urgent := []
    helpers := 0
    ticks.jobs := []
    accepted := []
    lock := .free
    log := [] }

namespace Stirred

variable {g g' : Stage}

theorem fixed_eq (d : Stirred g g') : g'.fixed = g.fixed := by
  induction d with
  | trans _ _ ih ih' => exact ih'.trans ih
  | guarded _ _ _ ih => exact ih
  | _ => rfl

/-- No deed leads back to bring-up, and bring-up can only be left for shutdown. -/
theorem phase (d : Stirred g g') :
    (g'.phase = .initializing → g.phase = .initializing) ∧
      (g.phase = .initializing ∨ g.phase = .shuttingDown →
        g'.phase = .initializing ∨ g'.phase = .shuttingDown) := by
  induction d with
  | trans _ _ ih ih' => exact ⟨ih.1 ∘ ih'.1, ih'.2 ∘ ih.2⟩
  | paused ready => simp [ready]
  | unpaused paused => simp [paused]
  | shut _ => simp
  | guarded _ _ _ ih => exact ih
  | _ => exact ⟨id, id⟩

/-- Drains may join the urgent lane, and nothing leaves it. -/
theorem urgent (d : Stirred g g') : ∃ n, g'.urgent = g.urgent ++ List.replicate n .drain := by
  induction d with
  | trans _ _ ih ih' =>
    obtain ⟨n, h⟩ := ih
    obtain ⟨n', h'⟩ := ih'
    exact ⟨n + n', by rw [h', h, List.append_assoc, List.replicate_append_replicate]⟩
  | @posted g _ _ _ =>
    cases g.deserted with
    | true => exact ⟨0, by simp⟩
    | false => exact ⟨1, by simp⟩
  | guarded _ _ _ ih => exact ih
  | _ => exact ⟨0, by simp [accept]⟩

/-- While a session accepts work its queue is open. -/
theorem opened (d : Stirred g g') (h : g.phase.isLive = true → g.closed = false) :
    g'.phase.isLive = true → g'.closed = false := by
  induction d with
  | trans _ _ ih ih' => exact ih' (ih h)
  | paused ready => exact fun _ => h (by rw [ready]; rfl)
  | unpaused paused => exact fun _ => h (by rw [paused]; rfl)
  | shut _ => simp [Phase.isLive]
  | guarded _ _ _ ih => exact ih h
  | _ => exact h

/-- Only the holder of the lock releases it, so no code on the stage does. -/
theorem lock (d : Stirred g g') (held : g.lock ≠ .free) : g'.lock = g.lock := by
  induction d with
  | trans _ _ ih ih' => exact (ih' (ih held ▸ held)).trans (ih held)
  | guarded free _ _ _ => exact absurd free held
  | leaked free _ => exact absurd free held
  | _ => rfl

end Stirred

end Stage

namespace Session

variable {s t : Session}

/-- The stage on which a session is. -/
def stage (s : Session) : Stage where
  settings := s.settings
  program := s.program
  loop := s.loop
  clock := s.clock
  dropped := s.dropped
  running := s.timers.running
  told := s.readiness.ready
  phase := s.phase
  closed := s.lanes.closed
  deserted := s.lanes.deserted
  urgent := s.lanes.urgent
  helpers := s.helpers
  ticks := s.ticks
  accepted := s.journal.accepted
  executed := s.journal.executed
  atLastSweep := s.journal.atLastSweep
  lock := s.lock
  log := s.log

/-! ## Operations on the tables -/

theorem stage_adopt? {pairs : List Pair} (h : s.adopt? pairs = some t) : t.stage = s.stage := by
  obtain ⟨-, rfl⟩ := adopt?_eq_some.1 h
  rfl

theorem stage_post (s : Session) (m : Message) : (s.post m).2.stage = s.stage := by
  simp [stage, post]

theorem stage_arm (s : Session) (delay : Nat) (m : Message) :
    (s.arm delay m).2.stage = s.stage := by
  simp [stage, arm]

theorem stage_armSweep (s : Session) (periodic : Bool) : (s.armSweep periodic).stage = s.stage := by
  rcases armSweep_cases s periodic with h | h | ⟨-, h⟩ <;> rw [h]
  · rfl
  · exact stage_arm s _ _

theorem stage_withdraw (s : Session) (ticket : Option Nat) :
    (s.withdraw ticket).stage = s.stage := by
  rw [withdraw_eq]
  rfl

/-- Requests have the transport called, at most, and that is in the log. -/
theorem stage_requests (s : Session) : KeptByRequests fun t =>
    ∃ entries, (∀ e ∈ entries, e.isTransport = true) ∧
      t.stage = { s.stage with log := entries ++ s.log } where
  counted _ h := h
  held _ h := h
  errands _ h := h
  posted _ _ h := by
    rw [stage_post]
    exact h
  dropped _ h := h
  transported prepared h := by
    obtain ⟨entries, sent, eq⟩ := h
    refine ⟨.transport prepared :: entries, List.forall_mem_cons.2 ⟨rfl, sent⟩, ?_⟩
    exact congrArg (fun g : Stage => { g with log := .transport prepared :: g.log }) eq
  sent _ h := h
  issued _ h := h
  registered _ h := h
  buried _ h := h

theorem stage_schedule (s : Session) (door : Door) (pair : Pair) (delay : Nat) (recurring : Bool) :
    (s.schedule door pair delay recurring).2.stage = s.stage := by
  rcases schedule_cases s door pair delay recurring with h | ⟨t, -, adopted, h⟩ <;> rw [h]
  rw [← stage_adopt? adopted, ← stage_arm t delay (.fire t.timers.nextId)]
  rfl

theorem stage_cancel (s : Session) (door : Door) (id : Nat) :
    (s.cancel door id).2.stage = s.stage := by
  rcases cancel_cases s door id with h | ⟨timer, -, ⟨-, h⟩ | ⟨-, h⟩⟩ <;> rw [h]
  · rw [stage_armSweep, stage_withdraw]
    rfl
  · rw [stage_armSweep, bury, withdraw_eq]
    rfl

theorem stage_issue (s : Session) (door : Door) (noThreads : Bool) (order : Order) :
    ∃ entries, (∀ e ∈ entries, e.isTransport = true) ∧
      (s.issue door noThreads order).2.stage = { s.stage with log := entries ++ s.log } :=
  (stage_requests s).issue door noThreads order ⟨[], List.forall_mem_nil _, rfl⟩

theorem stage_release (s : Session) (key : String) :
    ∃ entries, (∀ e ∈ entries, e.isTransport = true) ∧
      (s.release key).2.stage = { s.stage with log := entries ++ s.log } :=
  (stage_requests s).release key ⟨[], List.forall_mem_nil _, rfl⟩

theorem stage_listen (s : Session) (door : Door) (event : String) (pair : Pair) :
    (s.listen door event pair).2.stage = s.stage := by
  rcases listen_cases s door event pair with h | ⟨t, -, adopted, h⟩ <;> rw [h]
  rw [← stage_adopt? adopted]
  rfl

theorem stage_unlisten (s : Session) (door : Door) (event : String) :
    (s.unlisten door event).2.stage = s.stage := by
  rcases unlisten_cases s door event with h | h | h <;> rw [h]
  · rfl
  · rw [stage_armSweep]
    rfl

/-! ## Operations that only post -/

theorem stage_emit (s : Session) (event : String) (value : Json.Value) :
    (s.emit event value).2.stage = s.stage := by
  unfold emit
  split
  · exact stage_post s _
  · rfl

theorem stage_registerModule (s : Session) (name : String) :
    (s.registerModule name).2.stage = s.stage := by
  unfold registerModule
  split
  · rfl
  split
  · exact stage_post s _
  · rfl

theorem stage_postWork (s : Session) (delay : Nat) (work : Work) :
    (s.postWork delay work).2.stage = s.stage := by
  unfold postWork
  split
  · rfl
  split
  · exact stage_post s _
  · exact stage_arm s delay _

theorem stage_sweepNow (s : Session) : s.sweepNow.2.stage = s.stage := by
  unfold sweepNow
  split
  · exact stage_post s _
  · rfl

theorem stage_ask (s : Session) (message : Nat → Message) :
    (s.ask message).2.stage = s.stage := by
  have posted := stage_post s (message s.nextQuery)
  unfold ask
  split
  · rfl
  · dsimp only
    split <;> next heq => rw [heq] at posted; exact posted

theorem stage_beginScript (s : Session) (key source name : String) :
    (s.beginScript key source name).2.stage = s.stage := by
  have asked : (s.askScript source name).2.stage = s.stage := stage_ask s _
  unfold beginScript
  split <;> next heq => rw [heq] at asked; exact asked

theorem stage_scriptResult (s : Session) (key : String) :
    (s.scriptResult key).2.stage = s.stage := by
  unfold scriptResult
  split
  · rfl
  split <;> rfl

theorem errands_scriptResult (s : Session) (key : String) :
    (s.scriptResult key).2.errands = s.errands := by
  unfold scriptResult
  split
  · rfl
  split <;> rfl

/-! ## Deeds -/

open Stage (Stirred)

theorem stage_postUrgent (h : s.lanes.closed = false) (m : Message) :
    (s.postUrgent m).2.stage = { s.stage with
      urgent := if s.lanes.deserted then s.lanes.urgent else s.lanes.urgent ++ [m] } := by
  cases deserted : s.lanes.deserted with
  | true => simp [stage, postUrgent, Lanes.postUrgent, Lanes.accepts, h, deserted]
  | false => simp [stage, postUrgent, Lanes.postUrgent, Lanes.accepts, h, deserted]

theorem stage_enqueue (s : Session) (door : Door) (thread : Thread) (noThreads : Bool)
    (job : Work) :
    Stirred s.stage (s.enqueue door thread noThreads job).2.stage := by
  rcases enqueue_cases s door thread noThreads job with h | ⟨live, ⟨busy, h⟩ | ⟨idle, h | h⟩⟩ <;>
    rw [h]
  · exact .none _
  · exact .queued (g := s.stage) live busy job
  · exact .helped (g := s.stage) live idle job
  · rw [stage_postUrgent (by exact lanes_open_of_isLive live)]
    exact .posted (g := s.stage) live idle job

theorem stage_beginShutdown (s : Session) (query : Option Nat) :
    Stirred s.stage (s.beginShutdown query).2.stage := by
  rcases beginShutdown_cases s query with h | ⟨live, ⟨-, h⟩ | ⟨-, h⟩⟩ <;> rw [h]
  · exact .none _
  · rw [withdrawSweep_eq]
    exact .shut (g := s.stage) live
  · rw [withdrawSweep_eq]
    exact .shut (g := s.stage) live

/-- Code stirs the stage, whatever it does to the tables. -/
theorem Deeds.stirred {thread : Thread} (d : Deeds thread s t) : Stirred s.stage t.stage := by
  have still : ∀ {s t : Session}, t.stage = s.stage → Stirred s.stage t.stage :=
    fun h => h ▸ .none _
  have sent : ∀ {s t : Session}, (∃ entries, (∀ e ∈ entries, e.isTransport = true) ∧
      t.stage = { s.stage with log := entries ++ s.log }) → Stirred s.stage t.stage := by
    rintro s t ⟨entries, sent, h⟩
    rw [h]
    exact .noted _ fun e mem => Entry.byCode_of_isTransport (sent e mem)
  induction d with
  | none s => exact .none _
  | trans _ _ ih ih' => exact ih.trans ih'
  | aside h =>
    obtain ⟨readiness, _, _, _, _, _, entries, code, told, rfl⟩ := h
    simp only [stage, told]
    exact .noted (Session.stage _) fun e mem => Entry.byCode_of_isAside (code e mem)
  | post s _ => exact still (stage_post s _)
  | arm s delay work => exact still (stage_arm s delay _)
  | schedule s door pair delay recurring => exact still (stage_schedule s door pair delay recurring)
  | cancel s door id => exact still (stage_cancel s door id)
  | enqueue s door noThreads job => exact stage_enqueue s door thread noThreads job
  | issue s door noThreads order => exact sent (stage_issue s door noThreads order)
  | release s key => exact sent (stage_release s key)
  | listen s door event pair => exact still (stage_listen s door event pair)
  | unlisten s door event => exact still (stage_unlisten s door event)
  | pause s =>
    rcases pause_cases s with h | ⟨ready, h⟩ <;> rw [h]
    · exact .none _
    · rw [withdrawSweep_eq]
      exact .paused (g := s.stage) ready
  | unpause s =>
    rcases unpause_cases s with h | ⟨paused, h⟩ <;> rw [h]
    · exact .none _
    · rw [stage_armSweep]
      exact .unpaused (g := s.stage) paused
  | shutdown s query => exact stage_beginShutdown s query
  | guarded take _ ih =>
    obtain ⟨-, free, rfl⟩ := takeLock_eq_ok.1 take
    exact .guarded (g := Session.stage _) free thread ih
  | leak take =>
    obtain ⟨-, free, rfl⟩ := takeLock_eq_ok.1 take
    exact .leaked (g := Session.stage _) free thread
  | called s callback before => exact still rfl

/-! ## What comes of being stirred -/

theorem Deeds.fixed_eq {thread : Thread} (d : Deeds thread s t) : t.stage.fixed = s.stage.fixed :=
  d.stirred.fixed_eq

theorem Deeds.loop {thread : Thread} (d : Deeds thread s t) : t.loop = s.loop :=
  congrArg Stage.loop d.fixed_eq

end Session
end ScriptHost
