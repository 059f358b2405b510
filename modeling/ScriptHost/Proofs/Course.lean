import ScriptHost.Proofs.Messages

/-!
# The course of a session

The states through which a session can go, from the moment its engine is brought up: the loop
handles messages, helpers drain, time passes, and the host acts. Whatever the host has done before
bring-up is part of where the course begins.

## Main definitions

* `Session.Fresh` — a session that is about to be brought up.
* `Session.engineStart` — how the engine itself comes up.
* `Session.Turn` — who is next between two messages.
* `Session.Reached` — the states between two messages.

## Main statements

* `Session.bringUp_ends` — the ways in which bring-up ends.
* `Session.Reached.announced` — the loop does not leave bring-up without telling the observers.
* `Session.Reached.invariant_down` — what holds of a session that has not come up.
* `Session.start_reached`, `Session.step_reached`, `Session.stepAll_reached` — a scenario goes
  through reached states only.

## Design notes

The course is more liberal than a scenario: helpers may get their turn, and the host may act,
between any two messages once readiness has been announced or given up, and time may pass at any
moment.
-/

namespace ScriptHost

/-- While work is accepted the queue is open; it is not deserted before the loop has ended, and
readiness is told before the loop leaves bring-up. -/
structure Stage.Sound (g : Stage) : Prop where
  opened : g.phase.isLive = true → g.closed = false
  taken : g.loop = .starting ∨ g.loop = .running → g.deserted = false

/-- Readiness waits to be announced as long as the loop runs in bring-up. -/
def Stage.Announced (g : Stage) : Prop :=
  g.loop = .running → g.phase = .initializing → Message.ready ∈ g.urgent

namespace Session

variable {o s t : Session}

/-! ## Before bring-up -/

/-- A new session is about to be brought up, and its lock is with the owning thread. -/
theorem spawn_eq_ok {isDirectory : String → Bool} {env : Locale.Environment} {settings : Settings}
    {program : Program} {modules : List String}
    (h : spawn isDirectory env settings program modules = .ok s) :
    let locale := Locale.capture settings.locale settings.timezone env
    s = { create settings locale program modules with lock := ⟨some .loop⟩ } := by
  simp only [spawn, bind, Except.bind] at h
  split at h
  · cases h
  · cases h
    rfl

/-- A session that is about to be brought up: the host may have taken steps already. -/
inductive Fresh : Session → Prop where
  | spawned {isDirectory : String → Bool} {env : Locale.Environment} {settings : Settings}
      {program : Program} {modules : List String} {s : Session}
      (h : spawn isDirectory env settings program modules = .ok s) : Fresh s
  | early {s : Session} (p : Fresh s) (h : HostStep) : Fresh (s.earlyStep h).2.2

theorem earlyStep_deeds (h : HostStep) (s : Session) : Deeds .host s (s.earlyStep h).2.2 := by
  cases h with
  | run ms => exact .none s
  | drop => exact .none s
  | act a =>
    unfold earlyStep
    dsimp only
    split
    · next ask asks => exact blockingAsk_deeds asks s
    · exact act_deeds a s

/-- What holds of a new session, whose lock is with the owning thread, and is kept by code holds of
a fresh session. -/
theorem Fresh.induct {P : Session → Prop} (p : Fresh o)
    (created : ∀ settings locale program modules,
      P { create settings locale program modules with lock := ⟨some .loop⟩ })
    (deeds : ∀ {s t}, Deeds .host s t → P s → P t) : P o := by
  induction p with
  | spawned h =>
    rw [spawn_eq_ok h]
    exact created ..
  | early _ h ih => exact deeds (earlyStep_deeds h _) ih

/-- Nothing is announced before bring-up. -/
theorem Fresh.untold (p : Fresh o) : o.stage.told = false :=
  p.induct (P := fun s => s.stage.told = false) (fun _ _ _ _ => rfl) fun d h =>
    (congrArg Stage.told d.fixed_eq).trans h

theorem earlySteps_fresh (steps : List HostStep) (p : Fresh o) :
    Fresh (o.earlySteps steps).2.2 := by
  induction steps generalizing o with
  | nil => exact p
  | cons h rest ih => exact ih (p.early h)

/-- A session with the default settings and without modules that is about to be brought up. -/
def plain (program : Program) : Session :=
  { create .default (Locale.capture none none ⟨none, none, none⟩) program [] with
    lock := ⟨some .loop⟩ }

theorem plain_fresh (program : Program) : Fresh (plain program) :=
  @Fresh.spawned (fun _ => false) ⟨none, none, none⟩ .default program [] _ rfl

/-- An engine that does this while it is brought up, and nothing behind it. -/
def starting (bringUp : List Action) : Program := { (default : Program) with bringUp }

/-! ## Between two messages -/

/-- Who is next. -/
inductive Turn where
  /-- The helpers, after bring-up, a message or an action of the host. -/
  | helpers
  /-- The loop. -/
  | loop
deriving DecidableEq

/-- Whether the host can act: while the loop runs, readiness has to be announced or given up. -/
def HeedsHost (s : Session) : Prop := s.loop = .running → s.helpersWait = false

/-- The states between two messages of a session that has been brought up. -/
inductive Reached (o : Session) : Turn → Session → Prop where
  | broughtUp : Reached o .helpers o.bringUp
  | handled {turn : Turn} {s t : Session} {m : Message} {lanes : Lanes Message} {bound : Nat}
      (r : Reached o turn s) (free : turn ≠ .helpers) (running : s.loop = .running)
      (next : s.lanes.next? = some (m, lanes)) (h : { s with lanes }.handle bound m = some t) :
      Reached o .helpers t
  | waited {s : Session} (r : Reached o .helpers s) (h : s.helpersWait = true) : Reached o .loop s
  | helped {turn : Turn} {s t : Session} {bound : Nat} (r : Reached o turn s)
      (h : s.runHelpers bound = some t) : Reached o .loop t
  | due {turn : Turn} {s : Session} (r : Reached o turn s) : Reached o turn s.deliverDue
  /-- Time passes; behind the end of the loop its reading is of no consequence. -/
  | passed {turn : Turn} {s : Session} (r : Reached o turn s) {clock : Nat}
      (h : s.loop = .running → s.clock ≤ clock) : Reached o turn { s with clock := clock }
  | acted {s : Session} (r : Reached o .loop s) (h : s.HeedsHost) (a : Action) :
      Reached o .helpers (s.act a).2
  | asked {s : Session} {a : Action} {ask : Session → Except Failure Nat × Session}
      (r : Reached o .loop s) (h : s.HeedsHost) (asks : blockingAsk a = some ask) :
      Reached o .loop (ask s).2
  | dropped {turn : Turn} {s : Session} (r : Reached o turn s) (h : s.isGone = true) :
      Reached o turn s.forsake

/-! ## Bring-up -/

/-- How the engine itself comes up, before it is given any module. -/
def engineStart (s : Session) : Outcome EngineFailure Unit × Session :=
  let s := s.note (.bringUp s.locale s.settings.density s.settings.formFactor)
  playScripted .loop s.program.bringUp s

theorem engineStart_deeds (s : Session) : Deeds .loop s s.engineStart.2 :=
  .trans (.aside (aside_note s (e := .bringUp ..) rfl)) (playScripted_deeds .loop _ _)

/-- A failure of the engine ends the session; behind anything else the session is left to itself or
the loop is entered. -/
theorem bringUp_ends (s : Session) :
    (∃ f, s.engineStart.1 = .failed f) ∧ s.bringUp = s.engineStart.2.unlock.abandon ∨
      (∀ f, s.engineStart.1 ≠ .failed f) ∧
        ∃ u, Deeds .loop s u ∧ (s.bringUp = u.unlock.crash ∨ s.bringUp = u.unlock.enterLoop) := by
  have started := engineStart_deeds s
  unfold bringUp
  unfold engineStart at started ⊢
  dsimp only at started ⊢
  generalize playScripted .loop _ (s.note _) = r at started ⊢
  obtain ⟨result, t⟩ := r
  cases result with
  | failed f => exact .inl ⟨⟨f, rfl⟩, rfl⟩
  | panicked => exact .inr ⟨by simp, t, started, .inl rfl⟩
  | ok _ =>
    refine .inr ⟨by simp, t.loadAll.2, started.trans (loadAll_deeds t), ?_⟩
    dsimp only
    split
    · next heq =>
      rw [heq]
      exact .inr rfl
    · next heq =>
      rw [heq]
      exact .inl rfl

theorem bringUp_cases (s : Session) :
    ∃ u, Deeds .loop s u ∧
      (s.bringUp = u.unlock.abandon ∨ s.bringUp = u.unlock.crash ∨
        s.bringUp = u.unlock.enterLoop) := by
  rcases bringUp_ends s with ⟨-, h⟩ | ⟨-, u, d, h⟩
  · exact ⟨_, engineStart_deeds s, .inl h⟩
  · exact ⟨u, d, .inr h⟩

theorem bringUp_failed {f : EngineFailure} (failed : s.engineStart.1 = .failed f) :
    s.bringUp = s.engineStart.2.unlock.abandon := by
  rcases bringUp_ends s with ⟨-, h⟩ | ⟨other, -⟩
  · exact h
  · exact absurd failed (other f)

/-- If bring-up does not succeed and the engine has not failed, something has panicked. -/
theorem bringUp_panicked (survived : ∀ f, s.engineStart.1 ≠ .failed f)
    (down : s.bringUp.loop ≠ .running) :
    ∃ u, Deeds .loop s u ∧ s.bringUp = u.unlock.crash := by
  rcases bringUp_ends s with ⟨⟨f, failed⟩, -⟩ | ⟨-, u, d, h | h⟩
  · exact absurd failed (survived f)
  · exact ⟨u, d, h⟩
  · rw [h] at down
    exact absurd rfl down

/-- If bring-up succeeds the loop is entered behind it. -/
theorem bringUp_running (up : s.bringUp.loop = .running) :
    ∃ u, Deeds .loop s u ∧ s.bringUp = u.unlock.enterLoop := by
  obtain ⟨u, d, h⟩ := bringUp_cases s
  rcases h with h | h | h
  · rw [h] at up
    cases up
  · rw [h] at up
    cases up
  · exact ⟨u, d, h⟩

theorem stage_enterLoop (h : s.lanes.deserted = false) :
    s.enterLoop.stage = { s.stage with
      urgent := if s.lanes.closed then s.lanes.urgent else s.lanes.urgent ++ [.ready]
      loop := .running } := by
  have armed : s.enterLoop.stage =
      { ((s.postUrgent .ready).2.armSweep true).stage with loop := .running } := rfl
  rw [armed, stage_armSweep]
  cases closed : s.lanes.closed with
  | true => simp [stage, postUrgent, Lanes.postUrgent, Lanes.accepts, closed]
  | false => simp [stage, postUrgent, Lanes.postUrgent, Lanes.accepts, closed, h]

/-! ## The queue and the phase -/

theorem sound_kept : KeptByDrains fun s => s.stage.Sound where
  deeds d h := by
    have deserted := congrArg Stage.deserted d.fixed_eq
    refine ⟨d.stirred.opened h.opened, fun taken => deserted.trans (h.taken ?_)⟩
    exact taken.imp d.loop.symm.trans d.loop.symm.trans
  lock _ h := ⟨h.opened, h.taken⟩
  ready _ initializing h := ⟨fun _ => h.opened (congrArg Phase.isLive initializing), h.taken⟩
  ticks _ h := ⟨h.opened, h.taken⟩
  helpers _ h := ⟨h.opened, h.taken⟩
  begun _ _ h := ⟨h.opened, h.taken⟩

theorem announced_kept : KeptByDrains fun s => s.stage.Announced where
  deeds d h := by
    intro running initializing
    obtain ⟨n, urgent⟩ := d.stirred.urgent
    have told := h (d.loop.symm.trans running) (d.stirred.phase.1 initializing)
    rw [urgent]
    exact List.mem_append_left _ told
  lock _ h := h
  ready _ _ _ := by
    intro _ initializing
    cases initializing
  ticks _ h := h
  helpers _ h := h
  begun _ _ h := h

theorem left_kept : KeptByDrains fun s => s.phase ≠ .initializing where
  deeds d h := mt d.stirred.phase.1 h
  lock _ h := h
  ready _ _ _ := by simp
  ticks _ h := h
  helpers _ h := h
  begun _ _ h := h

theorem becomeReady_phase (s : Session) : s.becomeReady.phase ≠ .initializing := by
  unfold becomeReady
  split
  · assumption
  · exact left_kept.tell _ (by simp)

theorem Fresh.stage (p : Fresh o) : o.loop = .starting ∧ o.stage.Sound := by
  refine p.induct (P := fun s => s.loop = .starting ∧ s.stage.Sound) (fun _ _ _ _ => ?_) ?_
  · exact ⟨rfl, fun _ => rfl, fun _ => rfl⟩
  · intro s t d h
    exact ⟨d.loop.trans h.1, sound_kept.deeds d h.2⟩

theorem Fresh.broughtUp (p : Fresh o) : o.bringUp.stage.Sound ∧ o.bringUp.stage.Announced := by
  obtain ⟨starting, sound⟩ := p.stage
  obtain ⟨u, d, h⟩ := bringUp_cases o
  have loop : u.loop = .starting := d.loop.trans starting
  have sound : u.stage.Sound := sound_kept.deeds d sound
  rcases h with h | h | h
  · rw [h]
    exact ⟨⟨nofun, by rintro (h | h) <;> cases h⟩, nofun⟩
  · rw [h]
    exact ⟨⟨sound.opened, by rintro (h | h) <;> cases h⟩, nofun⟩
  · have taken : u.lanes.deserted = false := sound.taken (.inl loop)
    rw [h, stage_enterLoop (by exact taken)]
    refine ⟨⟨sound.opened, fun _ => taken⟩, fun _ initializing => ?_⟩
    have opened : u.lanes.closed = false := sound.opened (congrArg Phase.isLive initializing)
    simp [unlock, opened]

/-- A message that has been taken leaves the stage as it is, but for the urgent lane. -/
theorem taken_sound {m : Message} {lanes : Lanes Message} (next : s.lanes.next? = some (m, lanes))
    (h : s.stage.Sound) : ({ s with lanes } : Session).stage.Sound := by
  rcases Lanes.next?_cases next with ⟨urgent, -, rfl⟩ | ⟨-, ordinary, -, rfl⟩
  · exact ⟨h.opened, h.taken⟩
  · exact ⟨h.opened, h.taken⟩

theorem handle_sound {bound : Nat} {m : Message} (h : s.stage.Sound)
    (d : s.handle bound m = some t) : t.stage.Sound := by
  refine sound_kept.toKept.handle (fun _ h => ⟨h.opened, h.taken⟩)
    (fun _ h => ⟨h.opened, h.taken⟩) (fun query _ d => ?_) (fun _ => sound_kept.drain h) h d
  obtain ⟨phase, loop, -⟩ := terminate_stage d
  refine ⟨fun live => ?_, fun taken => ?_⟩
  · simp [stage, phase, Phase.isLive] at live
  · simp [stage, loop] at taken

theorem handle_announced {bound : Nat} {m : Message} {lanes : Lanes Message}
    (next : s.lanes.next? = some (m, lanes)) (h : s.stage.Announced)
    (d : { s with lanes }.handle bound m = some t) : t.stage.Announced := by
  -- Only the message that announces readiness takes it from the urgent lane.
  by_cases ready : m = .ready
  · subst ready
    cases d
    exact fun _ initializing => absurd initializing (becomeReady_phase _)
  have taken : ({ s with lanes } : Session).stage.Announced := by
    intro running initializing
    have told := h running initializing
    rcases Lanes.next?_cases next with ⟨urgent, heq, rfl⟩ | ⟨-, ordinary, -, rfl⟩
    · rw [show s.stage.urgent = m :: urgent from heq] at told
      exact (List.mem_cons.1 told).resolve_left (Ne.symm ready)
    · exact told
  refine announced_kept.toKept.handle (fun _ h => h) (fun _ h => h) (fun query _ d running => ?_)
    (fun _ => announced_kept.drain taken) taken d
  cases (terminate_stage d).2.1.symm.trans running

/-- No message leads back to bring-up. -/
theorem handle_left {bound : Nat} {m : Message} (left : s.phase ≠ .initializing)
    (d : s.handle bound m = some t) : t.phase ≠ .initializing := by
  refine Kept.handle (Q := fun g => g.phase ≠ .initializing) left_kept.toKept (fun _ h => h)
    (fun _ h => h) (fun query _ d => ?_) (fun _ => left_kept.drain left) left d
  simp [stage, (terminate_stage d).1]

/-! ## Invariants -/

/-- What the course of a session keeps between messages: whatever the host does, whoever drains, and
however time passes. -/
structure Steady (P : Session → Prop) : Prop where
  deeds : ∀ {s t}, Deeds .host s t → P s → P t
  helped : ∀ {s t bound}, P s → s.runHelpers bound = some t → P t
  due : ∀ {s}, P s → P s.deliverDue
  passed : ∀ {s} clock, P s → P { s with clock := clock }
  dropped : ∀ {s : Session}, P s → P s.forsake

/-- What jobs keep of the stage is kept between messages, if it depends neither on the clock nor on
the handles. -/
theorem KeptByJobs.steady {Q : Stage → Prop} (k : KeptByJobs fun s => Q s.stage)
    (passed : ∀ {g} clock, Q g → Q { g with clock := clock })
    (dropped : ∀ {g}, Q g → Q { g with dropped := true }) : Steady fun s => Q s.stage where
  deeds := k.deeds
  helped := k.runHelpers
  due h := h
  passed clock h := passed clock h
  dropped h := dropped h

namespace Reached

variable {turn : Turn} {P : Session → Prop}

/-- What the course keeps between messages, and each message keeps, holds throughout. -/
theorem invariant (steady : Steady P) (broughtUp : P o.bringUp)
    (handled : ∀ {s t : Session} {m : Message} {lanes : Lanes Message} {bound : Nat}, P s →
      s.lanes.next? = some (m, lanes) → { s with lanes }.handle bound m = some t → P t)
    (r : Reached o turn s) : P s := by
  induction r with
  | broughtUp => exact broughtUp
  | handled _ _ _ next h ih => exact handled ih next h
  | waited _ _ ih => exact ih
  | helped _ h ih => exact steady.helped ih h
  | due _ ih => exact steady.due ih
  | passed _ _ ih => exact steady.passed _ ih
  | acted _ _ a ih => exact steady.deeds (act_deeds a _) ih
  | asked _ _ asks ih => exact steady.deeds (blockingAsk_deeds asks _) ih
  | dropped _ _ ih => exact steady.dropped ih

/-- As long as the loop runs, the last message need not keep it. -/
theorem invariant_running (steady : Steady P) (broughtUp : o.bringUp.loop = .running → P o.bringUp)
    (handled : ∀ {s t : Session} {m : Message} {lanes : Lanes Message} {bound : Nat}, P s →
      (∀ query, m ≠ .shutdown query) → s.lanes.next? = some (m, lanes) →
        { s with lanes }.handle bound m = some t → P t)
    (r : Reached o turn s) (running : s.loop = .running) : P s := by
  induction r with
  | broughtUp => exact broughtUp running
  | @handled turn s t m lanes bound _ _ before next h ih =>
    refine handled (ih before) (fun query last => ?_) next h
    subst last
    cases (terminate_stage h).2.1.symm.trans running
  | waited _ _ ih => exact ih running
  | helped _ h ih => exact steady.helped (ih ((runHelpers_loop h).symm.trans running)) h
  | due _ ih => exact steady.due (ih running)
  | passed _ _ ih => exact steady.passed _ (ih running)
  | @acted s _ _ a ih =>
    have d := act_deeds a s
    exact steady.deeds d (ih (d.loop.symm.trans running))
  | @asked s a ask _ _ asks ih =>
    have d := blockingAsk_deeds asks s
    exact steady.deeds d (ih (d.loop.symm.trans running))
  | dropped _ _ ih => exact steady.dropped (ih running)

/-- A session that has not come up handles no message, so everything else has to keep it only. -/
theorem invariant_down (steady : Steady P) (broughtUp : P o.bringUp)
    (down : o.bringUp.loop ≠ .running) (r : Reached o turn s) :
    P s ∧ s.loop = o.bringUp.loop := by
  induction r with
  | broughtUp => exact ⟨broughtUp, rfl⟩
  | handled _ _ running _ _ ih => exact absurd (ih.2.symm.trans running) down
  | waited _ _ ih => exact ih
  | helped _ h ih => exact ⟨steady.helped ih.1 h, (runHelpers_loop h).trans ih.2⟩
  | due _ ih => exact ⟨steady.due ih.1, ih.2⟩
  | passed _ _ ih => exact ⟨steady.passed _ ih.1, ih.2⟩
  | @acted s _ _ a ih =>
    have d := act_deeds a s
    exact ⟨steady.deeds d ih.1, d.loop.trans ih.2⟩
  | @asked s a ask _ _ asks ih =>
    have d := blockingAsk_deeds asks s
    exact ⟨steady.deeds d ih.1, d.loop.trans ih.2⟩
  | dropped _ _ ih => exact ⟨steady.dropped ih.1, ih.2⟩

theorem sound (p : Fresh o) (r : Reached o turn s) : s.stage.Sound :=
  r.invariant (P := fun s => s.stage.Sound)
    (sound_kept.steady (fun _ h => ⟨h.opened, h.taken⟩) fun h => ⟨h.opened, h.taken⟩)
    p.broughtUp.1 fun h next d => handle_sound (taken_sound next h) d

theorem announced (p : Fresh o) (r : Reached o turn s) : s.stage.Announced :=
  r.invariant (P := fun s => s.stage.Announced) (announced_kept.steady (fun _ h => h) fun h => h)
    p.broughtUp.2 fun h next d => handle_announced next h d

end Reached

/-! ## Scenarios -/

/-- The loop has nothing to do at the present instant. -/
structure Settled (s : Session) : Prop where
  idle : s.loop = .running → s.lanes.next? = none
  later : s.loop = .running → ∀ due, s.lanes.nextDue? = some due → s.clock < due

/-- What follows on a message: helpers drain, unless they have to wait, and the loop goes on. -/
def follow (bound : Nat) (s : Session) : Option Session :=
  if s.helpersWait then s.settle bound else (s.runHelpers bound).bind (settle bound)

theorem follow_cases {bound : Nat} (h : s.follow bound = some t) :
    ∃ u, (s.helpersWait = true ∧ u = s ∨
      s.helpersWait = false ∧ s.runHelpers bound = some u) ∧ u.settle bound = some t := by
  unfold follow at h
  split at h
  · next waits => exact ⟨s, .inl ⟨waits, rfl⟩, h⟩
  · next heeds =>
    obtain ⟨u, helped, h⟩ := Option.bind_eq_some_iff.1 h
    exact ⟨u, .inr ⟨by simpa using heeds, helped⟩, h⟩

theorem settle_succ (bound : Nat) (s : Session) : s.settle (bound + 1) =
    if s.loop ≠ .running then some s
    else
      match s.lanes.next? with
      | some (message, lanes) => ({ s with lanes }.handle bound message).bind (follow bound)
      | none =>
        match s.lanes.nextDue? with
        | some due => if due ≤ s.clock then settle bound s.deliverDue else some s
        | none => some s := rfl

/-- Bring-up, what follows on it, and the helpers that are left. -/
theorem start_eq (bound : Nat) (s : Session) :
    s.start bound = (s.bringUp.follow bound).bind (runHelpers bound) := by
  simp only [start, follow, Option.bind_eq_bind]
  split
  · rfl
  · rw [Option.bind_assoc]

theorem settle_reached {bound : Nat} (r : Reached o .loop s) (h : s.settle bound = some t) :
    Reached o .loop t ∧ t.Settled ∧ t.clock = s.clock := by
  -- By induction on the bound, one message or one instant at a time.
  induction bound generalizing s with
  | zero => cases h
  | succ bound ih =>
    rw [settle_succ] at h
    split at h
    · next ended =>
      cases h
      exact ⟨r, ⟨fun h => absurd h ended, fun h => absurd h ended⟩, rfl⟩
    next running =>
    have running := Decidable.not_not.1 running
    split at h
    · next m lanes next =>
      obtain ⟨u, handled, followed⟩ := Option.bind_eq_some_iff.1 h
      have clock : u.clock = s.clock := (handle_clock handled).trans rfl
      have r := r.handled (by decide) running next handled
      obtain ⟨v, first, h⟩ := follow_cases followed
      rcases first with ⟨waits, rfl⟩ | ⟨-, helped⟩
      · -- In bring-up the helpers have to wait, and the loop goes on without them.
        obtain ⟨r, settled, clock'⟩ := ih (r.waited waits) h
        exact ⟨r, settled, clock'.trans clock⟩
      · have clock'' : v.clock = u.clock := congrArg Stage.clock (runHelpers_scene helped)
        obtain ⟨r, settled, clock'⟩ := ih (r.helped helped) h
        exact ⟨r, settled, clock'.trans (clock''.trans clock)⟩
    · next next =>
      split at h
      · next due heq =>
        split at h
        · obtain ⟨reached, settled, clock⟩ := ih r.due h
          exact ⟨reached, settled, clock⟩
        · next later =>
          cases h
          refine ⟨r, ⟨fun _ => next, fun _ due' heq' => ?_⟩, rfl⟩
          rw [heq] at heq'
          cases heq'
          omega
      · next heq =>
        cases h
        refine ⟨r, ⟨fun _ => next, fun _ due heq' => ?_⟩, rfl⟩
        rw [heq] at heq'
        cases heq'

theorem runTo_reached {bound target : Nat} (r : Reached o .loop s) (early : s.clock ≤ target)
    (h : s.runTo bound target = some t) :
    Reached o .loop t ∧ (t.loop = .running → t.lanes.next? = none) := by
  induction bound generalizing s with
  | zero => cases h
  | succ bound ih =>
    simp only [runTo, Option.bind_eq_bind, Option.bind_eq_some_iff] at h
    obtain ⟨u, settle, h⟩ := h
    obtain ⟨r, settled, clock⟩ := settle_reached r settle
    split at h
    · cases h
      exact ⟨r, settled.idle⟩
    next running =>
    have running := Decidable.not_not.1 running
    have passed : Reached o .loop { u with clock := target } := r.passed fun _ => by omega
    split at h
    · next due heq =>
      have later := settled.later running due heq
      split at h
      · next near => exact ih (r.passed fun _ => by omega).due near h
      · cases h
        exact ⟨passed, settled.idle⟩
    · cases h
      exact ⟨passed, settled.idle⟩

/-- Where the loop has nothing to do, it has left bring-up. -/
theorem Reached.heedsHost {turn : Turn} (p : Fresh o) (r : Reached o turn s)
    (idle : s.loop = .running → s.lanes.next? = none) : s.HeedsHost := by
  intro running
  by_cases initializing : s.phase = .initializing
  · have told := r.announced p running initializing
    rw [show s.stage.urgent = [] from Lanes.urgent_eq_nil_of_next? (idle running)] at told
    cases told
  · simpa [helpersWait] using initializing

theorem run_reached {bound ms : Nat} (p : Fresh o) (r : Reached o .loop s)
    (h : s.run bound ms = some t) : Reached o .loop t ∧ t.HeedsHost := by
  unfold run at h
  split at h
  · next ended =>
    cases h
    exact ⟨r, fun running => absurd running ended⟩
  · simp only [Option.bind_eq_bind, Option.bind_eq_some_iff] at h
    obtain ⟨u, ran, h⟩ := h
    obtain ⟨r, idle⟩ := runTo_reached r.due (by exact Nat.le_add_right ..) ran
    cases h
    split
    · exact ⟨r, r.heedsHost p idle⟩
    · next ended =>
      exact ⟨r.passed fun running => absurd running ended, fun running => absurd running ended⟩

/-- What keeps out of bring-up does so on the same stage. -/
theorem HeedsHost.of_kept (h : s.HeedsHost) (loop : t.loop = s.loop)
    (left : s.phase ≠ .initializing → t.phase ≠ .initializing) : t.HeedsHost := by
  intro running
  have waits := h (loop.symm.trans running)
  simp only [helpersWait, decide_eq_false_iff_not] at waits ⊢
  exact left waits

theorem runHelpers_heedsHost {bound : Nat} (h : s.HeedsHost) (d : s.runHelpers bound = some t) :
    t.HeedsHost :=
  h.of_kept (runHelpers_loop d) fun left => left_kept.runHelpers left d

theorem deeds_heedsHost {thread : Thread} (h : s.HeedsHost) (d : Deeds thread s t) : t.HeedsHost :=
  h.of_kept d.loop (left_kept.deeds d)

/-- What bring-up and the first instant lead to. -/
theorem start_reached {bound : Nat} (p : Fresh o) (h : o.start bound = some t) :
    Reached o .loop t ∧ t.HeedsHost := by
  rw [start_eq] at h
  obtain ⟨v, followed, h⟩ := Option.bind_eq_some_iff.1 h
  -- Helpers that were started in bring-up are first, unless readiness is to be announced.
  obtain ⟨u, up, settle⟩ := follow_cases followed
  have r : Reached o .loop u := by
    rcases up with ⟨waits, rfl⟩ | ⟨-, helped⟩
    · exact Reached.broughtUp.waited waits
    · exact Reached.broughtUp.helped helped
  obtain ⟨r, settled, -⟩ := settle_reached r settle
  exact ⟨r.helped h, runHelpers_heedsHost (r.heedsHost p settled.idle) h⟩

theorem step_reached {bound : Nat} {step : HostStep} {reply : Reply} (p : Fresh o)
    (r : Reached o .loop s) (heeds : s.HeedsHost) (h : s.step bound step = some (reply, t)) :
    Reached o .loop t ∧ t.HeedsHost := by
  cases step with
  | run ms =>
    simp only [Session.step, Option.bind_eq_bind, Option.bind_eq_some_iff] at h
    obtain ⟨u, ran, h⟩ := h
    cases h
    exact run_reached p r ran
  | drop =>
    cases h
    cases gone : s.isGone with
    | false => simpa using ⟨r, heeds⟩
    | true => simpa using ⟨r.dropped gone, heeds⟩
  | act a =>
    unfold Session.step at h
    dsimp only at h
    split at h
    · next ask asks =>
      have r := r.asked heeds asks
      have heeds := deeds_heedsHost heeds (blockingAsk_deeds asks s)
      split at h
      · next heq =>
        rw [heq] at r heeds
        simp only [Option.bind_eq_bind, Option.bind_eq_some_iff] at h
        obtain ⟨u, ran, h⟩ := h
        cases h
        exact run_reached p r ran
      · next heq =>
        rw [heq] at r heeds
        cases h
        exact ⟨r, heeds⟩
    · simp only [Option.bind_eq_bind, Option.bind_eq_some_iff] at h
      obtain ⟨u, helped, h⟩ := h
      cases h
      have heeds' := deeds_heedsHost heeds (act_deeds a s)
      exact ⟨(r.acted heeds a).helped helped, runHelpers_heedsHost heeds' helped⟩

/-- A scenario ends in a state that is reached, and so does each of its parts. -/
theorem stepAll_reached {bound : Nat} {steps : List HostStep} {reports : List Report} (p : Fresh o)
    (r : Reached o .loop s) (heeds : s.HeedsHost) (h : s.stepAll bound steps = some (reports, t)) :
    Reached o .loop t := by
  induction steps generalizing s reports with
  | nil =>
    cases h
    exact r
  | cons step rest ih =>
    simp only [stepAll, Option.bind_eq_bind, Option.bind_eq_some_iff] at h
    obtain ⟨⟨reply, u⟩, stepped, ⟨others, v⟩, h, heq⟩ := h
    cases heq
    obtain ⟨r, heeds⟩ := step_reached p r heeds stepped
    exact ih r heeds h

/-- What is found at the end of a scenario is found in a state that is reached. -/
theorem Fresh.scenario {bound : Nat} {steps : List HostStep} {found : Session → Bool} (p : Fresh o)
    (h : ((o.start bound).bind fun s => s.stepAll bound steps).any (found ·.2) = true) :
    ∃ s, Reached o .loop s ∧ found s = true := by
  obtain ⟨⟨reports, s⟩, played, found⟩ := (Option.any_eq_true _ _).1 h
  obtain ⟨u, started, played⟩ := Option.bind_eq_some_iff.1 played
  obtain ⟨r, heeds⟩ := start_reached p started
  exact ⟨s, stepAll_reached p r heeds played, found⟩

end Session
end ScriptHost
