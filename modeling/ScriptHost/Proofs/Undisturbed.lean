import ScriptHost.Proofs.Contained

/-!
# The loop goes on

Whatever the loop does behind a piece of code — a timer is armed again or retired, pairs are buried,
the next listener is invoked, the next batch of jobs is taken, the next message is handled — it does
however the code ends: the loop does to the mended session what it does to the session.

## Main definitions

* `Throughout` — whatever result there is, is spoilt.

## Main statements

* `Alike.bind` — what may run out of its bound leads from alike to alike.
* `Session.drain_mend`, `Session.runHelpers_mend` — drains.
* `Session.handle_mend` — messages.
* `Session.settle_mend`, `Session.run_mend` — runs of the loop.
-/

namespace ScriptHost

section
variable {β γ : Type} {spoilt : β → Prop} {spoilt' : γ → Prop}

/-- Whatever result there is, is spoilt. -/
def Throughout (spoilt : β → Prop) (x : Option β) : Prop := ∀ b ∈ x, spoilt b

namespace Throughout

theorem map {x : Option β} (h : Throughout spoilt x) {f : β → γ}
    (spoils : ∀ b, spoilt b → spoilt' (f b)) : Throughout spoilt' (x.map f) := by
  intro c mem
  obtain ⟨b, found, rfl⟩ := Option.map_eq_some_iff.1 mem
  exact spoils b (h b found)

theorem bind {x : Option β} (h : Throughout spoilt x) {k : β → Option γ}
    (spoils : ∀ b, spoilt b → Throughout spoilt' (k b)) : Throughout spoilt' (x.bind k) := by
  intro c mem
  obtain ⟨b, found, mem⟩ := Option.bind_eq_some_iff.1 mem
  exact spoils b (h b found) c mem

end Throughout

namespace Alike

/-- Alike results are still alike behind alike continuations that spoil nothing less. -/
theorem bind {x y : Option β} {φ : β → β} {ψ : γ → γ} {k k' : β → Option γ}
    (h : Alike (Throughout spoilt) y (x.map φ))
    (spoils : ∀ b, spoilt b → Throughout spoilt' (k' b))
    (next : ∀ b, Alike (Throughout spoilt') (k' (φ b)) ((k b).map ψ)) :
    Alike (Throughout spoilt') (y.bind k') ((x.bind k).map ψ) := by
  have bound : Alike (Throughout spoilt') (y.bind k') ((x.map φ).bind k') := by
    exact h.congr (·.bind k') fun _ all => all.bind spoils
  cases x with
  | none => exact bound
  | some b => exact bound.trans (next b)

/-- What is done to whatever result there is. -/
theorem map {x y : Option β} {φ : β → β} {ψ : γ → γ} {f f' : β → γ}
    (h : Alike (Throughout spoilt) y (x.map φ)) (spoils : ∀ b, spoilt b → spoilt' (f' b))
    (next : ∀ b, f' (φ b) = ψ (f b)) :
    Alike (Throughout spoilt') (y.map f') ((x.map f).map ψ) := by
  have done := h.congr (Option.map f') fun _ all => all.map spoils
  rwa [Option.map_map, show f' ∘ φ = ψ ∘ f from funext next, ← Option.map_map] at done

theorem some {x y : β} (h : Alike spoilt x y) :
    Alike (Throughout spoilt) (Option.some x) (Option.some y) :=
  h.congr Option.some fun _ bad _ mem => by
    cases mem
    exact bad

end Alike

end

namespace Session

variable (chosen : Invocations)

/-! ## Code under the execution lock -/

theorem engaged_mend (f f' : Session → Session)
    (h : ∀ s, Alike (Exposed chosen) (f' (s.mend chosen)) ((f s).mend chosen)) (s : Session) :
    Alike (Exposed chosen) ((s.mend chosen).engaged f') ((s.engaged f).mend chosen) := by
  unfold engaged
  rw [mend_lock]
  split
  · exact (h { s with lock := ⟨some .loop⟩ }).congr unlock fun _ exposed => exposed
  · exact .refl _

theorem withEngine_mend (f f' : Session → Session)
    (h : ∀ s, Alike (Exposed chosen) (f' (s.mend chosen)) ((f s).mend chosen)) (s : Session) :
    Alike (Throughout (Exposed chosen)) ((s.mend chosen).withEngine f')
      ((s.withEngine f).map (mend chosen)) := by
  rw [withEngine_eq, withEngine_eq, show (s.mend chosen).isKeptOut = s.isKeptOut from rfl]
  split
  · exact .refl _
  · exact (engaged_mend chosen f f' h s).some

theorem withEngineResult_mend {f : Session → Outcome EngineFailure Json.Value × Session}
    (h : ∀ s, Alike (ExposedIn chosen) (f (s.mend chosen)) (Prod.map id (mend chosen) (f s)))
    (what : String) (s : Session) :
    Alike (Throughout (ExposedIn chosen)) ((s.mend chosen).withEngineResult what f)
      ((s.withEngineResult what f).map (Prod.map id (mend chosen))) := by
  have engaged : Alike (ExposedIn chosen) ((s.mend chosen).engagedResult what f)
      (Prod.map id (mend chosen) (s.engagedResult what f)) := by
    unfold engagedResult
    dsimp only
    rw [mend_lock]
    split
    · let lost : EngineFailure := .script ("'" ++ what ++ "' panicked")
      exact (h { s with lock := ⟨some .loop⟩ }).congr
        (Prod.map (fun result => (result.contain lost).mapError Failure.engine) unlock)
        fun _ exposed => exposed
    · exact .refl _
  rw [withEngineResult_eq, withEngineResult_eq,
    show (s.mend chosen).isKeptOut = s.isKeptOut from rfl]
  split
  · exact .refl _
  · exact engaged.some

theorem foldl_mend {β : Type} (φ : β → β) {f f' : Session → β → Session}
    (spoils : ∀ s b, s.Exposed chosen → (f' s b).Exposed chosen)
    (next : ∀ s b, Alike (Exposed chosen) (f' (s.mend chosen) (φ b)) ((f s b).mend chosen))
    (l : List β) (s : Session) :
    Alike (Exposed chosen) ((l.map φ).foldl f' (s.mend chosen)) ((l.foldl f s).mend chosen) := by
  induction l generalizing s with
  | nil => exact .refl _
  | cons b rest ih =>
    have still : ∀ (l : List β) (s : Session), s.Exposed chosen →
        (l.foldl f' s).Exposed chosen := by
      intro l
      induction l with
      | nil => exact fun _ exposed => exposed
      | cons b rest ih => exact fun s exposed => ih _ (spoils s b exposed)
    exact ((next s b).congr (fun s => (rest.map φ).foldl f' s) (still _)).trans (ih (f s b))

/-! ## Draining -/

theorem runJob_mend (thread : Thread) (job : Work) (s : Session) :
    Alike (Exposed chosen) ((s.mend chosen).runJob thread job.mend)
      ((s.runJob thread job).mend chosen) :=
  runWork_mend engineAccess_deeds (engineAccess_mend chosen) thread (.job job.tag thread) job
    (s.record (.executed job))

theorem exposed_kept : KeptByDrains (Exposed chosen) where
  deeds d h := d.recorded.exposed h
  lock _ h := h
  ready _ _ h := h
  ticks _ h := h
  helpers _ h := h
  begun _ _ h := (Recorded.more rfl).exposed h

theorem drainFrom_mend (bound executed : Nat) (thread : Thread) (s : Session) :
    Alike (Throughout (ExposedIn chosen)) ((s.mend chosen).drainFrom bound executed thread)
      ((s.drainFrom bound executed thread).map (Prod.map id (mend chosen))) := by
  induction bound generalizing executed s with
  | zero => exact .refl _
  | succ bound ih =>
    have looked : (s.ticks.map Work.mend).look = s.ticks.look.map Work.mend := by
      simp [TickQueue.look, TickQueue.map]
    have none : (s.ticks.look.map Work.mend).jobs.isEmpty = s.ticks.look.jobs.isEmpty := by
      simp [TickQueue.map]
    have length : (s.ticks.look.map Work.mend).jobs.length = s.ticks.look.jobs.length :=
      List.length_map ..
    unfold drainFrom
    dsimp only [TickQueue.take]
    rw [mend_ticks, looked, none, mend_lock, length]
    split
    · exact .refl _
    split
    · next lock _ =>
      -- The batch is run on both sides, and then both look again.
      have ran := foldl_mend chosen Work.mend (fun s job => (exposed_kept chosen).runJob thread job)
        (fun s job => runJob_mend chosen thread job s) s.ticks.look.jobs
        { s with lock, ticks := { s.ticks.look with jobs := [] } }
      have again (t : Session) (exposed : t.Exposed chosen) :
          Throughout (ExposedIn chosen) (t.unlock.drainFrom bound
            (executed + s.ticks.look.jobs.length) thread) := fun r d =>
        drainFrom_induct (s := t.unlock) (exposed_kept chosen).lock (exposed_kept chosen).ticks
          (fun job h => (exposed_kept chosen).runJob thread job h) exposed d
      exact (ran.congr _ again).trans (ih _ (unlock _))
    · exact .refl _
    · split <;> exact .refl _

theorem drain_mend (bound : Nat) (thread : Thread) (s : Session) :
    Alike (Throughout (Exposed chosen)) ((s.mend chosen).drain bound thread)
      ((s.drain bound thread).map (mend chosen)) := by
  have drained : Alike (Throughout (Exposed chosen)) _ _ :=
    (drainFrom_mend chosen bound 0 thread s).congr (Option.map Prod.snd) fun _ all =>
      all.map fun _ exposed => exposed
  simpa only [drain, Option.map_map, Function.comp_def, Prod.map_snd] using drained

theorem runHelpers_mend (bound : Nat) (s : Session) :
    Alike (Throughout (Exposed chosen)) ((s.mend chosen).runHelpers bound)
      ((s.runHelpers bound).map (mend chosen)) := by
  have rounds (l : List Nat) (s : Session) :
      Alike (Throughout (Exposed chosen))
        (l.foldlM (fun (s : Session) _ => s.drain bound .helper) (s.mend chosen))
        ((l.foldlM (fun (s : Session) _ => s.drain bound .helper) s).map (mend chosen)) := by
    induction l generalizing s with
    | nil => exact .refl _
    | cons _ rest ih =>
      simp only [List.foldlM_cons]
      refine (drain_mend chosen bound .helper s).bind (fun t exposed u d => ?_) ih
      exact drains_induct (fun h d => (exposed_kept chosen).drain h d) rest exposed d
  unfold runHelpers
  rw [mend_helpers]
  split
  · exact .refl _
  · exact rounds _ { s with helpers := 0 }

/-! ## Messages -/

theorem becomeReady_mend (s : Session) :
    Alike (Exposed chosen) (s.mend chosen).becomeReady (s.becomeReady.mend chosen) := by
  have announced : (s.readiness.map Work.mend).announce =
      Prod.map (List.map Work.mend) (Readiness.map Work.mend) s.readiness.announce := by
    cases ready : s.readiness.ready with
    | false => simp [Readiness.announce, Readiness.map, ready, Function.comp_def]
    | true => simp [Readiness.announce, Readiness.map, ready]
  have outside : AccessMends chosen engineAccess.outside := (engineAccess_mend chosen).outside
  have one (s : Session) (work : Work) :
      Alike (Exposed chosen) (tell (s.mend chosen) work.mend) ((tell s work).mend chosen) :=
    runWork_mend engineAccess_deeds.outside outside .loop (.observer work.tag .loop) work s
  have told := foldl_mend chosen Work.mend
    (fun s work h => (tell_deeds work s).recorded.exposed h) one
  unfold becomeReady
  rw [mend_phase, mend_readiness, announced]
  split
  · exact .refl _
  · exact told s.readiness.announce.1
      { s with phase := .ready, readiness := s.readiness.announce.2 }

theorem swept_mend (s : Session) :
    Alike (Throughout (Exposed chosen)) ((s.mend chosen).withEngine fun s => s.sweepGraveyard.2)
      ((s.withEngine fun s => s.sweepGraveyard.2).map (mend chosen)) :=
  withEngine_mend chosen _ _ (fun s => .inl (sweepGraveyard_mend chosen s)) s

theorem invoked_mend (pair : Pair) (arguments : List Json.Value) (s : Session) :
    Alike (Throughout (Exposed chosen))
      ((s.mend chosen).withEngine fun s => (s.invokeLive .loop pair arguments).2)
      ((s.withEngine fun s => (s.invokeLive .loop pair arguments).2).map (mend chosen)) :=
  withEngine_mend chosen _ _ (fun s => invokeLive_mend chosen .loop pair arguments s) s

theorem handleSweep_eq (s : Session) :
    s.handleSweep = (s.withEngine fun s => s.sweepGraveyard.2).map (·.armSweep true) :=
  Option.map_eq_bind.symm

theorem handleSweep_mend (s : Session) :
    Alike (Throughout (Exposed chosen)) (s.mend chosen).handleSweep
      (s.handleSweep.map (mend chosen)) := by
  rw [handleSweep_eq, handleSweep_eq]
  exact (swept_mend chosen s).map
    (fun t exposed => ((recorded_edits t).armSweep true (.refl t)).exposed exposed)
    fun t => armSweep_mend chosen t true

/-- A firing has ended: the timer is armed again, or its pair is buried. -/
def fired (timer : Timer) (s : Session) : Session :=
  match s.timers.finish timer s.lanes.ticket? with
  | (.retire pair, timers) => { s with timers }.bury pair
  | (.rearmed _, timers) => ({ s with timers }.arm timer.delay (.fire timer.id)).2

theorem recorded_fired (timer : Timer) (s : Session) : Recorded s (s.fired timer) := by
  unfold fired
  split <;> exact .same rfl

theorem fired_mend (timer : Timer) (s : Session) :
    (s.mend chosen).fired timer = (s.fired timer).mend chosen := by
  unfold fired
  rw [mend_timers, mend_lanes, Lanes.ticket?_map]
  split
  · next pair timers _ => exact bury_mend chosen { s with timers } pair
  · next timers _ =>
    exact congrArg Prod.snd (arm_mend chosen { s with timers } timer.delay (.fire timer.id))

theorem fireTimer_eq (id : Nat) (s : Session) :
    s.fireTimer id = match s.timers.begin id with
      | (none, _) => some s
      | (some timer, timers) =>
        (({ s with timers } : Session).withEngine fun s =>
          (s.invokeLive .loop timer.pair []).2).map (fired timer) := by
  unfold fireTimer
  rcases s.timers.begin id with ⟨_ | timer, timers⟩
  · rfl
  · dsimp only
    rw [Option.map_eq_bind]
    refine congrArg _ (funext fun t => ?_)
    simp only [Function.comp_apply, fired]
    rcases t.timers.finish timer t.lanes.ticket? with ⟨_ | _, timers⟩ <;> rfl

theorem fireTimer_mend (id : Nat) (s : Session) :
    Alike (Throughout (Exposed chosen)) ((s.mend chosen).fireTimer id)
      ((s.fireTimer id).map (mend chosen)) := by
  rw [fireTimer_eq, fireTimer_eq, mend_timers]
  split
  · exact .refl _
  · next timer timers _ =>
    exact (invoked_mend chosen timer.pair [] { s with timers }).map
      (fun t exposed => (recorded_fired timer t).exposed exposed) (fired_mend chosen timer)

theorem deliver_mend (call : Call) (completion : Completion) (s : Session) :
    Alike (Throughout (Exposed chosen)) ((s.mend chosen).deliver call completion)
      ((s.deliver call completion).map (mend chosen)) := by
  have delivered (s : Session) : s.deliver call completion =
      ((s.arrived call).withEngine fun s => (s.invokeLive .loop
        (call.delivery (some completion)).1 (call.delivery (some completion)).2).2).map
          (·.buryAll [call.successPair, call.errorPair]) := Option.map_eq_bind.symm
  have invoked := invoked_mend chosen (call.delivery (some completion)).1
    (call.delivery (some completion)).2 (s.arrived call)
  rw [delivered, delivered]
  exact invoked.map (fun _ exposed => exposed) fun t => buryAll_mend chosen t _

theorem dispatchEvent_mend (event : String) (value : Json.Value) (s : Session) :
    Alike (Throughout (Exposed chosen)) ((s.mend chosen).dispatchEvent event value)
      ((s.dispatchEvent event value).map (mend chosen)) := by
  have invoked (pairs : List Pair) (s : Session) :
      Alike (Exposed chosen)
        (pairs.foldl (fun s pair => (s.invokeLive .loop pair [value]).2) (s.mend chosen))
        ((pairs.foldl (fun s pair => (s.invokeLive .loop pair [value]).2) s).mend chosen) := by
    have all := foldl_mend chosen id
      (fun s pair h => (recorded_invokeLive .loop pair [value] s).exposed h)
      (fun s pair => invokeLive_mend chosen .loop pair [value] s) pairs s
    rwa [List.map_id] at all
  unfold dispatchEvent
  dsimp only
  rw [mend_listeners]
  split
  · exact .refl _
  · exact withEngine_mend chosen _ _ (fun s => invoked _ s) s

theorem clear_mend (s : Session) : (s.mend chosen).clear = s.clear.mend chosen := by
  have withdrawn (timers : List Timer) (s : Session) :
      timers.foldl (fun s timer => s.withdraw timer.ticket) (s.mend chosen) =
        (timers.foldl (fun s timer => s.withdraw timer.ticket) s).mend chosen := by
    induction timers generalizing s with
    | nil => rfl
    | cons timer rest ih => rw [List.foldl_cons, withdraw_mend, ih, List.foldl_cons]
  let u : Session := s.timers.clear.1.foldl (fun s timer => s.withdraw timer.ticket)
    { s with phase := .shuttingDown, timers := s.timers.clear.2 }
  have gone := withdrawn s.timers.clear.1
    { s with phase := .shuttingDown, timers := s.timers.clear.2 }
  have cleared := congrArg (fun u : Session => ({ u with listeners := .empty } : Session).buryAll
    (s.timers.clear.1.map Timer.pair ++ u.listeners.all)) gone
  exact cleared.trans (buryAll_mend chosen { u with listeners := .empty } _)

theorem finish_mend (query : Option Nat) (s : Session) :
    Alike (Throughout (Exposed chosen)) ((s.mend chosen).finish query)
      ((s.finish query).map (mend chosen)) := by
  rw [finish_eq, finish_eq]
  refine (swept_mend chosen (s.record .lastSweep)).map (fun t exposed => ?_) fun t => ?_
  · have recorded : Recorded t (t.ended query) := by cases query <;> exact .same rfl
    exact recorded.exposed exposed
  · cases query <;> rfl

theorem terminate_mend (bound : Nat) (query : Option Nat) (s : Session) :
    Alike (Throughout (Exposed chosen)) ((s.mend chosen).terminate bound query)
      ((s.terminate bound query).map (mend chosen)) := by
  have left : Alike (Throughout (Exposed chosen))
      (if (s.mend chosen).clear.ticks.jobs.isEmpty then some (s.mend chosen).clear
        else (s.mend chosen).clear.drain bound .loop)
      ((if s.clear.ticks.jobs.isEmpty then some s.clear else s.clear.drain bound .loop).map
        (mend chosen)) := by
    have none : (s.clear.mend chosen).ticks.jobs.isEmpty = s.clear.ticks.jobs.isEmpty := by
      simp [TickQueue.map]
    rw [clear_mend, none]
    split
    · exact .refl _
    · exact drain_mend chosen bound .loop s.clear
  rw [terminate_eq, terminate_eq]
  exact left.bind (fun u exposed t d => (recorded_finish d).exposed exposed) fun u =>
    finish_mend chosen query u

theorem handle_mend (bound : Nat) (m : Message) (s : Session) :
    Alike (Throughout (Exposed chosen)) ((s.mend chosen).handle bound m.mend)
      ((s.handle bound m).map (mend chosen)) := by
  cases m with
  | ready => exact (becomeReady_mend chosen s).some
  | sweep => exact handleSweep_mend chosen s
  | fire id => exact fireTimer_mend chosen id s
  | drain => exact drain_mend chosen bound .loop s
  | complete call completion => exact deliver_mend chosen call completion s
  | emit event value => exact dispatchEvent_mend chosen event value s
  | register name =>
    have taken (s : Session) : Alike (Exposed chosen) ((s.mend chosen).loadModule name).2
        ((s.loadModule name).2.mend chosen) := .refl _
    exact withEngine_mend chosen (fun s => (s.loadModule name).2) (fun s => (s.loadModule name).2)
      taken s
  | task work =>
    exact withEngine_mend chosen _ _ (fun s => runWork_mend engineAccess_deeds
      (engineAccess_mend chosen) .loop (.task work.tag .loop) work s) s
  | script source name query =>
    have ran := withEngineResult_mend chosen
      (fun s => runScript_mend chosen .loop source name s) name s
    have handled (s : Session) : s.handle bound (.script source name query) =
        (s.withEngineResult name fun s => s.runScript .loop source name).map
          fun x => x.2.answer query x.1 := Option.map_eq_bind.symm
    rw [show (Message.script source name query).mend = .script source name query from rfl,
      handled, handled]
    exact ran.map (fun _ exposed => exposed) fun _ => rfl
  | require path query =>
    have ran := withEngineResult_mend chosen (fun s => loadPath_mend chosen .loop path s) path s
    have handled (s : Session) : s.handle bound (.require path query) =
        (s.withEngineResult path fun s => s.loadPath .loop path).map
          fun x => x.2.answer query x.1 := Option.map_eq_bind.symm
    rw [show (Message.require path query).mend = .require path query from rfl, handled, handled]
    exact ran.map (fun _ exposed => exposed) fun _ => rfl
  | shutdown query => exact terminate_mend chosen bound query s

/-! ## Runs -/

theorem deliverDue_mend (s : Session) : (s.mend chosen).deliverDue = s.deliverDue.mend chosen := by
  unfold deliverDue
  rw [mend_lanes, mend_clock, Lanes.deliverDue_map]
  rfl

theorem follow_mend (bound : Nat)
    (settled : ∀ u : Session, Alike (Throughout (Exposed chosen)) ((u.mend chosen).settle bound)
      ((u.settle bound).map (mend chosen))) (s : Session) :
    Alike (Throughout (Exposed chosen)) ((s.mend chosen).follow bound)
      ((s.follow bound).map (mend chosen)) := by
  unfold follow
  rw [show (s.mend chosen).helpersWait = s.helpersWait from rfl]
  split
  · exact settled s
  · exact (runHelpers_mend chosen bound s).bind
      (fun t exposed v d => (recorded_settle d).exposed exposed) settled

theorem settle_mend (bound : Nat) (s : Session) :
    Alike (Throughout (Exposed chosen)) ((s.mend chosen).settle bound)
      ((s.settle bound).map (mend chosen)) := by
  induction bound generalizing s with
  | zero => exact .refl _
  | succ bound ih =>
    rw [settle_succ, settle_succ, mend_loop, mend_lanes, mend_clock, Lanes.next?_map,
      Lanes.nextDue?_map, deliverDue_mend]
    split
    · exact .refl _
    cases s.lanes.next? with
    | some next =>
      exact (handle_mend chosen bound next.1 { s with lanes := next.2 }).bind
        (fun u exposed t d => (recorded_follow recorded_settle d).exposed exposed)
        (follow_mend chosen bound ih)
    | none =>
      dsimp only [Option.map_none]
      split
      · split
        · exact ih s.deliverDue
        · exact .refl _
      · exact .refl _

theorem runTo_mend (bound target : Nat) (s : Session) :
    Alike (Throughout (Exposed chosen)) ((s.mend chosen).runTo bound target)
      ((s.runTo bound target).map (mend chosen)) := by
  induction bound generalizing s with
  | zero => exact .refl _
  | succ bound ih =>
    rw [runTo_succ, runTo_succ]
    refine (settle_mend chosen bound s).bind
      (fun u exposed t d => (recorded_proceed d).exposed exposed) fun u => ?_
    unfold proceed
    rw [mend_loop, mend_lanes, Lanes.nextDue?_map]
    split
    · exact .refl _
    split
    · next due _ =>
      split
      · have later := ih ({ u with clock := due } : Session).deliverDue
        rw [← deliverDue_mend] at later
        exact later
      · exact .refl _
    · exact .refl _

/-- The clock stays where it was if the loop has ended meanwhile. -/
def stopped (clock : Nat) (s : Session) : Session :=
  if s.loop = .running then s else { s with clock := clock }

theorem recorded_stopped (clock : Nat) (s : Session) : Recorded s (s.stopped clock) := by
  unfold stopped
  split <;> exact .same rfl

theorem stopped_mend (clock : Nat) (s : Session) :
    (s.mend chosen).stopped clock = (s.stopped clock).mend chosen := by
  unfold stopped
  rw [mend_loop]
  split <;> rfl

theorem run_mend (bound ms : Nat) (s : Session) :
    Alike (Throughout (Exposed chosen)) ((s.mend chosen).run bound ms)
      ((s.run bound ms).map (mend chosen)) := by
  unfold run
  rw [mend_loop, deliverDue_mend, mend_clock]
  split
  · exact .refl _
  · have ran := runTo_mend chosen bound (s.clock + ms) s.deliverDue
    refine ran.bind ?_ fun u => .inl (congrArg some (stopped_mend chosen s.clock u))
    rintro u exposed _ ⟨⟩
    exact (recorded_stopped s.clock u).exposed exposed

end Session
end ScriptHost
