import ScriptHost.Proofs.Course

/-!
# Sessions that refuse work

A session that accepts no work refuses every operation that needs it to, whoever asks and by
whichever way, and stays as it is. A session whose engine has reported a failure while it was
brought up is closed for good, so it does this for ever. An engine that panics then leaves a session
behind that nobody has closed: it takes timers on, though nobody will ever fire them.

## Main definitions

* `Action.refusal` — what an operation that needs an accepting session replies on any other.
* `Session.Refuses` — every such operation is refused.
* `Stage.Over`, `Stage.Stranded` — closed for good, and left behind in bring-up.

## Main statements

* `Session.refuses_of_not_live` — sessions that accept no work refuse.
* `Session.Reached.isOver`, `Session.Reached.stranded` — what becomes of sessions that have not come
  up.
* `Session.Reached.refuses_after_failure` — which of them refuse work.
-/

namespace ScriptHost

/-- What an action replies on a session that accepts no work, if it needs one that does. The owning
thread does not wait for its own answers in any session. -/
def Action.refusal (thread : Thread) : Action → Option Reply
  | .schedule .. | .request .. => some .nothing
  | .cancel .. | .tick .. | .on .. | .emit .. | .emitFlag .. | .register _ | .post .. | .sweep =>
    some (.flag false)
  | .off .. => some (.count 0)
  | .guarded _ | .leakLock | .shutdown | .beginScript .. => some (.failed .closed)
  | .script .. | .require _ => some (.failed (if thread = .loop then .reentrant else .closed))
  | .phase _ | .locale _ | .isTimerLive _ | .pause | .unpause | .readiness | .awaitReady | .interval
  | .statistics | .observe .. | .unobserve _ | .release _ | .scriptResult _ | .callScript ..
  | .callBack .. | .fail _ | .panic => none

namespace Session

variable {o s t : Session}

/-- Whatever needs a session that accepts work is refused, and nothing changes. -/
structure Refuses (s : Session) : Prop where
  actions : ∀ {access : EngineAccess} {thread : Thread} {a : Action} {reply : Reply},
    a.refusal thread = some reply → perform access thread a s = (.ok reply, s)
  asks : ∀ {a : Action} {ask : Session → Except Failure Nat × Session},
    blockingAsk a = some ask → ask s = (.error .closed, s)

theorem askFrom_refused {ask : Session → Except Failure Nat × Session}
    (refused : ask s = (.error .closed, s)) (thread : Thread) :
    askFrom thread ask s = (.ok (.failed (if thread = .loop then .reentrant else .closed)), s) := by
  unfold askFrom
  split
  · rfl
  · rw [refused]

section
variable (closed : s.isLive = false)
include closed

theorem ask_refused (message : Nat → Message) : s.ask message = (.error .closed, s) := by
  simp [ask, closed]

theorem askShutdown_refused : s.askShutdown = (.error .closed, s) := by
  simp [askShutdown, beginShutdown, closed]

theorem shutdownFrom_refused (thread : Thread) :
    shutdownFrom thread s = (.ok (.failed .closed), s) := by
  unfold shutdownFrom
  split
  · simp [beginShutdown, closed]
  · rw [askShutdown_refused closed]

theorem perform_refused {access : EngineAccess} {thread : Thread} {a : Action} {reply : Reply}
    (h : a.refusal thread = some reply) : perform access thread a s = (.ok reply, s) := by
  have shut : ∀ door, s.admits door = false := fun door => by simp [admits, closed]
  cases a with
  | schedule door pair delay recurring => cases h; simp [perform, schedule, shut, replyId]
  | cancel door timer => cases h; simp [perform, cancel, shut, flagged]
  | tick door noThreads tag actions => cases h; simp [perform, enqueue, shut, flagged]
  | request door noThreads order => cases h; simp [perform, issue, shut, replyId]
  | on door event pair => cases h; simp [perform, listen, shut, flagged]
  | off door event => cases h; simp [perform, unlisten, shut]
  | emit event value => cases h; simp [perform, emit, closed, flagged]
  | emitFlag event value => cases h; simp [perform, emit, closed, flagged]
  | register name => cases h; simp [perform, registerModule, closed, flagged]
  | post tag delay actions => cases h; simp [perform, postWork, closed, flagged]
  | sweep => cases h; simp [perform, sweepNow, closed, flagged]
  | guarded body => cases h; simp [perform, takeLock, closed]
  | leakLock => cases h; simp [perform, takeLock, closed]
  | shutdown => cases h; exact shutdownFrom_refused closed thread
  | beginScript key source name =>
    cases h
    simp [perform, beginScript, askScript, ask_refused closed]
  | script source name =>
    cases h
    exact @askFrom_refused s (·.askScript source name) (ask_refused closed _) thread
  | require path =>
    cases h
    exact @askFrom_refused s (·.askRequire path) (ask_refused closed _) thread
  | _ => cases h

theorem refuses_of_not_live : s.Refuses where
  actions h := perform_refused closed h
  asks {a ask} h := by
    unfold blockingAsk at h
    split at h
    · cases h; exact ask_refused closed _
    · cases h; exact ask_refused closed _
    · cases h; exact askShutdown_refused closed
    · cases h

end

/-- A session that accepts work takes a timer on for every pair that is not in use. -/
theorem schedule_accepted {pair : Pair} (live : s.isLive = true)
    (unused : s.custody.isLive pair = false) (delay : Nat) (recurring : Bool) :
    (s.schedule .handle pair delay recurring).1 = some s.timers.nextId := by
  have admitted : s.admits .handle = true := by simp [admits, live]
  have adopted := (@adopt?_eq_some s _ [pair]).2 ⟨by simp [Custody.canAdopt, unused], rfl⟩
  have opened := lanes_open_of_isLive live
  simp [schedule, admitted, adopted, arm, record, Lanes.arm_of_open opened, Timers.schedule]

end Session

/-! ## Sessions that have not come up -/

namespace Stage

variable {g g' : Stage} {jobs : List Work}

/-- The session has been closed for good before it was ready, with these jobs accepted. -/
structure Over (jobs : List Work) (g : Stage) : Prop where
  ended : g.phase = .terminated
  closed : g.closed = true
  untold : g.told = false
  accepted : g.accepted = jobs

theorem Over.stirred (d : Stirred g g') (h : g.Over jobs) : g'.Over jobs := by
  induction d with
  | trans _ _ ih ih' => exact ih' (ih h)
  | noted _ _ => exact ⟨h.ended, h.closed, h.untold, h.accepted⟩
  | queued live => simp [isLive, h.closed] at live
  | helped live => simp [isLive, h.closed] at live
  | posted live => simp [isLive, h.closed] at live
  | shut live => simp [isLive, h.closed] at live
  | paused ready => cases h.ended.symm.trans ready
  | unpaused paused => cases h.ended.symm.trans paused
  | guarded _ _ _ ih =>
    have inner := ih ⟨h.ended, h.closed, h.untold, h.accepted⟩
    exact ⟨inner.ended, inner.closed, inner.untold, inner.accepted⟩
  | _ => exact ⟨h.ended, h.closed, h.untold, h.accepted⟩

/-- The session is still in bring-up and open, or it has been asked to shut down and is closed. -/
def Stranded (g : Stage) : Prop :=
  g.phase = .initializing ∧ g.closed = false ∨ g.phase = .shuttingDown ∧ g.closed = true

/-- Whatever is done to a session in bring-up, it can only be shut down. -/
theorem Stranded.stirred (d : Stirred g g') (h : g.Stranded) : g'.Stranded := by
  induction d with
  | trans _ _ ih ih' => exact ih' (ih h)
  | paused ready => simp [Stranded, ready] at h
  | unpaused paused => simp [Stranded, paused] at h
  | shut _ => exact .inr ⟨rfl, rfl⟩
  | guarded _ _ _ ih => exact ih h
  | _ => exact h

end Stage

namespace Session

variable {o s : Session}

theorem over_kept (jobs : List Work) : KeptByJobs fun s => s.stage.Over jobs where
  deeds d h := h.stirred d.stirred
  lock _ h := ⟨h.ended, h.closed, h.untold, h.accepted⟩
  ticks _ h := ⟨h.ended, h.closed, h.untold, h.accepted⟩
  helpers _ h := ⟨h.ended, h.closed, h.untold, h.accepted⟩
  begun _ _ h := ⟨h.ended, h.closed, h.untold, h.accepted⟩

theorem stranded_kept : KeptByJobs fun s => s.stage.Stranded where
  deeds d h := h.stirred d.stirred
  lock _ h := h
  ticks _ h := h
  helpers _ h := h
  begun _ _ h := h

theorem Fresh.stranded (p : Fresh o) : o.stage.Stranded :=
  p.induct (P := fun s => s.stage.Stranded) (fun _ _ _ _ => .inl ⟨rfl, rfl⟩) fun d h =>
    h.stirred d.stirred

namespace Reached

variable {turn : Turn}

/-- When the engine has failed, the session is closed for good, with the jobs of that moment. -/
theorem isOver {f : EngineFailure} (p : Fresh o) (failed : o.engineStart.1 = .failed f)
    (r : Reached o turn s) :
    s.stage.Over o.engineStart.2.journal.accepted ∧ s.loop = .ended := by
  have eq := bringUp_failed failed
  have ended : o.bringUp.loop = .ended := congrArg Session.loop eq
  have untold : o.engineStart.2.readiness.ready = false :=
    (congrArg Stage.told (engineStart_deeds o).fixed_eq).trans p.untold
  obtain ⟨gone, loop⟩ := r.invariant_down
    (P := fun s => s.stage.Over o.engineStart.2.journal.accepted)
    ((over_kept _).steady (fun _ h => ⟨h.ended, h.closed, h.untold, h.accepted⟩)
      fun h => ⟨h.ended, h.closed, h.untold, h.accepted⟩)
    (by rw [eq]; exact ⟨rfl, rfl, untold, rfl⟩) (by simp [ended])
  exact ⟨gone, loop.trans ended⟩

/-- When something has panicked in bring-up, the session stays there until it is shut down. -/
theorem stranded (p : Fresh o) (survived : ∀ f, o.engineStart.1 ≠ .failed f)
    (down : o.bringUp.loop ≠ .running) (r : Reached o turn s) :
    s.stage.Stranded ∧ s.loop = .crashed := by
  obtain ⟨u, d, eq⟩ := bringUp_panicked survived down
  have left : u.stage.Stranded := p.stranded.stirred d.stirred
  obtain ⟨stranded, loop⟩ := r.invariant_down (P := fun s => s.stage.Stranded)
    (stranded_kept.steady (fun _ h => h) fun h => h) (by rw [eq]; exact left) down
  exact ⟨stranded, loop.trans (congrArg Session.loop eq)⟩

/-- A session whose engine has failed while it was brought up is terminated and closed, and refuses
all work from then on, without any change. A session in whose bring-up something has panicked is
neither: it stays in bring-up and takes timers on until somebody asks for shutdown, and refuses work
only then. -/
theorem refuses_after_failure (p : Fresh o) (down : o.bringUp.loop ≠ .running)
    (r : Reached o turn s) :
    ((∃ f, o.engineStart.1 = .failed f) →
      s.loop = .ended ∧ s.phase = .terminated ∧ s.lanes.closed = true ∧ s.Refuses) ∧
    ((∀ f, o.engineStart.1 ≠ .failed f) → s.loop = .crashed ∧
      (s.phase = .initializing ∧ s.lanes.closed = false ∧
          (∀ pair delay recurring, s.custody.isLive pair = false →
            (s.schedule .handle pair delay recurring).1 = some s.timers.nextId) ∨
        s.phase = .shuttingDown ∧ s.lanes.closed = true ∧ s.Refuses)) := by
  constructor
  · rintro ⟨f, failed⟩
    obtain ⟨gone, loop⟩ := r.isOver p failed
    have ended : s.phase = .terminated := gone.ended
    have dead : s.isLive = false := by simp [isLive, ended, Phase.isLive]
    exact ⟨loop, ended, gone.closed, refuses_of_not_live dead⟩
  · intro survived
    obtain ⟨left, loop⟩ := r.stranded p survived down
    refine ⟨loop, ?_⟩
    have left : s.phase = .initializing ∧ s.lanes.closed = false ∨
        s.phase = .shuttingDown ∧ s.lanes.closed = true := left
    rcases left with ⟨phase, opened⟩ | ⟨phase, closed⟩
    · have live : s.isLive = true := by simp [isLive, phase, opened, Phase.isLive]
      exact .inl ⟨phase, opened, fun _ delay recurring unused =>
        schedule_accepted live unused delay recurring⟩
    · have dead : s.isLive = false := by simp [isLive, phase, Phase.isLive]
      exact .inr ⟨phase, closed, refuses_of_not_live dead⟩

end Reached

/-- The session of an engine that fails refuses work; one whose engine panics takes a timer on. -/
theorem refuses_after_failure_either :
    let s := (plain (starting [.fail "no"])).bringUp
    let t := (plain (starting [.panic])).bringUp
    (s.loop ≠ .running ∧ s.phase = .terminated ∧ s.Refuses) ∧
      t.loop ≠ .running ∧ t.phase = .initializing ∧ t.lanes.closed = false ∧
        (t.schedule .handle ⟨1, 2⟩ 5 false).1 = some t.timers.nextId := by
  refine ⟨?_, ?_⟩
  · have down : (plain (starting [.fail "no"])).bringUp.loop ≠ .running := by decide +kernel
    obtain ⟨failed, -⟩ := Reached.refuses_after_failure (plain_fresh _) down .broughtUp
    obtain ⟨-, phase, -, refuses⟩ := failed ⟨.script "no", by rfl⟩
    exact ⟨down, phase, refuses⟩
  · have down : (plain (starting [.panic])).bringUp.loop ≠ .running := by decide +kernel
    have phase : (plain (starting [.panic])).bringUp.phase = .initializing := by decide +kernel
    obtain ⟨-, panicked⟩ := Reached.refuses_after_failure (plain_fresh _) down .broughtUp
    obtain ⟨-, ⟨-, opened, takes⟩ | ⟨other, -⟩⟩ := panicked (by intro f h; cases h)
    · exact ⟨down, phase, opened, takes _ _ _ (by decide +kernel)⟩
    · cases phase.symm.trans other

end Session
end ScriptHost
