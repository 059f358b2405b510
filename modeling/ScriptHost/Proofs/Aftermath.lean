import ScriptHost.Proofs.NextTick
import ScriptHost.Proofs.OwnWork
import ScriptHost.Proofs.Refusals

/-!
# What runs after the engine has failed

When the engine fails while it is brought up, its session is closed and nothing that waits in the
queue is handled any more. Only the helpers are not called back: one that was started before the
failure has been waiting for the execution lock, gets it, and runs all jobs. If there is none,
nothing runs any more; at most a worker that comes free calls the transport for a request that has
waited for it.

## Main definitions

* `Session.Forsaken` — how far a session has been moved since its engine failed.

## Main statements

* `Session.act_over` — the host moves nothing in a session that is closed for good.
* `Session.Reached.only_helpers_work` — what is done behind the failure is done by helpers.
-/

namespace ScriptHost

namespace Session

variable {o s t u : Session} {jobs : List Work}

/-- A session has been closed for good, and since then only helpers have worked: they have left no
job behind when all of them have had their turn. -/
structure Forsaken (u s : Session) : Prop where
  free : s.lock = .free
  log : Logged (fun e => e.isOwn .helper = true) u.log s.log
  idle : u.helpers = 0 → s.helpers = 0 ∧ Logged (fun e => e.isTransport = true) u.log s.log ∧
    (u.errands = [] → s.errands = [] ∧ s.log = u.log)
  served : u.helpers ≠ 0 → s.helpers = 0 → s.ticks.jobs = []

/-- What code can do to a session that is closed for good: workers that come free call the transport
for the requests that have waited for them. -/
structure Lets (s t : Session) : Prop where
  stage : ∃ entries, (∀ e ∈ entries, e.isTransport = true) ∧
    t.stage = { s.stage with log := entries ++ s.log }
  idle : s.errands = [] → t.errands = [] ∧ t.stage = s.stage

theorem Lets.still (stage : t.stage = s.stage) (errands : t.errands = s.errands) : Lets s t :=
  ⟨⟨[], List.forall_mem_nil _, stage⟩, fun none => ⟨errands.trans none, stage⟩⟩

theorem Lets.release (s : Session) (key : String) : Lets s (s.release key).2 := by
  refine ⟨stage_release s key, fun none => ?_⟩
  rw [release_idle none]
  have concluded : ∀ (due : List (String × Call × Completion)) (t : Session),
      t.errands = [] ∧ t.stage = s.stage →
      let u := due.foldl (fun s entry => s.conclude entry.2.1 entry.2.2) t
      u.errands = [] ∧ u.stage = s.stage := by
    intro due
    induction due with
    | nil => exact fun _ h => h
    | cons entry rest ih =>
      intro t ⟨none, same⟩
      refine ih _ ⟨(t.conclude_errands ..).trans none, Eq.trans ?_ same⟩
      dsimp only
      rcases conclude_cases t entry.2.1 entry.2.2 with ⟨-, h⟩ | ⟨-, h⟩ <;> rw [h] <;> rfl
  exact concluded _ _ ⟨none, rfl⟩

/-- A session that is closed for good is left as it is by code that is not given the engine, apart
from tables that nobody looks at any more. -/
theorem perform_over {access : EngineAccess} {thread : Thread} {a : Action}
    (h : s.stage.Over jobs) (away : access.given = none) :
    Lets s (perform access thread a s).2 := by
  have ended : s.phase = .terminated := h.ended
  have untold : s.readiness.ready = false := h.untold
  have dead : s.isLive = false := by simp [isLive, ended, Phase.isLive]
  cases refusal : a.refusal thread with
  | some reply =>
    rw [perform_refused dead refusal]
    exact .still rfl rfl
  | none =>
    cases a with
    | pause =>
      have refused : s.pause = (false, s) := by simp [Session.pause, ended]
      simp only [perform, flagged, refused]
      exact .still rfl rfl
    | unpause =>
      have refused : s.unpause = (false, s) := by simp [Session.unpause, ended]
      simp only [perform, flagged, refused]
      exact .still rfl rfl
    | observe tag actions =>
      simp only [perform, untold]
      exact .still rfl rfl
    | release key => exact .release s key
    | scriptResult key => exact .still (stage_scriptResult s key) (errands_scriptResult s key)
    | callScript source name =>
      simp only [perform, callEngine, away]
      exact .still rfl rfl
    | callBack pair arguments =>
      simp only [perform, callEngine, away]
      exact .still rfl rfl
    | phase | locale | isTimerLive | readiness | awaitReady | interval | statistics | unobserve
    | fail | panic => exact .still rfl rfl
    | _ => cases refusal

theorem act_over (h : s.stage.Over jobs) (a : Action) : Lets s (s.act a).2 := by
  have done := @perform_over _ _ engineAccess.outside .host a h rfl
  unfold act
  split <;> next heq => rw [heq] at done; exact done

theorem Forsaken.lets (h : Forsaken u s) (l : Lets s t) : Forsaken u t := by
  obtain ⟨entries, sent, eq⟩ := l.stage
  have log : t.log = entries ++ s.log := congrArg Stage.log eq
  have own : Logged (fun e => e.isOwn .helper = true) s.log t.log := by
    refine ⟨entries, fun e mem => ?_, log⟩
    cases e with
    | transport _ => rfl
    | _ => cases sent _ mem
  have helpers : t.helpers = s.helpers := congrArg Stage.helpers eq
  have jobs : t.ticks.jobs = s.ticks.jobs := congrArg (fun g : Stage => g.ticks.jobs) eq
  refine ⟨(congrArg Stage.lock eq).trans h.free, h.log.trans own, fun idle => ?_,
    fun some none => ?_⟩
  · obtain ⟨none, logged, unmoved⟩ := h.idle idle
    refine ⟨helpers.trans none, logged.trans ⟨entries, sent, log⟩, fun empty => ?_⟩
    obtain ⟨waiting, same⟩ := unmoved empty
    obtain ⟨waiting, stage⟩ := l.idle waiting
    exact ⟨waiting, (congrArg Stage.log stage).trans same⟩
  · exact jobs.trans (h.served some (helpers.symm.trans none))

/-- Helpers that are left over serve the jobs that are left over. -/
theorem runHelpers_forsaken {bound : Nat} (h : Forsaken u s) (untold : s.readiness.ready = false)
    (d : s.runHelpers bound = some t) : Forsaken u t := by
  obtain ⟨-, logged⟩ := runHelpers_ownWork d untold
  obtain ⟨-, -, left⟩ := runHelpers_free h.free d
  refine ⟨runHelpers_lock h.free d, h.log.trans logged, fun idle => ?_, fun some _ => ?_⟩
  · rw [runHelpers_none (h.idle idle).1] at d
    cases d
    exact h.idle idle
  · rcases left with ⟨none, rfl⟩ | empty
    · exact h.served some none
    · exact congrArg TickQueue.jobs empty

namespace Reached

variable {turn : Turn}

theorem forsaken {f : EngineFailure} (p : Fresh o) (failed : o.engineStart.1 = .failed f)
    (r : Reached o turn s) : o.engineStart.2.Forsaken s := by
  induction r with
  | broughtUp =>
    rw [bringUp_failed failed]
    exact ⟨rfl, .refl _, fun none => ⟨none, .refl _, fun empty => ⟨empty, rfl⟩⟩,
      fun some none => absurd none some⟩
  | handled r _ running _ _ _ => cases (r.isOver p failed).2.symm.trans running
  | waited _ _ ih => exact ih
  | helped r h ih => exact runHelpers_forsaken ih (r.isOver p failed).1.untold h
  | due _ ih => exact ⟨ih.free, ih.log, ih.idle, ih.served⟩
  | passed _ _ ih => exact ⟨ih.free, ih.log, ih.idle, ih.served⟩
  | acted r _ a ih => exact ih.lets (act_over (r.isOver p failed).1 a)
  | asked r _ asks ih =>
    have ended : Session.phase _ = .terminated := (r.isOver p failed).1.ended
    rw [(refuses_of_not_live (by simp [isLive, ended, Phase.isLive])).asks asks]
    exact ih
  | dropped _ _ ih =>
    refine ⟨ih.free, ih.log, fun idle => ?_, ih.served⟩
    obtain ⟨none, logged, unmoved⟩ := ih.idle idle
    exact ⟨none, logged, fun empty => ⟨rfl, (unmoved empty).2⟩⟩

/-- Behind the failure of the engine the loop has ended and no observer is told: whatever is done
then is done by helpers that were started before. If there is none nothing is done, but that the
transport is called for requests that have waited for a worker; otherwise all jobs that were
accepted have been begun when the helpers have had their turn. -/
theorem only_helpers_work {f : EngineFailure} (p : Fresh o) (failed : o.engineStart.1 = .failed f)
    (r : Reached o turn s) :
    let u := o.engineStart.2
    s.loop = .ended ∧ s.readiness.ready = false ∧
      (∃ entries, (∀ e ∈ entries, e.isOwn .helper = true) ∧ s.log = entries ++ u.log) ∧
      (u.helpers = 0 →
        (∃ entries, (∀ e ∈ entries, e.isTransport = true) ∧ s.log = entries ++ u.log) ∧
          (u.errands = [] → s.log = u.log)) ∧
      (u.helpers ≠ 0 → s.helpers = 0 → s.journal.executed = u.journal.accepted ∧
        jobsBegun s.log = u.journal.accepted.map Work.tag) := by
  intro u
  obtain ⟨gone, loop⟩ := r.isOver p failed
  have forsaken := r.forsaken p failed
  have tallied := r.tallied p
  refine ⟨loop, gone.untold, forsaken.log, fun none => ?_, fun some none => ?_⟩
  · obtain ⟨-, logged, unmoved⟩ := forsaken.idle none
    exact ⟨logged, fun empty => (unmoved empty).2⟩
  have order : s.journal.accepted = s.journal.executed ++ [] ++ s.ticks.jobs := tallied.order
  have begun : jobsBegun s.log = s.journal.executed.map Work.tag := tallied.begun
  have accepted : s.journal.accepted = u.journal.accepted := gone.accepted
  have left : s.ticks.jobs = [] := forsaken.served some none
  rw [left, List.append_nil, List.append_nil, accepted] at order
  exact ⟨order.symm, by rw [begun, ← order]⟩

end Reached

/-- An engine enqueues a job and fails: a helper runs the job. Another one posts a task and fails:
nothing runs. -/
theorem only_helpers_work_late :
    let enqueuing := plain (starting [.tick .context false "j" [], .fail "no"])
    let posting := plain (starting [.post "t" 0 [], .fail "no"])
    (∃ s, Reached enqueuing .loop s ∧ s.loop = .ended ∧ jobsBegun s.log = ["j"]) ∧
      ∃ s, Reached posting .loop s ∧ s.loop = .ended ∧ s.log = posting.engineStart.2.log := by
  intro enqueuing posting
  refine ⟨?_, ?_⟩
  · have failed : enqueuing.engineStart.1 = .failed (.script "no") := by rfl
    obtain ⟨s, r, found⟩ := @Fresh.scenario enqueuing 50 [] (fun s => decide (s.helpers = 0))
      (plain_fresh _) (by decide +kernel)
    obtain ⟨ended, -, -, -, served⟩ := r.only_helpers_work (plain_fresh _) failed
    obtain ⟨-, begun⟩ := served (by decide +kernel) (of_decide_eq_true found)
    exact ⟨s, r, ended, begun.trans (by decide +kernel)⟩
  · have failed : posting.engineStart.1 = .failed (.script "no") := by rfl
    obtain ⟨s, r, -⟩ := @Fresh.scenario posting 50 [] (fun _ => true) (plain_fresh _)
      (by decide +kernel)
    obtain ⟨ended, -, -, idle, -⟩ := r.only_helpers_work (plain_fresh _) failed
    obtain ⟨-, unmoved⟩ := idle (by decide +kernel)
    have none : posting.engineStart.2.errands = [] :=
      List.isEmpty_iff.1 (by decide +kernel)
    exact ⟨s, r, ended, unmoved none⟩

end Session
end ScriptHost
