import ScriptHost.Proofs.NextTick
import ScriptHost.Proofs.OwnWork

/-!
# What precedes the announcement

Readiness is announced by a message that joins the end of the urgent lane when the engine is up, so
what has been posted to that lane before goes ahead of it. That is at most one message: the drain
that is posted when the first job comes and no helper is started for it. Unless it is there, the
announcement is the first message that the loop handles; if it is, the loop runs jobs while the
session is still in bring-up and no observer has been told.

## Main definitions

* `Stage.Unbegun` — what may stand in the urgent lane before the loop runs.
* `Stage.Awaiting` — how far a session can come before readiness is announced.

## Main statements

* `Session.Fresh.broughtUp_urgent` — what the loop finds in the urgent lane.
* `Session.Reached.before_announcement` — what is done before readiness is announced.
-/

namespace ScriptHost

namespace Stage

variable {g g' base : Stage}

/-- No drain is at work, and at most one waits in the urgent lane, for jobs that wait, too. -/
structure Unbegun (g : Stage) : Prop where
  taken : g.deserted = false
  rest : g.ticks.draining = false
  urgent : g.urgent = [] ∨ g.urgent = [.drain] ∧ g.ticks.jobs ≠ []

theorem Unbegun.accept (h : g.Unbegun) (job : Work) : (g.accept job).Unbegun := by
  have waiting : (g.accept job).ticks.jobs ≠ [] := by simp [Stage.accept]
  exact ⟨h.taken, h.rest, h.urgent.imp_right fun posted => ⟨posted.1, waiting⟩⟩

/-- A drain is posted for the first job only: those that come later are not the first to wait. -/
theorem Unbegun.stirred (d : Stirred g g') (h : g.Unbegun) : g'.Unbegun := by
  induction d with
  | trans _ _ ih ih' => exact ih' (ih h)
  | queued _ _ job => exact h.accept job
  | helped _ _ job =>
    have accepted := h.accept job
    exact ⟨accepted.taken, accepted.rest, accepted.urgent⟩
  | @posted g _ idle job =>
    have none : g.ticks.jobs = [] := by
      simp only [TickQueue.isIdle, Bool.and_eq_true, List.isEmpty_iff] at idle
      exact idle.1
    have empty : g.urgent = [] := h.urgent.resolve_right fun posted => posted.2 none
    refine ⟨h.taken, h.rest, .inr ⟨?_, by simp [Stage.accept]⟩⟩
    simp [h.taken, empty]
  | guarded _ _ _ ih =>
    have inner := ih ⟨h.taken, h.rest, h.urgent⟩
    exact ⟨inner.taken, inner.rest, inner.urgent⟩
  | _ => exact ⟨h.taken, h.rest, h.urgent⟩

/-- The loop has been entered on a stage and readiness is still to be announced: helpers have worked
since, and the loop has done so if it has handled a drain. -/
structure Awaiting (base g : Stage) : Prop where
  untold : g.told = false
  first : base.urgent = [.ready] ∨ base.urgent = [.drain, .ready]
  urgent : g.urgent = [.ready] ∨ base.urgent = [.drain, .ready] ∧ g.urgent = [.drain, .ready]
  log : Logged (fun e => e.isOwn .helper = true ∨
    (base.urgent = [.drain, .ready] ∧ g.urgent = [.ready]) ∧ e.isOwn .loop = true) base.log g.log
  served : base.urgent = [.drain, .ready] → g.urgent = [.ready] → g.lock = .free →
    g.ticks.jobs = []

end Stage

namespace Session

variable {o s t : Session} {base : Stage} {bound : Nat}

/-! ## Before the loop runs -/

theorem Fresh.unbegun (p : Fresh o) : o.stage.Unbegun :=
  p.induct (P := fun s => s.stage.Unbegun) (fun _ _ _ _ => ⟨rfl, rfl, .inl rfl⟩) fun d h =>
    h.stirred d.stirred

/-- When the loop is entered in bring-up, the announcement waits in the urgent lane, and there is at
most a drain ahead of it. -/
theorem Fresh.broughtUp_urgent (p : Fresh o) (up : o.bringUp.loop = .running)
    (bringing : o.bringUp.phase = .initializing) :
    o.bringUp.readiness.ready = false ∧
      (o.bringUp.lanes.urgent = [.ready] ∨ o.bringUp.lanes.urgent = [.drain, .ready]) := by
  obtain ⟨u, d, eq⟩ := bringUp_running up
  have unbegun := p.unbegun.stirred d.stirred
  have entered := stage_enterLoop (s := u.unlock) unbegun.taken
  rw [← eq] at entered
  have phase : u.phase = .initializing := (congrArg Stage.phase entered).symm.trans bringing
  have opened : u.lanes.closed = false :=
    (sound_kept.deeds d p.stage.2).opened (congrArg Phase.isLive phase)
  have urgent : o.bringUp.lanes.urgent = u.lanes.urgent ++ [.ready] := by
    refine (congrArg Stage.urgent entered).trans ?_
    simp [unlock, opened]
  refine ⟨(congrArg Stage.told entered).trans ((congrArg Stage.told d.fixed_eq).trans p.untold), ?_⟩
  rw [urgent]
  rcases unbegun.urgent with empty | ⟨drain, -⟩
  · exact .inl (by rw [show u.lanes.urgent = [] from empty]; rfl)
  · exact .inr (by rw [show u.lanes.urgent = [.drain] from drain]; rfl)

/-! ## Before readiness is announced -/

/-- Helpers leave the urgent lane as it is. -/
theorem runHelpers_awaiting (h : base.Awaiting s.stage) (d : s.runHelpers bound = some t) :
    base.Awaiting t.stage := by
  obtain ⟨untold, logged⟩ := runHelpers_ownWork d h.untold
  have urgent : t.stage.urgent = s.stage.urgent := runHelpers_urgent d
  refine ⟨untold, h.first, by rw [urgent]; exact h.urgent, ?_, ?_⟩
  · rw [urgent]
    exact h.log.trans (logged.mono fun _ => .inl)
  · intro posted last free
    have before : s.lock = .free := free_before (fun held => runHelpers_held held d) free
    obtain ⟨-, -, ⟨-, rfl⟩ | empty⟩ := runHelpers_free before d
    · exact h.served posted last before
    · exact congrArg TickQueue.jobs empty

/-- The drain ahead of the announcement runs the jobs that wait. -/
theorem drain_awaiting {lanes : Lanes Message} (h : base.Awaiting s.stage)
    (posted : base.urgent = [.drain, .ready]) (rest : lanes.urgent = [.ready])
    (d : { s with lanes }.drain bound .loop = some t) : base.Awaiting t.stage := by
  obtain ⟨untold, logged⟩ := drain_ownWork d h.untold
  have urgent : t.lanes.urgent = [.ready] := (drain_urgent d).trans rest
  have drained : base.urgent = [.drain, .ready] ∧ t.stage.urgent = [.ready] := ⟨posted, urgent⟩
  refine ⟨untold, h.first, .inl urgent, ?_, fun _ _ free => ?_⟩
  · refine (h.log.mono fun e own => ?_).trans (logged.mono fun e own => .inr ⟨drained, own⟩)
    exact own.imp_right fun own => ⟨drained, own.2⟩
  · have before : s.lock = .free :=
      free_before (fun held => drain_held (s := { s with lanes }) held d) free
    obtain ⟨-, empty, -⟩ := drain_free (s := { s with lanes }) before d
    exact congrArg TickQueue.jobs empty

namespace Reached

variable {turn : Turn}

theorem awaiting (p : Fresh o) (up : o.bringUp.loop = .running) (r : Reached o turn s)
    (running : s.loop = .running) (bringing : s.phase = .initializing) :
    o.bringUp.stage.Awaiting s.stage := by
  induction r with
  | broughtUp =>
    obtain ⟨untold, first⟩ := p.broughtUp_urgent up bringing
    refine ⟨untold, first, first.imp_right fun posted => ⟨posted, posted⟩, .refl _, ?_⟩
    intro posted last
    rw [posted] at last
    cases last
  | @handled turn s t m lanes bound _ _ before next h ih =>
    have still : s.phase = .initializing := by
      by_contra left
      exact handle_left (s := { s with lanes }) left h bringing
    have awaiting := ih before still
    rcases awaiting.urgent with urgent | ⟨posted, urgent⟩
    · -- The announcement ends bring-up.
      have urgent : s.lanes.urgent = [.ready] := urgent
      simp only [Lanes.next?, urgent, Option.some.injEq, Prod.mk.injEq] at next
      obtain ⟨rfl, rfl⟩ := next
      cases h
      exact absurd bringing (becomeReady_phase _)
    · have urgent : s.lanes.urgent = [.drain, .ready] := urgent
      simp only [Lanes.next?, urgent, Option.some.injEq, Prod.mk.injEq] at next
      obtain ⟨rfl, rfl⟩ := next
      exact drain_awaiting awaiting posted rfl h
  | waited _ _ ih => exact ih running bringing
  | helped _ h ih =>
    refine runHelpers_awaiting (ih ((runHelpers_loop h).symm.trans running) ?_) h
    by_contra left
    exact left_kept.runHelpers left h bringing
  | due _ ih => exact ih running bringing
  | passed _ _ ih =>
    have awaiting := ih running bringing
    exact ⟨awaiting.untold, awaiting.first, awaiting.urgent, awaiting.log, awaiting.served⟩
  | acted _ heeds a _ =>
    -- The host is not heeded in bring-up.
    have heeds := deeds_heedsHost heeds (act_deeds a _) running
    simp [helpersWait, bringing] at heeds
  | asked _ heeds asks _ =>
    have heeds := deeds_heedsHost heeds (blockingAsk_deeds asks _) running
    simp [helpersWait, bringing] at heeds
  | dropped _ _ ih =>
    have awaiting := ih running bringing
    exact ⟨awaiting.untold, awaiting.first, awaiting.urgent, awaiting.log, awaiting.served⟩

/-- As long as the loop runs in bring-up no observer is told, and the next message is the
announcement, unless a drain was posted before the loop was entered: then it may be that drain.
Until then the loop has done nothing, and behind it, as long as nobody keeps the lock, it has run
all jobs. Everything else is done by helpers. -/
theorem before_announcement (p : Fresh o) (up : o.bringUp.loop = .running) (r : Reached o turn s)
    (running : s.loop = .running) (bringing : s.phase = .initializing) :
    let posted := o.bringUp.lanes.urgent = [.drain, .ready]
    let drained := posted ∧ s.lanes.urgent = [.ready]
    s.readiness.ready = false ∧
      (posted ∨ o.bringUp.lanes.urgent = [.ready]) ∧
      (s.lanes.urgent = [.ready] ∨ posted ∧ s.lanes.urgent = [.drain, .ready]) ∧
      (∃ entries, (∀ e ∈ entries, e.isOwn .helper = true ∨ drained ∧ e.isOwn .loop = true) ∧
        s.log = entries ++ o.bringUp.log) ∧
      (drained → s.lock = .free → s.journal.executed = s.journal.accepted) := by
  intro posted drained
  have awaiting := r.awaiting p up running bringing
  have order : s.journal.accepted = s.journal.executed ++ [] ++ s.ticks.jobs :=
    (r.tallied p).order
  refine ⟨awaiting.untold, awaiting.first.symm, awaiting.urgent, awaiting.log, ?_⟩
  rintro ⟨posted, last⟩ free
  rw [show s.ticks.jobs = [] from awaiting.served posted last free] at order
  simpa using order.symm

end Reached

/-- A session for which the host enqueues a job while its engine is brought up. -/
def posting : Session :=
  ((plain default).earlySteps [.act (.tick .handle false "j" [.phase .handle])]).2.2

theorem posting_fresh : Fresh posting := earlySteps_fresh _ (plain_fresh _)

/-- The job runs before the announcement; without it the announcement comes first. -/
theorem before_announcement_posting :
    (∃ s, Reached posting .helpers s ∧ s.loop = .running ∧ s.phase = .initializing ∧
      s.readiness.ready = false ∧ s.lanes.urgent = [.ready] ∧ jobsBegun s.log = ["j"] ∧
      s.journal.executed = s.journal.accepted) ∧
    (plain default).bringUp.readiness.ready = false ∧
      (plain default).bringUp.lanes.urgent = [.ready] := by
  refine ⟨?_, ?_⟩
  · have up : posting.bringUp.loop = .running := by decide +kernel
    have bringing : posting.bringUp.phase = .initializing := by decide +kernel
    -- Bring-up leaves two messages in the urgent lane, so the first of them is a drain.
    have two : posting.bringUp.lanes.urgent.length = 2 := by decide +kernel
    have posted : posting.bringUp.lanes.urgent = [.drain, .ready] := by
      rcases (posting_fresh.broughtUp_urgent up bringing).2 with one | posted
      · rw [one] at two
        cases two
      · exact posted
    have next : posting.bringUp.lanes.next? =
        some (.drain, { posting.bringUp.lanes with urgent := [.ready] }) := by
      simp [Lanes.next?, posted]
    let taken : Session := { posting.bringUp with lanes.urgent := [.ready] }
    have drained : (taken.drain 5 .loop).any (fun t => decide (t.loop = .running ∧
        t.phase = .initializing ∧ t.lock = .free ∧ jobsBegun t.log = ["j"])) = true := by
      decide +kernel
    obtain ⟨t, d, found⟩ := (Option.any_eq_true _ _).1 drained
    obtain ⟨running, initializing, free, begun⟩ := of_decide_eq_true found
    have waits : posting.bringUp.helpersWait = true := by simp [helpersWait, bringing]
    have r : Reached posting .helpers t :=
      (Reached.broughtUp.waited waits).handled (by decide) up next d
    have last : t.lanes.urgent = [.ready] := drain_urgent d
    obtain ⟨untold, -, -, -, served⟩ := r.before_announcement posting_fresh up running initializing
    exact ⟨t, r, running, initializing, untold, last, begun, served ⟨posted, last⟩ free⟩
  · have up : (plain default).bringUp.loop = .running := by decide +kernel
    have bringing : (plain default).bringUp.phase = .initializing := by decide +kernel
    have one : (plain default).bringUp.lanes.urgent.length = 1 := by decide +kernel
    obtain ⟨untold, -, urgent, -⟩ :=
      Reached.broughtUp.before_announcement (plain_fresh default) up up bringing
    refine ⟨untold, urgent.resolve_right ?_⟩
    rintro ⟨-, two⟩
    rw [two] at one
    cases one

end Session
end ScriptHost
