import ScriptHost.Proofs.Course

/-!
# How drains run next-tick jobs

Jobs run in the order in which they are accepted, and none is lost or run twice: at any moment the
accepted jobs are those that have been begun, followed by the rest of the batch at hand and by those
that wait. A drain that gets the lock leaves no job behind.

## Main definitions

* `jobsBegun` — the jobs that the log says were begun.
* `Stage.Tallied` — the accepted jobs are accounted for, in order.

## Main statements

* `Stage.Tallied.stirred` — code keeps the account, whatever it enqueues.
* `Session.drain_tallied` — drains keep it, whoever holds the lock.
* `Session.drain_free` — a drain that gets the lock leaves no job behind and starts no other drain.
* `Session.drain_still` — one that does not get it, or that finds no job, changes nothing.
-/

namespace ScriptHost

/-- The tags of the jobs that entries of the log say were begun, the first ones first. -/
def jobsBegun (log : List Entry) : List String :=
  log.reverse.filterMap fun
    | .job tag _ => some tag
    | _ => none

theorem jobsBegun_append {entries : List Entry} (code : ∀ e ∈ entries, e.byCode = true)
    (log : List Entry) : jobsBegun (entries ++ log) = jobsBegun log := by
  have none : jobsBegun entries = [] := by
    refine List.filterMap_eq_nil_iff.2 fun e mem => ?_
    have code := code e (List.mem_reverse.1 mem)
    cases e with
    | job tag thread => cases code
    | _ => rfl
  simp only [jobsBegun, List.reverse_append, List.filterMap_append] at none ⊢
  rw [none, List.append_nil]

namespace Stage

variable {g g' : Stage} {batch : List Work}

/-- The accepted jobs are those that have been begun, those of a batch, and those that wait. -/
structure Tallied (batch : List Work) (g : Stage) : Prop where
  order : g.accepted = g.executed ++ batch ++ g.ticks.jobs
  begun : jobsBegun g.log = g.executed.map Work.tag

theorem Tallied.accept (h : g.Tallied batch) (job : Work) : (g.accept job).Tallied batch := by
  refine ⟨?_, h.begun⟩
  simp only [Stage.accept, h.order, List.append_assoc]

/-- Code that runs in a batch enqueues behind it. -/
theorem Tallied.stirred (d : Stirred g g') (h : g.Tallied batch) : g'.Tallied batch := by
  induction d with
  | trans _ _ ih ih' => exact ih' (ih h)
  | noted g code => exact ⟨h.order, (jobsBegun_append code g.log).trans h.begun⟩
  | queued _ _ job => exact h.accept job
  | helped _ _ job =>
    have accepted := h.accept job
    exact ⟨accepted.order, accepted.begun⟩
  | posted _ _ job =>
    have accepted := h.accept job
    exact ⟨accepted.order, accepted.begun⟩
  | guarded _ _ _ ih =>
    have inner := ih ⟨h.order, h.begun⟩
    exact ⟨inner.order, inner.begun⟩
  | _ => exact ⟨h.order, h.begun⟩

theorem Tallied.released (h : g.Tallied batch) (pairs : List Pair) :
    (g.released pairs).Tallied batch := by
  have begun : jobsBegun g.log = g.executed.map Work.tag := h.begun
  simp only [jobsBegun] at begun
  refine ⟨h.order, ?_⟩
  simp [Stage.released, jobsBegun, List.filterMap_map, begun]

/-- While a drain is at work no other one is started. -/
theorem Stirred.busy (d : Stirred g g') (draining : g.ticks.draining = true) :
    g'.ticks.draining = true ∧ g'.urgent = g.urgent ∧ g'.helpers = g.helpers := by
  induction d with
  | trans _ _ ih ih' =>
    obtain ⟨draining, urgent, helpers⟩ := ih draining
    obtain ⟨draining, urgent', helpers'⟩ := ih' draining
    exact ⟨draining, urgent'.trans urgent, helpers'.trans helpers⟩
  | helped _ idle _ => simp [TickQueue.isIdle, draining] at idle
  | posted _ idle _ => simp [TickQueue.isIdle, draining] at idle
  | guarded _ _ _ ih => exact ih draining
  | _ => exact ⟨draining, rfl, rfl⟩

end Stage

namespace Session

variable {s t : Session} {batch : List Work}

/-! ## The account of the jobs -/

theorem tallied_kept (batch : List Work) : Kept fun s => s.stage.Tallied batch where
  deeds d h := h.stirred d.stirred
  lock _ h := ⟨h.order, h.begun⟩
  ready _ _ h := ⟨h.order, h.begun⟩

theorem runJob_tallied {job : Work} (h : s.stage.Tallied (job :: batch)) (thread : Thread) :
    (s.runJob thread job).stage.Tallied batch := by
  have begun : ((s.record (.executed job)).note (.job job.tag thread)).stage.Tallied batch := by
    refine ⟨?_, ?_⟩
    · have order := h.order
      simpa [stage, record, note, Journal.accepted, Journal.executed] using order
    · have begun : jobsBegun s.log = s.journal.executed.map Work.tag := h.begun
      simp only [jobsBegun] at begun
      simp [stage, record, note, Journal.executed, jobsBegun, begun]
  exact begun.stirred (runJob_deeds thread job s).stirred

theorem runJobs_tallied (thread : Thread) (jobs : List Work) (h : s.stage.Tallied (jobs ++ batch)) :
    (jobs.foldl (fun s job => s.runJob thread job) s).stage.Tallied batch := by
  induction jobs generalizing s with
  | nil => exact h
  | cons job rest ih => exact ih (runJob_tallied h thread)

/-- The jobs that wait become the batch at hand, and run before any that come meanwhile. -/
theorem drainFrom_tallied {bound executed : Nat} {thread : Thread} {r : Drained}
    (h : s.stage.Tallied []) (d : s.drainFrom bound executed thread = some (r, t)) :
    t.stage.Tallied [] := by
  induction bound generalizing executed s with
  | zero => simp [drainFrom] at d
  | succ bound ih =>
    rcases drainFrom_cases d with ⟨none, rfl⟩ | ⟨-, -, draining, rfl⟩ | ⟨-, -, n, d⟩
    · have order : s.journal.accepted = s.journal.executed ++ [] ++ s.ticks.jobs := h.order
      rw [none] at order
      exact ⟨order, h.begun⟩
    · exact ⟨h.order, h.begun⟩
    · -- What waited is the batch now, and what is enqueued meanwhile comes behind it.
      have taken : ({ s with lock := ⟨some thread⟩, ticks := ⟨[], true⟩ } : Session).stage.Tallied
          (s.ticks.jobs ++ []) := by
        refine ⟨?_, h.begun⟩
        have order := h.order
        simpa [stage] using order
      have ran := runJobs_tallied thread s.ticks.jobs taken
      refine ih ?_ d
      exact ⟨ran.order, ran.begun⟩

theorem drain_tallied {bound : Nat} {thread : Thread} (h : s.stage.Tallied [])
    (d : s.drain bound thread = some t) : t.stage.Tallied [] := by
  simp only [drain, Option.map_eq_some_iff] at d
  obtain ⟨⟨r, t⟩, d, rfl⟩ := d
  exact drainFrom_tallied h d

theorem runHelpers_tallied {bound : Nat} (h : s.stage.Tallied [])
    (d : s.runHelpers bound = some t) : t.stage.Tallied [] :=
  runHelpers_induct (P := fun s => s.stage.Tallied []) (fun h => ⟨h.order, h.begun⟩) drain_tallied
    h d

/-! ## Drains that get the lock -/

/-- A batch leaves the urgent lane and the helpers alone. -/
theorem runJobs_busy (thread : Thread) (jobs : List Work) (draining : s.ticks.draining = true) :
    let u := jobs.foldl (fun s job => s.runJob thread job) s
    u.ticks.draining = true ∧ u.lanes.urgent = s.lanes.urgent ∧ u.helpers = s.helpers := by
  induction jobs generalizing s with
  | nil => exact ⟨draining, rfl, rfl⟩
  | cons job rest ih =>
    obtain ⟨draining, urgent, helpers⟩ := (runJob_deeds thread job s).stirred.busy draining
    obtain ⟨draining, urgent', helpers'⟩ := @ih (s.runJob thread job) draining
    exact ⟨draining, urgent'.trans urgent, helpers'.trans helpers⟩

theorem drainFrom_free {bound executed : Nat} {thread : Thread} {r : Drained}
    (free : s.lock = .free) (d : s.drainFrom bound executed thread = some (r, t)) :
    t.lock = .free ∧ t.ticks = .empty ∧ t.lanes.urgent = s.lanes.urgent ∧
      t.helpers = s.helpers := by
  induction bound generalizing executed s with
  | zero => simp [drainFrom] at d
  | succ bound ih =>
    rcases drainFrom_cases d with ⟨-, rfl⟩ | ⟨held, -⟩ | ⟨-, -, n, d⟩
    · exact ⟨free, rfl, rfl, rfl⟩
    · exact absurd free held
    · obtain ⟨free, empty, urgent, helpers⟩ := ih rfl d
      obtain ⟨-, urgent', helpers'⟩ :=
        @runJobs_busy { s with lock := ⟨some thread⟩, ticks := ⟨[], true⟩ } thread s.ticks.jobs rfl
      exact ⟨free, empty, urgent.trans urgent', helpers.trans helpers'⟩

/-- A drain that gets the lock goes on until no job is left, and starts no other drain. -/
theorem drain_free {bound : Nat} {thread : Thread} (free : s.lock = .free)
    (d : s.drain bound thread = some t) :
    t.lock = .free ∧ t.ticks = .empty ∧ t.lanes.urgent = s.lanes.urgent ∧
      t.helpers = s.helpers := by
  simp only [drain, Option.map_eq_some_iff] at d
  obtain ⟨⟨r, t⟩, d, rfl⟩ := d
  exact drainFrom_free free d

/-- Helpers that get the lock release it. -/
theorem runHelpers_lock {bound : Nat} (free : s.lock = .free) (d : s.runHelpers bound = some t) :
    t.lock = .free :=
  runHelpers_induct (P := fun s => s.lock = .free) (fun h => h) (fun h d => (drain_free h d).1) free
    d

/-- Helpers that get the lock leave no job behind, if there are any helpers. -/
theorem runHelpers_free {bound : Nat} (free : s.lock = .free) (d : s.runHelpers bound = some t) :
    t.helpers = 0 ∧ t.lanes.urgent = s.lanes.urgent ∧
      (s.helpers = 0 ∧ t = s ∨ t.ticks = .empty) := by
  rcases runHelpers_cases d with ⟨none, rfl⟩ | ⟨u, first, rounds, d⟩
  · exact ⟨none, rfl, .inl ⟨none, rfl⟩⟩
  · -- The first helper leaves no job, and those behind it find none.
    have one := drain_free (s := { s with helpers := 0 }) free first
    have all := drains_induct (P := fun u => u.lock = .free ∧ u.ticks = .empty ∧
        u.lanes.urgent = s.lanes.urgent ∧ u.helpers = 0) (fun {u v} h d => ?_) rounds one d
    · obtain ⟨-, empty, urgent, helpers⟩ := all
      exact ⟨helpers, urgent, .inr empty⟩
    · obtain ⟨free, empty, urgent, helpers⟩ := drain_free h.1 d
      exact ⟨free, empty, urgent.trans h.2.2.1, helpers.trans h.2.2.2⟩

/-! ## Drains that do nothing -/

/-- A drain in whose way somebody holds the lock does nothing, and neither does one without jobs. -/
theorem drain_still {bound : Nat} {thread : Thread} (h : s.lock ≠ .free ∨ s.ticks.jobs = [])
    (d : s.drain bound thread = some t) :
    ∃ draining, t = { s with ticks.draining := draining } := by
  simp only [drain, Option.map_eq_some_iff] at d
  obtain ⟨⟨r, t⟩, d, rfl⟩ := d
  cases bound with
  | zero => simp [drainFrom] at d
  | succ bound =>
    rcases drainFrom_cases d with ⟨none, rfl⟩ | ⟨-, -, draining, rfl⟩ | ⟨waiting, free, -⟩
    · exact ⟨false, by simp [TickQueue.empty, none]⟩
    · exact ⟨draining, rfl⟩
    · rcases h with held | none
      · exact absurd free held
      · exact absurd none waiting

theorem runHelpers_still {bound : Nat} (h : s.lock ≠ .free ∨ s.ticks.jobs = [])
    (d : s.runHelpers bound = some t) :
    ∃ draining, t = { s with helpers := 0, ticks.draining := draining } := by
  rcases runHelpers_cases d with ⟨none, rfl⟩ | ⟨u, first, rounds, d⟩
  · exact ⟨t.ticks.draining, by rw [← none]⟩
  · have one := drain_still (s := { s with helpers := 0 }) h first
    refine drains_induct (P := fun u => ∃ draining, u =
      { s with helpers := 0, ticks.draining := draining }) ?_ rounds one d
    rintro - v ⟨draining, rfl⟩ d
    exact drain_still (s := { s with helpers := 0, ticks.draining := draining }) h d

/-! ## The urgent lane -/

/-- A drain posts nothing to the urgent lane: the jobs that it runs find it at work. -/
theorem drain_urgent {bound : Nat} {thread : Thread} (d : s.drain bound thread = some t) :
    t.lanes.urgent = s.lanes.urgent := by
  by_cases free : s.lock = .free
  · exact (drain_free free d).2.2.1
  · obtain ⟨draining, rfl⟩ := drain_still (.inl free) d
    rfl

theorem runHelpers_urgent {bound : Nat} (d : s.runHelpers bound = some t) :
    t.lanes.urgent = s.lanes.urgent :=
  runHelpers_induct (P := fun u => u.lanes.urgent = s.lanes.urgent) (fun h => h)
    (fun h d => (drain_urgent d).trans h) rfl d

end Session
end ScriptHost
