import ScriptHost.Proofs.InStep

/-!
# Drains of two sessions in step

Two sessions that are in step run the same jobs in the same order, whoever drains them, and remain
in step.

## Main statements

* `Session.runWork_inStep`, `Session.engaged_inStep` — code that the loop runs.
* `Session.drain_inStep`, `Session.runHelpers_inStep` — drains.
-/

namespace ScriptHost
namespace Session

variable {thread : Thread} {s t u v : Session}

/-! ## Code under the execution lock -/

theorem runWork_inStep {access : EngineAccess} (deeds : AccessDeeds access)
    (agrees : AccessAgrees access) {entry : Entry} (noted : InStep (s.note entry) (t.note entry))
    {work : Work} (discreet : work.isDiscreet = true)
    (once : (s.runWork access thread entry work).Once)
    (once' : (t.runWork access thread entry work).Once) :
    InStep (s.runWork access thread entry work) (t.runWork access thread entry work) :=
  (play_agree deeds agrees thread work.actions discreet noted once once').2

theorem engaged_inStep (h : InStep s t) {f : Session → Session}
    (step : ∀ lock, (f { s with lock := lock }).Once → (f { t with lock := lock }).Once →
      InStep (f { s with lock := lock }) (f { t with lock := lock }))
    (once : (s.engaged f).Once) (once' : (t.engaged f).Once) :
    InStep (s.engaged f) (t.engaged f) := by
  by_cases free : t.lock = .free
  · rw [engaged_free free] at once' ⊢
    rw [engaged_free (h.lock_eq.trans free)] at once ⊢
    exact (step _ once once').locked _
  · rw [engaged_held free]
    rw [engaged_held (h.lock_eq ▸ free)]
    exact h

/-- One thing after the other is done with both sessions. -/
theorem foldl_inStep {β : Type} {f : Session → β → Session} {P : Session → Prop} (l : List β)
    (records : ∀ s b, Recorded s (f s b)) (kept : ∀ {s}, ∀ b ∈ l, P s → P (f s b))
    (step : ∀ {s t}, ∀ b ∈ l, P s → P t → InStep s t → (f s b).Once → (f t b).Once →
      InStep (f s b) (f t b)) (hs : P s) (ht : P t) (h : InStep s t)
    (once : (l.foldl f s).Once) (once' : (l.foldl f t).Once) :
    InStep (l.foldl f s) (l.foldl f t) := by
  have grows : ∀ (l : List β) (s : Session), Recorded s (l.foldl f s) := by
    intro l
    induction l with
    | nil => exact .refl
    | cons b rest ih => exact fun s => (records s b).trans (ih _)
  induction l generalizing s t with
  | nil => exact h
  | cons b rest ih =>
    have mem : b ∈ b :: rest := List.mem_cons_self
    have first := step b mem hs ht h ((grows rest _).once once) ((grows rest _).once once')
    exact ih (fun b mem => kept b (List.mem_cons_of_mem _ mem))
      (fun b mem => step b (List.mem_cons_of_mem _ mem)) (kept b mem hs) (kept b mem ht) first once
      once'

/-! ## Draining -/

theorem InStep.begun (h : InStep s t) (job : Work) (thread : Thread) :
    InStep ((s.record (.executed job)).note (.job job.tag thread))
      ((t.record (.executed job)).note (.job job.tag thread)) where
  same := by
    have unseen (u : Session) : (u.record (.executed job)).bare = u.bare := u.record_bare nofun
    rw [note_bare _ rfl, note_bare _ rfl, unseen, unseen, h.same]
  discreet := { h.discreet with }
  fit := fit_kept.begun job thread h.fit
  fit' := fit_kept.begun job thread h.fit'

theorem runJob_inStep (h : InStep s t) {job : Work} (discreet : job.isDiscreet = true)
    (once : (s.runJob thread job).Once) (once' : (t.runJob thread job).Once) :
    InStep (s.runJob thread job) (t.runJob thread job) :=
  (play_agree engineAccess_deeds engineAccess_agrees thread job.actions discreet
    (h.begun job thread) once once').2

theorem InStep.withTicks (h : InStep s t) (ticks : TickQueue Work)
    (fewer : ticks.jobs ⊆ s.ticks.jobs) : InStep { s with ticks } { t with ticks } where
  same := congrArg (fun u : Session => { u with ticks }) h.same
  discreet := h.discreet.ticks fewer
  fit := fit_kept.ticks ticks h.fit
  fit' := fit_kept.ticks ticks h.fit'

theorem recorded_runJob (thread : Thread) (job : Work) (s : Session) :
    Recorded s (s.runJob thread job) :=
  (recorded_kept s).runJob thread job (.refl s)

theorem recorded_drainFrom {bound executed : Nat} {r : Drained}
    (d : s.drainFrom bound executed thread = some (r, t)) : Recorded s t :=
  drainFrom_induct (recorded_kept s).lock (recorded_kept s).ticks
    (fun job h => (recorded_kept s).runJob thread job h) (.refl s) d

theorem drainFrom_inStep {bound bound' executed : Nat} {r r' : Drained}
    (h : InStep s t) (d : s.drainFrom bound executed thread = some (r, u))
    (d' : t.drainFrom bound' executed thread = some (r', v)) (once : u.Once) (once' : v.Once) :
    InStep u v := by
  induction bound generalizing bound' executed s t with
  | zero => cases d
  | succ bound ih =>
    cases bound' with
    | zero => cases d'
    | succ bound' =>
      have looked : InStep { s with ticks := t.ticks.look } { t with ticks := t.ticks.look } :=
        h.withTicks _ (h.ticks_eq ▸ List.Subset.refl _)
      have acquire : s.lock.acquire thread = t.lock.acquire thread := by rw [h.lock_eq]
      simp only [drainFrom] at d d'
      rw [h.ticks_eq, acquire] at d
      cases idle : t.ticks.look.jobs.isEmpty with
      | true =>
        rw [idle] at d d'
        cases d
        cases d'
        exact looked
      | false =>
        rw [idle] at d d'
        rcases granted : t.lock.acquire thread with ⟨grant, lock⟩
        rw [granted] at d d'
        cases grant with
        | granted =>
          -- The same batch is run on both sides, and then both look again.
          have taken : InStep
              { s with lock := lock, ticks := { t.ticks.look with jobs := [] } }
              { t with lock := lock, ticks := { t.ticks.look with jobs := [] } } :=
            (h.withTicks { t.ticks.look with jobs := [] } (List.nil_subset _)).locked lock
          have discreet : ∀ job ∈ t.ticks.look.jobs, job.isDiscreet = true :=
            fun job mem => h.discreet.jobs job (h.ticks_eq ▸ mem)
          have ran := foldl_inStep (P := fun _ => True) t.ticks.look.jobs
            (fun s job => recorded_runJob thread job s) (fun _ _ _ => trivial)
            (fun job mem _ _ h => runJob_inStep h (discreet job mem)) trivial trivial taken
            ((recorded_drainFrom d).once once) ((recorded_drainFrom d').once once')
          exact ih (ran.locked _) d d'
        | reentrant =>
          cases d
          cases d'
          exact h.withTicks t.ticks.look.giveUp (h.ticks_eq ▸ List.Subset.refl _)
        | awaited =>
          -- Neither loop goes on, and whoever else waits changes nothing.
          by_cases loop : thread = .loop
          · simp [loop] at d
          · simp only [loop, Bool.false_eq_true, if_false] at d d'
            cases d
            cases d'
            exact looked

theorem drain_inStep {bound bound' : Nat} (h : InStep s t) (d : s.drain bound thread = some u)
    (d' : t.drain bound' thread = some v) (once : u.Once) (once' : v.Once) : InStep u v := by
  simp only [drain, Option.map_eq_some_iff] at d d'
  obtain ⟨⟨r, _⟩, d, rfl⟩ := d
  obtain ⟨⟨r', _⟩, d', rfl⟩ := d'
  exact drainFrom_inStep h d d' once once'

theorem recorded_drain {bound : Nat} (d : s.drain bound thread = some t) : Recorded s t :=
  (recorded_kept s).drain (.refl s) d

/-- The helpers that have been started drain, as many on both sides. -/
theorem runHelpers_inStep {bound bound' : Nat} (h : InStep s t)
    (d : s.runHelpers bound = some u) (d' : t.runHelpers bound' = some v) (once : u.Once)
    (once' : v.Once) : InStep u v := by
  have helpers : s.helpers = t.helpers := congrArg (·.helpers) h.same
  have rounds : ∀ (l : List Nat) {s t : Session}, InStep s t →
      l.foldlM (fun (s : Session) _ => s.drain bound .helper) s = some u →
      l.foldlM (fun (s : Session) _ => s.drain bound' .helper) t = some v → InStep u v := by
    intro l
    induction l with
    | nil =>
      intro s t h d d'
      cases d
      cases d'
      exact h
    | cons _ rest ih =>
      intro s t h d d'
      simp only [List.foldlM_cons, Option.bind_eq_bind, Option.bind_eq_some_iff] at d d'
      obtain ⟨s', first, d⟩ := d
      obtain ⟨t', first', d'⟩ := d'
      have left : Recorded s' u := drains_induct (P := Recorded s')
        (fun r d => r.trans (recorded_drain d)) rest (.refl s') d
      have left' : Recorded t' v := drains_induct (P := Recorded t')
        (fun r d => r.trans (recorded_drain d)) rest (.refl t') d'
      exact ih (drain_inStep h first first' (left.once once) (left'.once once')) d d'
  have none : InStep { s with helpers := 0 } { t with helpers := 0 } :=
    { same := congrArg (fun u : Session => { u with helpers := 0 }) h.same
      discreet := { h.discreet with }
      fit := fit_kept.helpers 0 h.fit
      fit' := fit_kept.helpers 0 h.fit' }
  unfold runHelpers at d d'
  rw [helpers] at d
  split at d
  · next zero =>
    rw [if_pos zero] at d'
    cases d
    cases d'
    exact h
  · next some =>
    rw [if_neg some] at d'
    exact rounds _ none d d'

end Session
end ScriptHost
