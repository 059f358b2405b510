import ScriptHost.Proofs.Hosted

/-!
# What is logged when

The entries of the log do not tell when they were made, but the clock does not go on while anything
is done. So what has been logged while the loop handles the messages of one instant, or while the
host acts, has been logged at the time that the clock read then.

## Main definitions

* `Session.Grows` — nothing has been taken off the log.
* `Session.stamped` — what has been logged on the way from one state to another, at the time of the
  first.
* `Session.chartTo`, `Session.chartStep`, `Session.chartAll`, `Scenario.chart` — what is logged
  while the loop runs and the host acts, each entry with its time.

## Main statements

* `Session.grows_handle`, `Session.grows_settle`, `Session.grows_start` — the log only grows.
* `Session.chartRun_log`, `Session.chartAll_log` — a chart has the entries that have been logged.
-/

namespace ScriptHost

theorem Stage.Stirred.grows {g g' : Stage} (d : Stirred g g') : g.log <:+ g'.log := by
  induction d with
  | trans _ _ ih ih' => exact ih.trans ih'
  | noted g => exact List.suffix_append _ _
  | guarded _ _ _ ih => exact ih
  | _ => exact List.suffix_rfl

namespace Session

variable {thread : Thread} {s t u : Session} {bound : Nat}

/-! ## The log only grows -/

/-- Nothing has been taken off the log. -/
def Grows (s t : Session) : Prop := s.log <:+ t.log

namespace Grows

theorem same (h : t.log = s.log) : Grows s t := ⟨[], h.symm⟩

theorem refl (s : Session) : Grows s s := same rfl

theorem trans (h : Grows s t) (h' : Grows t u) : Grows s u := List.IsSuffix.trans h h'

end Grows

theorem Deeds.grows (d : Deeds thread s t) : Grows s t := d.stirred.grows

theorem grows_kept (log : List Entry) : KeptByDrains fun s => log <:+ s.stage.log where
  deeds d h := h.trans d.stirred.grows
  lock _ h := h
  ready _ _ h := h
  ticks _ h := h
  helpers _ h := h
  begun _ _ h := h.trans (List.suffix_cons _ _)

theorem grows_released {log : List Entry} {g : Stage} (pairs : List Pair) (h : log <:+ g.log) :
    log <:+ (g.released pairs).log :=
  h.trans (List.suffix_append _ _)

theorem grows_finish {query : Option Nat} (d : s.finish query = some t) : Grows s t := by
  have swept := Kept.swept (Q := fun g => s.log <:+ g.log) (grows_kept s.log).toKept
    grows_released (s := s.record .lastSweep) List.suffix_rfl
  rw [eq_finish d]
  exact swept

theorem grows_terminate {query : Option Nat} (d : s.terminate bound query = some t) :
    Grows s t := by
  obtain ⟨u, drained, d⟩ := terminate_cases d
  obtain ⟨running, cleared⟩ := stage_clear s
  have cleared : Grows s s.clear := .same (congrArg Stage.log cleared)
  refine Grows.trans ?_ (grows_finish d)
  rcases drained with ⟨-, rfl⟩ | drained
  · exact cleared
  · have drained := (grows_kept s.log).drain (s := s.clear) cleared drained
    exact drained

theorem grows_handle {m : Message} (d : s.handle bound m = some t) : Grows s t :=
  Kept.handle (Q := fun g => s.log <:+ g.log) (grows_kept s.log).toKept grows_released
    (fun _ h => h) (fun _ _ => grows_terminate)
    (fun _ => (grows_kept s.log).drain List.suffix_rfl) List.suffix_rfl d

theorem grows_runHelpers (d : s.runHelpers bound = some t) : Grows s t :=
  (grows_kept s.log).runHelpers (Grows.refl s) d

theorem grows_follow (settled : ∀ {u : Session}, u.settle bound = some t → Grows u t)
    (followed : s.follow bound = some t) : Grows s t := by
  obtain ⟨u, first, d⟩ := follow_cases followed
  rcases first with ⟨-, rfl⟩ | ⟨-, helped⟩
  · exact settled d
  · exact (grows_runHelpers helped).trans (settled d)

theorem grows_settle (d : s.settle bound = some t) : Grows s t := by
  induction bound generalizing s with
  | zero => cases d
  | succ bound ih =>
    rw [settle_succ] at d
    split at d
    · cases d
      exact .refl _
    split at d
    · obtain ⟨u, handled, d⟩ := Option.bind_eq_some_iff.1 d
      exact (grows_handle handled).trans (grows_follow ih d)
    · split at d
      · split at d
        · exact (Grows.same rfl : Grows s s.deliverDue).trans (ih d)
        · cases d
          exact .refl _
      · cases d
        exact .refl _

theorem grows_earlySteps (steps : List HostStep) (s : Session) :
    Grows s (s.earlySteps steps).2.2 := by
  induction steps generalizing s with
  | nil => exact .refl s
  | cons h rest ih => exact (earlyStep_deeds h s).grows.trans (ih _)

theorem grows_start (d : s.start bound = some t) : Grows s t := by
  rw [start_eq] at d
  obtain ⟨u, followed, helped⟩ := Option.bind_eq_some_iff.1 d
  have up : Grows s s.bringUp := by
    obtain ⟨v, deeds, h⟩ := bringUp_cases s
    -- Entering the loop arms a sweep and posts a message, and logs nothing.
    refine deeds.grows.trans (.same ?_)
    rcases h with h | h | h <;> rw [h]
    · rfl
    · rfl
    · exact congrArg Stage.log (stage_armSweep (v.unlock.postUrgent .ready).2 true)
  exact (up.trans (grows_follow grows_settle followed)).trans (grows_runHelpers helped)

/-! ## Entries and their times -/

/-- What has been logged on the way from one state to another, the oldest entry first. -/
def logged (s t : Session) : List Entry :=
  (t.log.take (t.log.length - s.log.length)).reverse

/-- What has been logged on the way, at the time of the first state. -/
def stamped (s t : Session) : List (Nat × Entry) := (s.logged t).map (s.clock, ·)

/-- What is logged up to a time. -/
def chartTo : Nat → Nat → Session → List (Nat × Entry)
  | 0, _, _ => []
  | bound + 1, target, s =>
    match s.settle bound with
    | none => []
    | some t =>
      s.stamped t ++
        if t.loop ≠ .running then []
        else
          match t.lanes.nextDue? with
          | some due =>
            if due ≤ target then chartTo bound target { t with clock := due }.deliverDue else []
          | none => []

/-- What is logged from the next instant on. -/
def chartOn (bound target : Nat) (s : Session) : List (Nat × Entry) :=
  if s.loop ≠ .running then []
  else
    match s.lanes.nextDue? with
    | some due =>
      if due ≤ target then chartTo bound target { s with clock := due }.deliverDue else []
    | none => []

/-- What is logged while the loop runs for a time. -/
def chartRun (bound ms : Nat) (s : Session) : List (Nat × Entry) :=
  if s.loop ≠ .running then [] else s.deliverDue.chartTo bound (s.clock + ms)

/-- What is logged in a step of the host. -/
def chartStep (bound : Nat) (h : HostStep) (s : Session) : List (Nat × Entry) :=
  match h with
  | .run ms => s.chartRun bound ms
  | .drop => []
  | .act a =>
    match blockingAsk a with
    | some ask =>
      s.stamped (ask s).2 ++
        match (ask s).1 with
        | .ok _ => (ask s).2.chartRun bound 0
        | .error _ => []
    | none =>
      match (s.act a).2.runHelpers bound with
      | some t => s.stamped t
      | none => []

/-- What is logged in several steps. -/
def chartAll (bound : Nat) : List HostStep → Session → List (Nat × Entry)
  | [], _ => []
  | h :: rest, s =>
    s.chartStep bound h ++
      match s.step bound h with
      | some (_, t) => chartAll bound rest t
      | none => []

end Session

/-- What is logged in a scenario, each entry with its time; nothing if there is no session. -/
def Scenario.chart (bound : Nat) (isDirectory : String → Bool) (env : Locale.Environment)
    (c : Scenario) : List (Nat × Entry) :=
  match Session.spawn isDirectory env c.settings c.program c.modules with
  | .error _ => []
  | .ok s =>
    match (s.earlySteps c.early).2.2.start bound with
    | none => []
    | some started => s.stamped started ++ started.chartAll bound c.steps

namespace Session

variable {s t u : Session} {bound : Nat}

/-! ## The chart has the entries of the log -/

theorem logged_eq {entries : List Entry} (h : entries ++ s.log = t.log) :
    s.logged t = entries.reverse := by
  simp [logged, ← h]

theorem logged_same (h : t.log = s.log) : s.logged t = [] := @logged_eq s t [] h.symm

theorem logged_trans (h : Grows s t) (h' : Grows t u) :
    s.logged u = s.logged t ++ t.logged u := by
  obtain ⟨entries, eq⟩ := h
  obtain ⟨entries', eq'⟩ := h'
  have all : (entries' ++ entries) ++ s.log = u.log := by rw [List.append_assoc, eq, eq']
  rw [logged_eq eq, logged_eq eq', logged_eq all, List.reverse_append]

theorem map_stamped (s t : Session) : (s.stamped t).map (·.2) = s.logged t := by
  simp [stamped, List.map_map, Function.comp_def]

theorem chartTo_succ {target : Nat} (d : s.settle bound = some t) :
    s.chartTo (bound + 1) target = s.stamped t ++ t.chartOn bound target := by
  simp only [chartTo, d]
  rfl

/-- The loop runs up to a time, and what it logs is on the chart. -/
theorem chartTo_log {target : Nat} (d : s.runTo bound target = some t) :
    Grows s t ∧ (s.chartTo bound target).map (·.2) = s.logged t := by
  induction bound generalizing s with
  | zero => cases d
  | succ bound ih =>
    rw [runTo_succ] at d
    obtain ⟨u, settled, d⟩ := Option.bind_eq_some_iff.1 d
    have grows := grows_settle settled
    have left : Grows u t ∧ (u.chartOn bound target).map (·.2) = u.logged t := by
      unfold proceed at d
      unfold chartOn
      split at d
      · next ended =>
        cases d
        rw [if_pos ended]
        exact ⟨.refl _, (logged_same rfl).symm⟩
      next running =>
      rw [if_neg running]
      cases next : u.lanes.nextDue? with
      | none =>
        rw [next] at d
        cases d
        exact ⟨.same rfl, (logged_same rfl).symm⟩
      | some due =>
        rw [next] at d
        dsimp only at d ⊢
        split at d
        · next near =>
          rw [if_pos near]
          exact ih d
        · next far =>
          cases d
          rw [if_neg far]
          exact ⟨.same rfl, (logged_same rfl).symm⟩
    refine ⟨grows.trans left.1, ?_⟩
    rw [logged_trans grows left.1, ← left.2, ← map_stamped, chartTo_succ settled, List.map_append]

theorem chartRun_log {ms : Nat} (d : s.run bound ms = some t) :
    Grows s t ∧ (s.chartRun bound ms).map (·.2) = s.logged t := by
  unfold run at d
  unfold chartRun
  split at d
  · next ended =>
    cases d
    rw [if_pos ended]
    exact ⟨.refl _, (logged_same rfl).symm⟩
  · next running =>
    rw [if_neg running]
    obtain ⟨u, ran, d⟩ := Option.bind_eq_some_iff.1 d
    obtain ⟨grows, chart⟩ := chartTo_log ran
    cases d
    split
    · exact ⟨grows, chart⟩
    · exact ⟨grows, chart⟩

theorem chartStep_log {h : HostStep} {reply : Reply} (d : s.step bound h = some (reply, t)) :
    Grows s t ∧ (s.chartStep bound h).map (·.2) = s.logged t := by
  cases h with
  | run ms =>
    obtain ⟨u, ran, ⟨⟩⟩ := Option.bind_eq_some_iff.1 d
    exact chartRun_log ran
  | drop =>
    cases d
    have same : (if s.isGone then s.forsake else s).log = s.log := by split <;> rfl
    exact ⟨.same same, (logged_same same).symm⟩
  | act a =>
    unfold step at d
    unfold chartStep
    dsimp only at d ⊢
    cases asks : blockingAsk a with
    | some ask =>
      rw [asks] at d
      have grows := (blockingAsk_deeds asks s).grows
      dsimp only at d ⊢
      rcases asked : ask s with ⟨result, u⟩
      rw [asked] at d grows
      cases result with
      | ok query =>
        obtain ⟨v, ran, ⟨⟩⟩ := Option.bind_eq_some_iff.1 d
        obtain ⟨grows', chart⟩ := chartRun_log ran
        refine ⟨grows.trans grows', ?_⟩
        rw [logged_trans grows grows', ← chart, ← map_stamped, List.map_append]
      | error f =>
        cases d
        exact ⟨grows, by rw [List.append_nil, map_stamped]⟩
    | none =>
      rw [asks] at d
      obtain ⟨u, helped, ⟨⟩⟩ := Option.bind_eq_some_iff.1 d
      have grows := (act_deeds a s).grows.trans (grows_runHelpers helped)
      refine ⟨grows, ?_⟩
      dsimp only
      rw [helped, map_stamped]

theorem chartAll_log {steps : List HostStep} {reports : List Report}
    (d : s.stepAll bound steps = some (reports, t)) :
    Grows s t ∧ (s.chartAll bound steps).map (·.2) = s.logged t := by
  induction steps generalizing s reports with
  | nil =>
    cases d
    exact ⟨.refl _, (logged_same rfl).symm⟩
  | cons h rest ih =>
    rw [stepAll_cons] at d
    obtain ⟨⟨reply, u⟩, stepped, d⟩ := Option.bind_eq_some_iff.1 d
    obtain ⟨y, others, ⟨⟩⟩ := Option.bind_eq_some_iff.1 d
    obtain ⟨grows, chart⟩ := chartStep_log stepped
    obtain ⟨grows', chart'⟩ := ih others
    refine ⟨grows.trans grows', ?_⟩
    rw [logged_trans grows grows', ← chart, ← chart']
    simp only [chartAll, stepped, List.map_append]

end Session
end ScriptHost
