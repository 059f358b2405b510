import ScriptHost.Proofs.Abreast
import ScriptHost.Proofs.FirstInstant
import ScriptHost.Proofs.Independence

/-!
# Intermissions

The host may pause a session and let it go on, as often as it likes and at any time. What is seen of
that are releases which come at other times, and nothing else: everything else is logged in the same
order and at the same times, and whatever else the host asks for is answered in the same way.

## Main definitions

* `HostStep.others` — steps of the host, apart from pausing.
* `Scenario.others` — a scenario without its intermissions; two scenarios that differ in
  intermissions alone are the same without them.
* `Session.Stepping` — what a step of the host does.
* `Session.Alongside` — two sessions that can be told apart by their intermissions only.

## Main statements

* `Session.step_even` — a step of the host does the same on both sides.
* `Session.stepAll_alongside` — so do several steps, with intermissions among them.
* `Scenario.chart_log` — the chart of a scenario has the entries of its log.
* `Scenario.intermissions_affect_releases_only` — of two scenarios that differ in intermissions
  alone, all but releases is the same.
-/

namespace ScriptHost

/-! ## Steps without intermissions -/

namespace HostStep

/-- Whether a step of the host pauses the session or lets it go on. -/
def isPausing : HostStep → Bool
  | .act .pause | .act .unpause => true
  | _ => false

/-- All steps apart from pausing. -/
def others (steps : List HostStep) : List HostStep := steps.filter fun h => !h.isPausing

/-- What is replied to all steps apart from pausing. -/
def otherReplies (steps : List HostStep) (reports : List Report) : List Reply :=
  ((steps.zip reports).filter fun x => !x.1.isPausing).map (·.2.reply)

variable {h : HostStep} {steps rest : List HostStep} {r : Report} {reports : List Report}

theorem others_pausing (pausing : h.isPausing = true) : others (h :: rest) = others rest := by
  simp [others, pausing]

theorem others_other (other : h.isPausing = false) : others (h :: rest) = h :: others rest := by
  simp [others, other]

theorem otherReplies_pausing (pausing : h.isPausing = true) :
    otherReplies (h :: rest) (r :: reports) = otherReplies rest reports := by
  simp [otherReplies, pausing]

theorem otherReplies_other (other : h.isPausing = false) :
    otherReplies (h :: rest) (r :: reports) = r.reply :: otherReplies rest reports := by
  simp [otherReplies, other]

end HostStep

open HostStep (others otherReplies)

/-! ## Sessions that cannot be paused -/

/-- Code makes no session ready that has not been so. -/
theorem Stage.Stirred.unready {g g' : Stage} (d : Stirred g g')
    (h : g.phase ≠ .ready ∧ g.phase ≠ .paused) : g'.phase ≠ .ready ∧ g'.phase ≠ .paused := by
  induction d with
  | trans _ _ ih ih' => exact ih' (ih h)
  | paused ready => exact absurd ready h.1
  | unpaused paused => exact absurd paused h.2
  | shut => exact ⟨nofun, nofun⟩
  | guarded _ _ _ ih => exact ih h
  | _ => exact h

namespace Session

variable {o s t u v : Session} {bound bound' : Nat} {thread : Thread} {reply reply' : Reply}
  {h : HostStep}

/-- Neither pausing a session nor letting it go on has any effect. -/
def Unready (s : Session) : Prop := s.phase ≠ .ready ∧ s.phase ≠ .paused

theorem unready_kept : KeptByJobs Unready where
  deeds d h := d.stirred.unready h
  lock _ h := h
  ticks _ h := h
  helpers _ h := h
  begun _ _ h := h

theorem Unready.pause (h : s.Unready) : s.pause = (false, s) := if_neg h.1

theorem Unready.unpause (h : s.Unready) : s.unpause = (false, s) := if_neg h.2

/-- A session can be paused while its loop runs, and at no other time. -/
theorem unready_of_arises (arises : Moment.Arises ⟨s, .nothing⟩) (ended : s.loop ≠ .running) :
    s.Unready :=
  have up := arises.upkeep.2.1.up
  ⟨fun ready => ended (up (.inl ready)), fun paused => ended (up (.inr paused))⟩

/-! ## What a step of the host does -/

/-- The host asks the loop for something and waits for the answer, or it is refused at once. -/
inductive Asking (bound : Nat) (s : Session) (a : Action)
    (ask : Session → Except Failure Nat × Session) (reply : Reply) (t : Session) : Prop where
  | taken {query : Nat} (taken : (ask s).1 = .ok query) (answered : reply = t.answerOf query)
      (ran : (ask s).2.run bound 0 = some t)
      (chart : s.chartStep bound (.act a) = s.stamped (ask s).2 ++ (ask s).2.chartRun bound 0)
  | refused {f : Failure} (refused : (ask s).1 = .error f) (answered : reply = .failed f)
      (left : t = (ask s).2) (chart : s.chartStep bound (.act a) = s.stamped t)

/-- The host lets the loop run, drops its handles, asks the loop for something, or has something
done at once. -/
inductive Stepping (bound : Nat) (s : Session) (reply : Reply) (t : Session) : HostStep → Prop where
  | ran {ms : Nat} (answered : reply = .nothing) (ran : s.run bound ms = some t) :
      Stepping bound s reply t (.run ms)
  | dropped (answered : reply = .flag s.isGone)
      (left : t = if s.isGone then s.forsake else s) : Stepping bound s reply t .drop
  | asked {a : Action} {ask : Session → Except Failure Nat × Session}
      (asks : blockingAsk a = some ask) (asking : Asking bound s a ask reply t) :
      Stepping bound s reply t (.act a)
  | acted {a : Action} (direct : blockingAsk a = none) (answered : reply = (s.act a).1)
      (helped : (s.act a).2.runHelpers bound = some t)
      (chart : s.chartStep bound (.act a) = s.stamped t) : Stepping bound s reply t (.act a)

theorem step_cases (d : s.step bound h = some (reply, t)) : Stepping bound s reply t h := by
  cases h with
  | run ms =>
    obtain ⟨u, ran, ⟨⟩⟩ := Option.bind_eq_some_iff.1 d
    exact .ran rfl ran
  | drop =>
    cases d
    exact .dropped rfl rfl
  | act a =>
    unfold step at d
    dsimp only at d
    cases asks : blockingAsk a with
    | some ask =>
      rw [asks] at d
      dsimp only at d
      refine .asked asks ?_
      cases asked : (ask s).1 with
      | ok query =>
        rw [show ask s = (.ok query, (ask s).2) from Prod.ext asked rfl] at d
        obtain ⟨u, ran, ⟨⟩⟩ := Option.bind_eq_some_iff.1 d
        exact .taken asked rfl ran (by simp only [chartStep, asks, asked])
      | error f =>
        rw [show ask s = (.error f, (ask s).2) from Prod.ext asked rfl] at d
        cases d
        exact .refused asked rfl rfl (by simp only [chartStep, asks, asked, List.append_nil])
    | none =>
      rw [asks] at d
      obtain ⟨u, helped, ⟨⟩⟩ := Option.bind_eq_some_iff.1 d
      exact .acted asks rfl helped (by simp only [chartStep, asks, helped])

theorem asking_cases {a : Action} {ask : Session → Except Failure Nat × Session}
    (asks : blockingAsk a = some ask) (d : s.step bound (.act a) = some (reply, t)) :
    Asking bound s a ask reply t := by
  cases step_cases d with
  | acted direct => cases asks.symm.trans direct
  | asked asks' asking =>
    cases asks.symm.trans asks'
    exact asking

theorem Asking.recorded {a : Action} {ask : Session → Except Failure Nat × Session}
    (d : Asking bound s a ask reply t) : Recorded (ask s).2 t := by
  cases d with
  | taken _ _ ran => exact recorded_run ran
  | refused _ _ left => exact left ▸ .refl _

/-! ## Sessions whose loop goes on -/

/-- What the host asks for leaves a session poised. -/
theorem Poised.asked (hs : s.Poised) {a : Action} {ask : Session → Except Failure Nat × Session}
    (asks : blockingAsk a = some ask) : (ask s).2.Poised :=
  hs.deeds (blockingAsk_deeds asks s)
    (runHelpers_none ((blockingAsk_helpers asks s).trans hs.idle) 0)

theorem step_poised (hs : s.Poised) (d : s.step bound h = some (reply, t)) : t.Poised := by
  cases step_cases d with
  | ran _ ran => exact run_poised hs ran
  | dropped _ left =>
    subst left
    split
    · exact hs.forsake
    · exact hs
  | asked asks asking =>
    cases asking with
    | taken _ _ ran => exact run_poised (hs.asked asks) ran
    | refused _ _ left => exact left ▸ hs.asked asks
  | acted _ _ helped => exact hs.deeds (act_deeds _ s) helped

theorem Even.inStep_poised (even : Even s t) (hs : s.Poised) (ht : t.Poised) : InStep s t :=
  ⟨even.same, even.discreet, hs.fit, ht.fit⟩

/-- What the host asks two loops for and waits for. -/
theorem asked_even {a : Action} {ask : Session → Except Failure Nat × Session} (hs : s.Poised)
    (ht : t.Poised) (even : Even s t) (asks : blockingAsk a = some ask)
    (d : Asking bound s a ask reply u) (d' : Asking bound' t a ask reply' v) (once : u.Once)
    (once' : v.Once) :
    reply = reply' ∧ Even u v ∧
      undisposed (s.chartStep bound (.act a)) = undisposed (t.chartStep bound' (.act a)) := by
  obtain ⟨same, asked⟩ := blockingAsk_agree asks (even.inStep_poised hs ht)
    (d.recorded.once once) (d'.recorded.once once')
  have stamps := stamped_even even asked.even (blockingAsk_deeds asks s).grows
    (blockingAsk_deeds asks t).grows
  cases d with
  | refused refused answered left chart =>
    cases d' with
    | taken taken => cases refused.symm.trans (same.trans taken)
    | refused refused' answered' left' chart' =>
      cases refused.symm.trans (same.trans refused')
      subst left left'
      exact ⟨answered.trans answered'.symm, asked.even, by rw [chart, chart', stamps]⟩
  | @taken query taken answered ran chart =>
    cases d' with
    | refused refused => cases taken.symm.trans (same.trans refused)
    | taken taken' answered' ran' chart' =>
      cases taken.symm.trans (same.trans taken')
      obtain ⟨left, charts⟩ :=
        run_even (hs.asked asks) (ht.asked asks) asked.even ran ran' once once'
      have answers : u.answerOf query = v.answerOf query := congrArg (·.answerOf query) left.same
      refine ⟨answered.trans (answers.trans answered'.symm), left, ?_⟩
      rw [chart, chart', undisposed, undisposed, List.filter_append, List.filter_append]
      exact congrArg₂ (· ++ ·) stamps charts

/-- A step of the host does the same to two sessions that are the same without their sweeps. -/
theorem step_even (hs : s.Poised) (ht : t.Poised) (even : Even s t)
    (discreet : h.isDiscreet = true) (d : s.step bound h = some (reply, u))
    (d' : t.step bound' h = some (reply', v)) (once : u.Once) (once' : v.Once) :
    reply = reply' ∧ Even u v ∧
      undisposed (s.chartStep bound h) = undisposed (t.chartStep bound' h) := by
  cases step_cases d with
  | ran answered ran =>
    cases step_cases d' with
    | ran answered' ran' =>
      exact ⟨answered.trans answered'.symm, run_even hs ht even ran ran' once once'⟩
  | dropped answered left =>
    cases step_cases d' with
    | dropped answered' left' =>
      have gone : s.isGone = t.isGone := congrArg (·.isGone) even.same
      subst answered answered' left left'
      rw [gone]
      refine ⟨rfl, ?_, rfl⟩
      split
      · exact ⟨congrArg forsake even.same, { even.discreet with }⟩
      · exact even
  | asked asks asking => exact asked_even hs ht even asks asking (asking_cases asks d') once once'
  | acted direct answered helped chart =>
    cases step_cases d' with
    | asked asks => cases asks.symm.trans direct
    | acted _ answered' helped' chart' =>
      obtain ⟨same, acted⟩ := act_agree (even.inStep_poised hs ht) discreet
        ((recorded_runHelpers helped).once once) ((recorded_runHelpers helped').once once')
      have left := (runHelpers_inStep acted helped helped' once once').even
      refine ⟨answered.trans (same.trans answered'.symm), left, ?_⟩
      rw [chart, chart']
      exact stamped_even even left ((act_deeds _ s).grows.trans (grows_runHelpers helped))
        ((act_deeds _ t).grows.trans (grows_runHelpers helped'))

/-! ## Intermissions -/

/-- An intermission begins or ends, or nothing happens. -/
theorem step_pausing (pausing : h.isPausing = true) (idle : s.helpers = 0)
    (d : s.step bound h = some (reply, t)) :
    (t = s.pause.2 ∨ t = s.unpause.2) ∧ s.chartStep bound h = s.stamped t := by
  have paused : s.pause.2.helpers = 0 := by
    rcases pause_cases s with eq | ⟨-, eq⟩ <;> rw [eq]
    · exact idle
    · rw [withdrawSweep_eq]
      exact idle
  have unpaused : s.unpause.2.helpers = 0 := by
    rcases unpause_cases s with eq | ⟨-, eq⟩ <;> rw [eq]
    · exact idle
    · exact (congrArg Stage.helpers (stage_armSweep _ true)).trans idle
  match h, pausing with
  | .act .pause, _ =>
    cases step_cases d with
    | asked asks => cases asks
    | acted _ _ helped chart =>
      have helped : s.pause.2.runHelpers bound = some t := helped
      rw [runHelpers_none paused] at helped
      exact ⟨.inl (Option.some.inj helped).symm, chart⟩
  | .act .unpause, _ =>
    cases step_cases d with
    | asked asks => cases asks
    | acted _ _ helped chart =>
      have helped : s.unpause.2.runHelpers bound = some t := helped
      rw [runHelpers_none unpaused] at helped
      exact ⟨.inr (Option.some.inj helped).symm, chart⟩

/-- Nothing is seen of an intermission. -/
theorem Poised.pausing (hs : s.Poised) (pausing : h.isPausing = true)
    (d : s.step bound h = some (reply, t)) :
    t.bare = s.bare ∧ undisposed (s.chartStep bound h) = [] := by
  obtain ⟨led, chart⟩ := step_pausing pausing hs.idle d
  have same : t.bare = s.bare := by
    by_cases running : s.loop = .running
    · rcases led with rfl | rfl
      · exact pause_bare (hs.rested running).tidy
      · exact unpause_bare s
    · have terminated : s.phase = .terminated := (hs.gone running).terminated
      have unready : s.Unready := by simp [Unready, terminated]
      rcases led with rfl | rfl
      · rw [unready.pause]
      · rw [unready.unpause]
  rw [chart]
  exact ⟨same, stamped_unseen (chartStep_log d).1 (congrArg (·.log) same)⟩

/-! ## Sessions that do not come up -/

/-- The loop does not run, and neither an intermission nor any helper is left to have an effect. -/
structure Down (s : Session) : Prop where
  stopped : s.loop ≠ .running
  unready : s.Unready
  idle : s.helpers = 0

namespace Down

theorem deeds (hs : s.Down) (d : Deeds thread s u) (helped : u.runHelpers bound = some t) :
    t.Down where
  stopped := mt ((runHelpers_loop helped).trans d.loop).symm.trans hs.stopped
  unready := unready_kept.runHelpers (unready_kept.deeds d hs.unready) helped
  idle := runHelpers_idle helped

theorem asked (hs : s.Down) {a : Action} {ask : Session → Except Failure Nat × Session}
    (asks : blockingAsk a = some ask) : (ask s).2.Down :=
  hs.deeds (blockingAsk_deeds asks s)
    (runHelpers_none ((blockingAsk_helpers asks s).trans hs.idle) 0)

theorem ran {ms : Nat} (hs : s.Down) (d : s.run bound ms = some t) : t = s := by
  unfold run at d
  rw [if_pos hs.stopped] at d
  exact (Option.some.inj d).symm

theorem chartRun (hs : s.Down) (ms : Nat) : s.chartRun bound ms = [] := if_pos hs.stopped

theorem step (hs : s.Down) (d : s.step bound h = some (reply, t)) : t.Down := by
  cases step_cases d with
  | ran _ ran => exact hs.ran ran ▸ hs
  | dropped _ left =>
    subst left
    split
    · exact ⟨hs.stopped, hs.unready, hs.idle⟩
    · exact hs
  | asked asks asking =>
    cases asking with
    | taken _ _ ran => exact (hs.asked asks).ran ran ▸ hs.asked asks
    | refused _ _ left => exact left ▸ hs.asked asks
  | acted _ _ helped => exact hs.deeds (act_deeds _ s) helped

/-- What a step does does not depend on the bound. -/
theorem step_unique (hs : s.Down) (d : s.step bound h = some (reply, u))
    (d' : s.step bound' h = some (reply', v)) :
    reply = reply' ∧ u = v ∧ s.chartStep bound h = s.chartStep bound' h := by
  cases step_cases d with
  | ran answered ran =>
    cases step_cases d' with
    | ran answered' ran' =>
      exact ⟨answered.trans answered'.symm, (hs.ran ran).trans (hs.ran ran').symm,
        (hs.chartRun _).trans (hs.chartRun _).symm⟩
  | dropped answered left =>
    cases step_cases d' with
    | dropped answered' left' =>
      exact ⟨answered.trans answered'.symm, left.trans left'.symm, rfl⟩
  | asked asks asking =>
    cases asking with
    | taken taken answered ran chart =>
      cases asking_cases asks d' with
      | refused refused => cases taken.symm.trans refused
      | taken taken' answered' ran' chart' =>
        cases taken.symm.trans taken'
        cases (hs.asked asks).ran ran
        cases (hs.asked asks).ran ran'
        exact ⟨answered.trans answered'.symm, rfl, by
          rw [chart, chart', (hs.asked asks).chartRun, (hs.asked asks).chartRun]⟩
    | refused refused answered left chart =>
      cases asking_cases asks d' with
      | taken taken => cases taken.symm.trans refused
      | refused refused' answered' left' chart' =>
        cases refused.symm.trans refused'
        subst left left'
        exact ⟨answered.trans answered'.symm, rfl, chart.trans chart'.symm⟩
  | acted direct answered helped chart =>
    cases step_cases d' with
    | asked asks => cases asks.symm.trans direct
    | acted _ answered' helped' chart' =>
      cases runHelpers_unique helped helped'
      exact ⟨answered.trans answered'.symm, rfl, chart.trans chart'.symm⟩

theorem pausing (hs : s.Down) (pausing : h.isPausing = true)
    (d : s.step bound h = some (reply, t)) : t = s ∧ s.chartStep bound h = [] := by
  obtain ⟨led, chart⟩ := step_pausing pausing hs.idle d
  have same : t = s := by
    rcases led with rfl | rfl
    · rw [hs.unready.pause]
    · rw [hs.unready.unpause]
  subst same
  exact ⟨rfl, by rw [chart, stamped, logged_same rfl, List.map_nil]⟩

end Down

/-! ## Two sessions -/

/-- Two sessions that only differ in intermissions: both are poised and the same without their
sweeps, or they have not come up. -/
inductive Alongside (s t : Session) : Prop where
  | up (hs : s.Poised) (ht : t.Poised) (even : Even s t)
  | down (same : s = t) (hs : s.Down)

namespace Alongside

theorem symm (a : Alongside s t) : Alongside t s := by
  cases a with
  | up hs ht even => exact .up ht hs even.symm
  | down same hs => exact .down same.symm (same ▸ hs)

/-- An intermission on one side. -/
theorem pausing (a : Alongside s t) (pausing : h.isPausing = true)
    (d : s.step bound h = some (reply, u)) :
    Alongside u t ∧ undisposed (s.chartStep bound h) = [] := by
  cases a with
  | up hs ht even =>
    obtain ⟨same, chart⟩ := hs.pausing pausing d
    exact ⟨.up (step_poised hs d) ht (even.unseen same), chart⟩
  | down same hs =>
    obtain ⟨left, chart⟩ := hs.pausing pausing d
    subst same left
    exact ⟨.down rfl hs, congrArg undisposed chart⟩

/-- Any other step on both sides. -/
theorem step (a : Alongside s t) (discreet : h.isDiscreet = true)
    (d : s.step bound h = some (reply, u)) (d' : t.step bound' h = some (reply', v))
    (once : u.Once) (once' : v.Once) :
    reply = reply' ∧ Alongside u v ∧
      undisposed (s.chartStep bound h) = undisposed (t.chartStep bound' h) := by
  cases a with
  | up hs ht even =>
    obtain ⟨same, left, chart⟩ := step_even hs ht even discreet d d' once once'
    exact ⟨same, .up (step_poised hs d) (step_poised ht d') left, chart⟩
  | down same hs =>
    subst same
    obtain ⟨same, left, chart⟩ := hs.step_unique d d'
    exact ⟨same, .down left (hs.step d), congrArg undisposed chart⟩

/-- The same is reported of a reply: calls wait for a worker on both sides or on neither. -/
theorem reported (a : Alongside s t) (same : reply = reply') :
    (u.report s reply).reply = (v.report t reply').reply := by
  have errands : s.errands = t.errands := by
    cases a with
    | up _ _ even => exact congrArg (·.errands) even.same
    | down same => exact congrArg (·.errands) same
  simp only [report, errands, same]

end Alongside

/-- What is logged in a step stands before what is logged in those that follow. -/
theorem chartAll_cons {rest : List HostStep} (d : s.step bound h = some (reply, t)) :
    undisposed (s.chartAll bound (h :: rest)) =
      undisposed (s.chartStep bound h) ++ undisposed (t.chartAll bound rest) := by
  simp only [chartAll, d, undisposed, List.filter_append]

theorem stepAll_cons_some {rest : List HostStep} {reports : List Report}
    (d : s.stepAll bound (h :: rest) = some (reports, t)) :
    ∃ reply u later, s.step bound h = some (reply, u) ∧ u.stepAll bound rest = some (later, t) ∧
      reports = s.report u reply :: later := by
  rw [stepAll_cons] at d
  obtain ⟨⟨reply, u⟩, stepped, d⟩ := Option.bind_eq_some_iff.1 d
  obtain ⟨⟨later, v⟩, others, d⟩ := Option.bind_eq_some_iff.1 d
  cases d
  exact ⟨reply, u, later, stepped, others, rfl⟩

/-- The host takes the same steps with two sessions, apart from intermissions. -/
theorem stepAll_alongside {steps steps' : List HostStep} {reports reports' : List Report}
    {s t : Session} (a : Alongside s t) (same : others steps = others steps')
    (discreet : ∀ h ∈ others steps, h.isDiscreet = true)
    (d : s.stepAll bound steps = some (reports, u))
    (d' : t.stepAll bound' steps' = some (reports', v)) (once : u.Once) (once' : v.Once) :
    undisposed (s.chartAll bound steps) = undisposed (t.chartAll bound' steps') ∧
      otherReplies steps reports = otherReplies steps' reports' := by
  -- An intermission on one side is no step of the other; everything else is done on both.
  by_cases left : ∃ h rest, steps = h :: rest ∧ h.isPausing = true
  · obtain ⟨h, rest, rfl, pausing⟩ := left
    obtain ⟨reply, w, later, stepped, played, rfl⟩ := stepAll_cons_some d
    obtain ⟨a, none⟩ := a.pausing pausing stepped
    rw [HostStep.others_pausing pausing] at same discreet
    rw [chartAll_cons stepped, none, HostStep.otherReplies_pausing pausing]
    exact stepAll_alongside a same discreet played d' once once'
  by_cases right : ∃ h rest, steps' = h :: rest ∧ h.isPausing = true
  · obtain ⟨h, rest, rfl, pausing⟩ := right
    obtain ⟨reply, w, later, stepped, played, rfl⟩ := stepAll_cons_some d'
    obtain ⟨a, none⟩ := a.symm.pausing pausing stepped
    rw [HostStep.others_pausing pausing] at same
    rw [chartAll_cons stepped, none, HostStep.otherReplies_pausing pausing]
    exact stepAll_alongside a.symm same discreet d played once once'
  have other {h : HostStep} {rest l : List HostStep} (ahead : l = h :: rest)
      (none : ¬ ∃ h rest, l = h :: rest ∧ h.isPausing = true) : h.isPausing = false :=
    Bool.eq_false_iff.2 fun pausing => none ⟨h, rest, ahead, pausing⟩
  match steps, steps' with
  | [], [] => exact ⟨rfl, rfl⟩
  | h :: rest, [] => rw [HostStep.others_other (other rfl left)] at same; cases same
  | [], h :: rest => rw [HostStep.others_other (other rfl right)] at same; cases same
  | h :: rest, h' :: rest' =>
    have unpausing := other rfl left
    have unpausing' := other rfl right
    rw [HostStep.others_other unpausing] at same discreet
    rw [HostStep.others_other unpausing'] at same
    obtain ⟨rfl, follow⟩ := List.cons.inj same
    obtain ⟨reply, w, later, stepped, played, rfl⟩ := stepAll_cons_some d
    obtain ⟨reply', w', later', stepped', played', rfl⟩ := stepAll_cons_some d'
    obtain ⟨replies, a, chart⟩ := a.step (discreet h List.mem_cons_self) stepped stepped'
      ((recorded_stepAll played).once once) ((recorded_stepAll played').once once')
    obtain ⟨charts, others⟩ := stepAll_alongside a follow
      (fun h mem => discreet h (List.mem_cons_of_mem _ mem)) played played' once once'
    rw [chartAll_cons stepped, chartAll_cons stepped', chart, charts,
      HostStep.otherReplies_other unpausing, HostStep.otherReplies_other unpausing, others]
    exact ⟨rfl, congrArg (· :: _) (a.reported replies)⟩
termination_by steps.length + steps'.length

/-! ## Before bring-up -/

/-- A session that has not been brought up cannot be paused. -/
theorem Fresh.unready (p : Fresh s) : s.Unready :=
  unready_of_arises p.arises fun running => nomatch running.symm.trans p.stage.1

/-- Intermissions before bring-up have no effect. -/
theorem Fresh.earlyStep_pausing (p : Fresh s) (pausing : h.isPausing = true) :
    s.earlyStep h = (.flag false, [], s) := by
  match h, pausing with
  | .act .pause, _ =>
    have acted : s.act .pause = (.flag s.pause.1, s.pause.2) := rfl
    show ((s.act .pause).1, [], (s.act .pause).2) = _
    rw [acted, p.unready.pause]
  | .act .unpause, _ =>
    have acted : s.act .unpause = (.flag s.unpause.1, s.unpause.2) := rfl
    show ((s.act .unpause).1, [], (s.act .unpause).2) = _
    rw [acted, p.unready.unpause]

/-- What the host does before bring-up is the same without its intermissions. -/
theorem earlySteps_others (p : Fresh s) (steps : List HostStep) :
    (s.earlySteps (others steps)).2 = (s.earlySteps steps).2 ∧
      otherReplies steps (s.earlySteps steps).1 =
        (s.earlySteps (others steps)).1.map (·.reply) := by
  induction steps generalizing s with
  | nil => exact ⟨rfl, rfl⟩
  | cons h rest ih =>
    cases pausing : h.isPausing with
    | true =>
      have still := p.earlyStep_pausing pausing
      obtain ⟨same, replies⟩ := ih p
      rw [HostStep.others_pausing pausing, earlySteps_cons, still, earlyReported,
        HostStep.otherReplies_pausing pausing]
      exact ⟨same, replies⟩
    | false =>
      obtain ⟨same, replies⟩ := ih (p.early h)
      rw [HostStep.others_other pausing, earlySteps_cons, earlySteps_cons, earlyReported,
        earlyReported, HostStep.otherReplies_other pausing]
      exact ⟨by rw [same], congrArg (_ :: ·) replies⟩

/-! ## Bring-up -/

/-- Bring-up and the first instant lead to a session that is alongside itself. -/
theorem start_alongside (p : Fresh o) (d : o.Discreet) (started : o.start bound = some t)
    (once : t.Once) : Alongside t t := by
  by_cases running : t.loop = .running
  · have poised := start_poised p started running
    exact .up poised poised ⟨rfl, start_discreet p d started running once⟩
  · have leads := (p.start_tapes started).leads
    rw [start_eq] at started
    obtain ⟨u, -, helped⟩ := Option.bind_eq_some_iff.1 started
    exact .down rfl ⟨running, unready_of_arises (p.arises.leads leads)
      running, runHelpers_idle helped⟩

end Session

/-! ## Scenarios -/

/-- What is replied in a scenario, to everything but pausing: before bring-up, on bring-up, and
after it. -/
def Transcript.others (x : Transcript) (c : Scenario) : List Reply :=
  otherReplies c.early x.early ++ x.start.reply :: otherReplies c.steps x.steps

namespace Scenario

open Session

/-- The same scenario without its intermissions. -/
def others (c : Scenario) : Scenario :=
  { c with early := HostStep.others c.early, steps := HostStep.others c.steps }

/-- Whether neither the code nor the host, apart from its intermissions, looks at phase and counters
or pauses. -/
def isDiscreet (c : Scenario) : Bool :=
  c.program.isDiscreet && c.others.early.all HostStep.isDiscreet &&
    c.others.steps.all HostStep.isDiscreet

variable {isDirectory : String → Bool} {env : Locale.Environment} {c c' : Scenario}
  {bound bound' : Nat} {x x' : Transcript} {last last' : Session}

/-- What a scenario is made of, if there is a session. -/
theorem outcome_cases (d : c.outcome bound isDirectory env = some (.ok (x, last))) :
    ∃ s started, spawn isDirectory env c.settings c.program c.modules = .ok s ∧
      (s.earlySteps c.early).2.2.start bound = some started ∧
      started.stepAll bound c.steps = some (x.steps, last) ∧
      x.early = (s.earlySteps c.early).1 ∧
      x.start.reply =
        (s.report started (.replies (answers (s.earlySteps c.early).2.1 started))).reply ∧
      c.chart bound isDirectory env = s.stamped started ++ started.chartAll bound c.steps := by
  cases spawned : spawn isDirectory env c.settings c.program c.modules with
  | error f =>
    unfold outcome at d
    rw [spawned] at d
    cases d
  | ok s =>
    obtain ⟨-, attends⟩ := attended_of_outcome spawned d
    obtain ⟨started, start, attends⟩ := Option.bind_eq_some_iff.1 attends
    obtain ⟨y, played, same⟩ := Option.bind_eq_some_iff.1 attends
    cases same
    exact ⟨s, started, rfl, start, played, rfl, rfl, by simp only [chart, spawned, start]⟩

/-- The chart of a scenario has the entries of its log. -/
theorem chart_log (d : c.outcome bound isDirectory env = some (.ok (x, last))) :
    (c.chart bound isDirectory env).map (·.2) = last.log.reverse := by
  obtain ⟨s, started, spawned, start, played, -, -, chart⟩ := outcome_cases d
  obtain ⟨grows, entries⟩ := chartAll_log played
  have grows' := (grows_earlySteps c.early s).trans (grows_start start)
  have new : s.log = [] := by
    obtain ⟨settings, locale, program, modules, rfl⟩ := Moment.spawned_eq ⟨_, _, _, _, _, spawned⟩
    rfl
  rw [chart, List.map_append, map_stamped, entries, ← logged_trans grows' grows, logged, new,
    List.length_nil, Nat.sub_zero, List.take_length]

/-- Two scenarios differ in intermissions alone, their code does not look at phase and counters or
pause, and no pair is registered twice. Then all that is logged is the same, and at the same times,
but for releases; and so are the replies to everything but pausing. (The charts have all entries of
the logs: `chart_log`.) -/
theorem intermissions_affect_releases_only (same : c.others = c'.others)
    (discreet : c.isDiscreet = true)
    (d : c.outcome bound isDirectory env = some (.ok (x, last)))
    (d' : c'.outcome bound' isDirectory env = some (.ok (x', last'))) (once : last.Once)
    (once' : last'.Once) :
    undisposed (c.chart bound isDirectory env) = undisposed (c'.chart bound' isDirectory env) ∧
      x.others c = x'.others c' := by
  obtain ⟨s, started, spawned, start, played, early, told, chart⟩ := outcome_cases d
  obtain ⟨s', started', spawned', start', played', early', told', chart'⟩ := outcome_cases d'
  simp only [others, Scenario.mk.injEq] at same
  obtain ⟨settings, program, modules, -, before, after⟩ := same
  simp only [isDiscreet, Bool.and_eq_true, List.all_eq_true] at discreet
  obtain ⟨⟨code, earlies⟩, steps⟩ := discreet
  rw [← settings, ← program, ← modules, spawned] at spawned'
  cases spawned'
  have p : Fresh s := .spawned spawned
  obtain ⟨led, replies⟩ := earlySteps_others p c.early
  obtain ⟨led', replies'⟩ := earlySteps_others p c'.early
  rw [← before] at led' replies'
  -- What the host has done before bring-up, and so all up to the first instant, is the same.
  rw [← led', led] at start' told'
  cases start_unique start start'
  have first := (recorded_stepAll played).once once
  have ready : (s.earlySteps c.early).2.2.Discreet := by
    have once : (s.earlySteps (HostStep.others c.early)).2.2.Once :=
      led ▸ (recorded_start start).once first
    exact led ▸ earlySteps_discreet p (spawn_discreet code spawned) earlies once
  have a := start_alongside (earlySteps_fresh c.early p) ready start first
  obtain ⟨charts, answers⟩ := stepAll_alongside a after steps played played' once once'
  constructor
  · rw [chart, chart', undisposed, undisposed, List.filter_append, List.filter_append]
    exact congrArg (_ ++ ·) charts
  · unfold Transcript.others
    rw [early, early', replies, replies', told, told', answers]

/-- A pair is released after its timer has fired; there may be intermissions before bring-up and
before the timer fires. -/
def interrupted (early steps : List HostStep) : Scenario where
  settings := { Settings.default with cleanupInterval := 8 }
  program := { (default : Program) with callbacks := [(1, [[.emit "e" .null]])] }
  modules := []
  noThreads := false
  early := early
  steps := .act (.schedule .handle ⟨1, 2⟩ 5 false) :: steps ++ [.run 10]

/-- The scenario ends, and one pair has been registered in it, once. -/
theorem interrupted_ends {early steps : List HostStep}
    (h : ((interrupted early steps).outcome 9 (fun _ => false) ⟨none, none, none⟩).any (fun r =>
      r.toOption.any fun y => y.2.journal.registered = [⟨1, 2⟩]) = true) :
    ∃ x last, (interrupted early steps).outcome 9 (fun _ => false) ⟨none, none, none⟩ =
      some (.ok (x, last)) ∧ last.Once := by
  obtain ⟨r, came, found⟩ := (Option.any_eq_true _ _).1 h
  obtain ⟨⟨x, last⟩, ok, found⟩ := (Option.any_eq_true _ _).1 found
  cases r with
  | error f => cases ok
  | ok y =>
    cases ok
    refine ⟨x, last, came, ?_⟩
    unfold Once
    rw [of_decide_eq_true found]
    exact List.nodup_singleton _

/-- What is logged in such a scenario. -/
def interruptedChart (early steps : List HostStep) : List (Nat × Entry) :=
  (interrupted early steps).chart 9 (fun _ => false) ⟨none, none, none⟩

/-- Paused in time, the pair is not released, and its timer fires all the same. -/
theorem timer_fires_in_intermission :
    undisposed (interruptedChart [] []) =
        undisposed (interruptedChart [.act .unpause] [.act .pause]) ∧
      (undisposed (interruptedChart [] [])).length = 3 ∧
      (interruptedChart [] []).any (·.2.isDispose) = true ∧
      (interruptedChart [.act .unpause] [.act .pause]).any (·.2.isDispose) = false := by
  obtain ⟨x, last, d, once⟩ := @interrupted_ends [] [] (by decide +kernel)
  obtain ⟨x', last', d', once'⟩ :=
    @interrupted_ends [.act .unpause] [.act .pause] (by decide +kernel)
  have others : (interrupted [] []).others = (interrupted [.act .unpause] [.act .pause]).others :=
    rfl
  have discreet : (interrupted [] []).isDiscreet = true := rfl
  have same := (intermissions_affect_releases_only others discreet d d' once once').1
  exact ⟨same, by decide +kernel, by decide +kernel, by decide +kernel⟩

end Scenario
end ScriptHost
