import ScriptHost.Proofs.Lockstep

/-!
# Messages to two sessions

Two sessions that are the same without their sweeps handle a message alike, whatever sweeps they
have handled or have still to handle: unless a pair is registered twice they are the same without
their sweeps again.

## Main definitions

* `Session.Even` — the same is seen of two sessions, with nothing but discreet code in store.
* `Session.Rested` — what holds of a session between two messages.

## Main statements

* `Session.fireTimer_even`, `Session.deliver_even`, `Session.dispatchEvent_even`,
  `Session.terminate_even` — what single messages do.
* `Session.handle_even` — whatever message is handled, unless it is a sweep.
-/

namespace ScriptHost
namespace Session

variable {thread : Thread} {s t u v : Session}

/-! ## Sessions of which the same is seen -/

/-- Two sessions of which the same is seen, with nothing but discreet code in store. -/
structure Even (s t : Session) : Prop where
  same : s.bare = t.bare
  discreet : s.Discreet

theorem InStep.even (h : InStep s t) : Even s t := ⟨h.same, h.discreet⟩

/-- Sweeps hand nothing over. -/
theorem discreet_bare : s.bare.Discreet ↔ s.Discreet := by
  have task (work : Work) : Message.task work ∈ s.bare.lanes.messages ↔
      Message.task work ∈ s.lanes.messages := by
    have armed : (∃ a ∈ s.lanes.alarms, a.message.isSweep = false ∧ a.message = .task work) ↔
        ∃ a ∈ s.lanes.alarms, a.message = .task work :=
      exists_congr fun a => and_congr_right fun _ =>
        and_iff_right_of_imp fun same => same ▸ rfl
    have posted : Message.isSweep (.task work) = false := rfl
    simp [bare, Lanes.bare, Lanes.messages, posted, and_assoc, armed]
  constructor
  · intro h
    exact ⟨h.program, h.jobs, h.observers, fun work mem => h.tasks work ((task work).2 mem)⟩
  · intro h
    exact ⟨h.program, h.jobs, h.observers, fun work mem => h.tasks work ((task work).1 mem)⟩

theorem Phase.unpaused_initializing {p : Phase} :
    p.unpaused = .initializing ↔ p = .initializing := by
  cases p <;> simp [Phase.unpaused]

theorem InStep.initializing (h : InStep s t) :
    s.phase = .initializing ↔ t.phase = .initializing := by
  have unpaused : s.phase.unpaused = t.phase.unpaused := congrArg (·.phase) h.same
  rw [← Phase.unpaused_initializing, unpaused, Phase.unpaused_initializing]

theorem becomeReady_inStep (h : InStep s t) (once : s.becomeReady.Once)
    (once' : t.becomeReady.Once) : InStep s.becomeReady t.becomeReady := by
  unfold becomeReady at once once' ⊢
  by_cases initializing : t.phase = .initializing
  · have initializing' : s.phase = .initializing := h.initializing.2 initializing
    rw [if_neg (not_not.2 initializing)] at once' ⊢
    rw [if_neg (not_not.2 initializing'), h.readiness_eq] at once ⊢
    have told : ∀ observer ∈ t.readiness.announce.1, observer.isDiscreet = true := by
      intro observer mem
      unfold Readiness.announce at mem
      split at mem
      · cases mem
      · obtain ⟨entry, waiting, rfl⟩ := List.mem_map.1 mem
        exact h.discreet.observers entry (h.readiness_eq ▸ waiting)
    have left : t.readiness.announce.2.waiting ⊆ s.readiness.waiting := by
      rw [h.readiness_eq]
      unfold Readiness.announce
      split
      · exact List.Subset.refl _
      · exact List.nil_subset _
    have announced : InStep { s with phase := .ready, readiness := t.readiness.announce.2 }
        { t with phase := .ready, readiness := t.readiness.announce.2 } :=
      { same := congrArg (fun u : Session =>
          { u with phase := .ready, readiness := t.readiness.announce.2 }) h.same
        discreet := { h.discreet with
          observers := fun observer mem => h.discreet.observers observer (left mem) }
        fit := fit_kept.ready _ initializing' h.fit
        fit' := fit_kept.ready _ initializing h.fit' }
    refine foldl_inStep (P := fun _ => True) t.readiness.announce.1
      (fun s work => ?_) (fun _ _ _ => trivial) (fun work mem _ _ h => ?_) trivial trivial announced
      once once'
    · exact (tell_deeds work s).recorded
    · exact runWork_inStep engineAccess_deeds.outside engineAccess_agrees.outside
        (h.note rfl rfl) (told work mem)
  · rw [if_pos initializing]
    rw [if_pos (mt h.initializing.1 initializing)]
    exact h

/-! ## Sessions between two messages -/

theorem tidy_kept : KeptByDrains Tidy where
  deeds d h := d.marked.elim fun _ marked => (marked.upheld h).1
  lock _ h := h
  ready _ _ h := h
  ticks _ h := h
  helpers _ h := h
  begun _ _ h := h

/-- Taking a message leaves the alarms as they are. -/
theorem Tidy.taken {m : Message} {lanes : Lanes Message} (tidy : s.Tidy)
    (next : s.lanes.next? = some (m, lanes)) : ({ s with lanes } : Session).Tidy := by
  rcases Lanes.next?_cases next with ⟨urgent, first, rfl⟩ | ⟨-, ordinary, -, rfl⟩
  · exact tidy.requeue (.refl _) rfl (fun timer mem _ held => ⟨timer, mem, held⟩)
      fun m' mem => tidy.urgent m' (first ▸ List.mem_cons_of_mem m mem)
  · exact tidy.requeue (.refl _) rfl (fun timer mem _ held => ⟨timer, mem, held⟩) tidy.urgent

/-- What holds of a session between two messages, as long as its loop runs. -/
structure Rested (s : Session) : Prop where
  tidy : s.Tidy
  timed : s.Timed none
  owned : Owned none [] [] s

/-- The loop has taken a message that is no firing. -/
theorem Rested.taken {m : Message} {lanes : Lanes Message} (h : s.Rested)
    (next : s.lanes.next? = some (m, lanes)) (quiet : m.fireId? = none) :
    ({ s with lanes } : Session).Rested where
  tidy := h.tidy.taken next
  timed := Armed.take h.timed next quiet
  owned := h.owned.taken next

theorem Rested.fit (h : s.Rested) : s.Fit := ⟨h.tidy, ⟨none, h.timed⟩, none, [], h.owned⟩

theorem Even.inStep (h : Even s t) (fit : s.Fit) (fit' : t.Fit) : InStep s t :=
  ⟨h.same, h.discreet, fun _ => fit, fun _ => fit'⟩

/-- A pair is invoked that is in custody in both sessions. -/
theorem invoked_inStep (h : InStep s t) {pair : Pair} (live : pair ∈ s.custody.live)
    (live' : pair ∈ t.custody.live) (arguments : List Json.Value)
    (once : (s.engaged fun s => (s.invokeLive .loop pair arguments).2).Once)
    (once' : (t.engaged fun s => (s.invokeLive .loop pair arguments).2).Once) :
    InStep (s.engaged fun s => (s.invokeLive .loop pair arguments).2)
      (t.engaged fun s => (s.invokeLive .loop pair arguments).2) :=
  engaged_inStep h (fun lock once once' =>
    (invokeLive_agree (h.locked lock) live live' .loop arguments once once').2) once once'

/-! ## Firings -/

section
variable {lanes lanes' : Lanes Message} {id : Nat}

/-- A timer that is about to fire. -/
theorem Rested.begun (h : s.Rested) {timer : Timer}
    (next : s.lanes.next? = some (.fire timer.id, lanes))
    (found : s.timers.find? timer.id = some timer) :
    ({ s with lanes, timers := s.timers.firing timer } : Session).Fit ∧
      timer.pair ∈ s.custody.live := by
  obtain ⟨mem, -⟩ := Ledger.find?_mem found
  have owned : Owned (some timer) [] [] { s with lanes, timers := s.timers.firing timer } :=
    ⟨(h.owned.taken next).balanced.begin mem, by simp⟩
  have tidy := (still_firing { s with lanes } timer (h.tidy.taken next)).1
  refine ⟨⟨tidy, ⟨some timer, Armed.begin h.timed next mem⟩, some timer, [], owned⟩, ?_⟩
  exact h.owned.balanced.timer_live mem

theorem Tidy.called (tidy : s.Tidy) (timer : Timer) : (s.called timer).Tidy :=
  tidy_kept.engaged (fun _ => tidy_kept.invokeLive (fun h _ => h) .loop [])
    (still_firing s timer tidy).1

/-- A timer that goes on is armed again, whatever its ticket. -/
theorem rearmed_bare (tidy : s.Tidy) (timer : Timer) :
    ({ s with timers := s.timers.rearmed timer.id s.lanes.nextTicket }.arm timer.delay
      (.fire timer.id)).2.bare =
        ({ s.bare with timers := { s.bare.timers with running := none } } : Session).put
          timer.delay (.fire timer.id) := by
  refine (arm_bare (s := { s with timers := s.timers.rearmed timer.id s.lanes.nextTicket })
    tidy.sorted rfl _).trans ?_
  rw [bare_timers, Timers.rearmed_bare]
  rfl

theorem retired_bare (s : Session) (timer : Timer) :
    ({ s with timers := s.timers.retired timer.id }.bury timer.pair).bare =
      { s.bare with timers := s.bare.timers.retired timer.id } := by
  rw [bury_bare, bare_timers, Timers.retired_bare]
  rfl

theorem InStep.goesOn (h : InStep s t) {timer timer' : Timer} (same : timer.id = timer'.id)
    (recurring : timer.recurring = timer'.recurring) : s.goesOn timer ↔ t.goesOn timer' := by
  have timers : s.timers.bare = t.timers.bare := congrArg (·.timers) h.same
  have closed : s.lanes.closed = t.lanes.closed := congrArg (·.lanes.closed) h.same
  unfold Session.goesOn
  rw [← Timers.isLive_bare, ← t.timers.isLive_bare, timers, same, recurring, closed]

/-- The callback of a timer is invoked in both sessions. -/
theorem called_inStep (rested : s.Rested) (rested' : t.Rested) {timer timer' : Timer}
    (next : s.lanes.next? = some (.fire timer.id, lanes))
    (next' : t.lanes.next? = some (.fire timer'.id, lanes'))
    (h : Even { s with lanes } { t with lanes := lanes' })
    (found : s.timers.find? timer.id = some timer)
    (found' : t.timers.find? timer'.id = some timer')
    (same : timer.bare = timer'.bare)
    (once : (({ s with lanes } : Session).called timer).Once)
    (once' : (({ t with lanes := lanes' } : Session).called timer').Once) :
    InStep (({ s with lanes } : Session).called timer)
      (({ t with lanes := lanes' } : Session).called timer') := by
  have id : timer.id = timer'.id := congrArg (·.id) same
  have pair : timer.pair = timer'.pair := congrArg (·.pair) same
  have timers : s.timers.bare = t.timers.bare := congrArg (·.timers) h.same
  obtain ⟨fit, live⟩ := rested.begun next found
  obtain ⟨fit', live'⟩ := rested'.begun next' found'
  have begun : InStep { s with lanes, timers := s.timers.firing timer }
      { t with lanes := lanes', timers := t.timers.firing timer' } := by
    have fires : t.timers.firing timer' = t.timers.firing timer :=
      show t.timers.firing timer'.bare = t.timers.firing timer.bare from same ▸ rfl
    refine Even.inStep ⟨?_, { h.discreet with }⟩ fit fit'
    refine congrArg₂ (fun (u : Session) timers => { u with timers }) h.same ?_
    show (s.timers.firing timer).bare = (t.timers.firing timer').bare
    rw [fires, Timers.firing_bare, timers, ← Timers.firing_bare]
  unfold called at once once' ⊢
  rw [← pair] at once' live' ⊢
  exact invoked_inStep begun live live' [] once once'

theorem fireTimer_even (rested : s.Rested) (rested' : t.Rested)
    (next : s.lanes.next? = some (.fire id, lanes))
    (next' : t.lanes.next? = some (.fire id, lanes'))
    (h : Even { s with lanes } { t with lanes := lanes' })
    (d : ({ s with lanes } : Session).fireTimer id = some u)
    (d' : ({ t with lanes := lanes' } : Session).fireTimer id = some v) (once : u.Once)
    (once' : v.Once) : Even u v := by
  have timers : s.timers.bare = t.timers.bare := congrArg (·.timers) h.same
  have known := s.timers.find?_bare id
  rw [timers, Timers.find?_bare] at known
  cases found : s.timers.find? id with
  | none =>
    have found' : t.timers.find? id = none := by simpa [found] using known
    have stale (w : Session) (gone : w.timers.find? id = none) : w.fireTimer id = some w := by
      simp [fireTimer, Timers.begin, gone]
    rw [stale { s with lanes } found] at d
    rw [stale { t with lanes := lanes' } found'] at d'
    cases d
    cases d'
    exact h
  | some timer =>
    obtain ⟨timer', found', same⟩ : ∃ timer', t.timers.find? id = some timer' ∧
        timer'.bare = timer.bare := by
      simpa [found] using known
    obtain ⟨-, rfl⟩ := Ledger.find?_mem found
    have id : timer'.id = timer.id := congrArg (·.id) same
    have delay : timer'.delay = timer.delay := congrArg (·.delay) same
    have recurring : timer'.recurring = timer.recurring := congrArg (·.recurring) same
    have ends := fireTimer_ends (s := { s with lanes }) found d
    rw [← id] at next' found' d'
    have ends' := fireTimer_ends (s := { t with lanes := lanes' }) found' d'
    have tidy := (rested.tidy.taken next).called timer
    have tidy' := (rested'.tidy.taken next').called timer'
    have called := called_inStep rested rested' next next' h found found' same.symm
    clear d d'
    generalize ({ s with lanes } : Session).called timer = w at ends tidy called
    generalize ({ t with lanes := lanes' } : Session).called timer' = w' at ends' tidy' called
    have recorded : w.journal = u.journal := by
      rcases ends with ⟨-, eq⟩ | ⟨-, eq⟩ <;> rw [eq] <;> rfl
    have recorded' : w'.journal = v.journal := by
      rcases ends' with ⟨-, eq⟩ | ⟨-, eq⟩ <;> rw [eq] <;> rfl
    have called := called (Recorded.once (.same recorded.symm) once)
      (Recorded.once (.same recorded'.symm) once')
    have goesOn := called.goesOn id.symm recurring.symm
    rcases ends with ⟨on, eq⟩ | ⟨off, eq⟩
    · obtain ⟨-, eq'⟩ := ends'.resolve_right fun off => off.1 (goesOn.1 on)
      rw [eq, eq']
      refine ⟨?_, ?_⟩
      · rw [rearmed_bare tidy, rearmed_bare tidy', called.same, id, delay]
      · exact (quiet_arm _ timer.delay (m := .fire timer.id) rfl).discreet { called.discreet with }
    · obtain ⟨-, eq'⟩ := ends'.resolve_left fun on => off (goesOn.2 on.1)
      rw [eq, eq']
      refine ⟨?_, { called.discreet with }⟩
      rw [retired_bare, retired_bare, called.same, id]

/-! ## Completions and events -/

/-- A completion that has come to the loop. -/
theorem Rested.received {call : Call} {completion : Completion} (h : s.Rested)
    (next : s.lanes.next? = some (.complete call completion, lanes)) :
    (({ s with lanes } : Session).arrived call).Fit ∧
      (call.delivery (some completion)).1 ∈ s.custody.live := by
  have owned := h.owned.received next
  refine ⟨⟨h.tidy.taken next, ⟨none, Armed.take h.timed next rfl⟩, none, call.pairs, owned⟩, ?_⟩
  exact owned.balanced.hand_live (delivery_mem call completion)

theorem deliver_even {call : Call} {completion : Completion} (rested : s.Rested)
    (rested' : t.Rested) (next : s.lanes.next? = some (.complete call completion, lanes))
    (next' : t.lanes.next? = some (.complete call completion, lanes'))
    (h : Even { s with lanes } { t with lanes := lanes' })
    (d : ({ s with lanes } : Session).deliver call completion = some u)
    (d' : ({ t with lanes := lanes' } : Session).deliver call completion = some v)
    (once : u.Once) (once' : v.Once) : Even u v := by
  obtain ⟨fit, live⟩ := rested.received next
  obtain ⟨fit', live'⟩ := rested'.received next'
  have received : InStep (({ s with lanes } : Session).arrived call)
      (({ t with lanes := lanes' } : Session).arrived call) := by
    have unseen (u : Session) : (u.record (.delivered call)).bare = u.bare := u.record_bare nofun
    refine Even.inStep ⟨?_, { h.discreet with }⟩ fit fit'
    rw [arrived, arrived, unseen, unseen]
    exact congrArg (fun u : Session => { u with traffic.inFlight := u.traffic.inFlight - 1 }) h.same
  rw [eq_deliver d] at once ⊢
  rw [eq_deliver d'] at once' ⊢
  have invoked := invoked_inStep received live live' (call.delivery (some completion)).2 once once'
  exact ⟨invoked.same, { invoked.discreet with }⟩

end

theorem dispatchEvent_even (rested : s.Rested) (rested' : t.Rested) (h : Even s t) (event : String)
    (value : Json.Value) (d : s.dispatchEvent event value = some u)
    (d' : t.dispatchEvent event value = some v) (once : u.Once) (once' : v.Once) : Even u v := by
  have listeners : s.listeners = t.listeners := congrArg (·.listeners) h.same
  -- The listeners of the event are in custody, and stay there while they are invoked.
  have based {u : Session} (rested : u.Rested) : Owned none [] (u.listeners.of event) u :=
    rested.owned.rebase fun _ mem =>
      rested.owned.balanced.listeners_live (u.listeners.of_subset_all event mem)
  have base := based rested
  have base' := based rested'
  unfold dispatchEvent at d d'
  dsimp only at d d'
  rw [listeners] at d base
  split at d
  · next none =>
    rw [if_pos none] at d'
    cases d
    cases d'
    exact h
  next some =>
  rw [if_neg some] at d'
  rw [eq_engaged d] at once ⊢
  rw [eq_engaged d'] at once' ⊢
  refine (engaged_inStep (h.inStep rested.fit rested'.fit) (fun lock once once' => ?_) once
    once').even
  refine foldl_inStep (P := Owned none [] (t.listeners.of event)) _
    (fun s pair => recorded_invokeLive .loop pair [value] s) (fun pair mem owned => ?_)
    (fun pair mem owned owned' h once once' => ?_) (owned_kept.lock lock base)
    (owned_kept.lock lock base') ((h.inStep rested.fit rested'.fit).locked lock) once once'
  · exact owned_kept.invokeLive (fun owned => owned.refuse mem) .loop [value] owned
  · exact (invokeLive_agree h (owned.based mem) (owned'.based mem) .loop [value] once once').2

/-! ## Answers -/

theorem answer_even (h : Even s t) (query : Nat) (result : Except Failure Json.Value) :
    Even (s.answer query result) (t.answer query result) where
  same := congrArg (fun u : Session => { u with answers := (query, result) :: u.answers }) h.same
  discreet := { h.discreet with }

theorem engagedResult_agree (h : InStep s t) (what : String)
    {f : Session → Outcome EngineFailure Json.Value × Session}
    (step : ∀ lock, Agree (f { s with lock := lock }) (f { t with lock := lock })) :
    Agree (s.engagedResult what f) (t.engagedResult what f) := by
  unfold engagedResult
  dsimp only
  rw [h.lock_eq]
  split
  · intro once once'
    obtain ⟨result, inStep⟩ := step ⟨some .loop⟩ once once'
    exact ⟨by rw [result], inStep.locked _⟩
  · exact .of_inStep h _

/-- A script runs, or a path is loaded, and the query behind it is answered. -/
theorem answered_even (h : InStep s t) (what : String) (query : Nat)
    {f : Session → Outcome EngineFailure Json.Value × Session}
    (step : ∀ lock, Agree (f { s with lock := lock }) (f { t with lock := lock }))
    (once : ((s.engagedResult what f).2.answer query (s.engagedResult what f).1).Once)
    (once' : ((t.engagedResult what f).2.answer query (t.engagedResult what f).1).Once) :
    Even ((s.engagedResult what f).2.answer query (s.engagedResult what f).1)
      ((t.engagedResult what f).2.answer query (t.engagedResult what f).1) := by
  obtain ⟨result, inStep⟩ := engagedResult_agree h what step once once'
  rw [result]
  exact answer_even inStep.even query _

/-! ## The last message -/

/-- What timers have armed is taken back. -/
theorem withdrawAll_bare {timers : List Timer} (ticketed : s.lanes.Ticketed timers)
    {left : List Timer} (sub : left ⊆ timers) :
    (left.foldl (fun s timer => s.withdraw timer.ticket) s).bare =
      { s.bare with lanes := (left.map Timer.id).foldl Lanes.disarm s.bare.lanes } := by
  induction left generalizing s with
  | nil => rfl
  | cons timer rest ih =>
    obtain ⟨mem, sub⟩ := List.cons_subset.1 sub
    have withdrawn := withdraw_bare ticketed mem
    have ticketed' : (s.withdraw timer.ticket).lanes.Ticketed timers := by
      rw [withdraw_eq]
      exact fun other mem a among => ticketed other mem a (List.mem_filter.1 among).1
    rw [List.foldl_cons, ih ticketed' sub, withdrawn]
    rfl

theorem clear_bare (h : s.Rested) : s.clear.bare = { s.bare with
    phase := .shuttingDown
    timers := { s.bare.timers with live := [] }
    listeners := .empty
    lanes := (s.bare.timers.live.map Timer.id).foldl Lanes.disarm s.bare.lanes } := by
  have all : s.timers.clear.1 = s.timers.live := by
    simp [Timers.clear, show s.timers.running = none from h.timed.running]
  have ids : s.bare.timers.live.map Timer.id = s.timers.live.map Timer.id := by
    simp only [bare, Timers.bare, List.map_map]
    rfl
  have withdrawn := withdrawAll_bare
    (s := { s with phase := .shuttingDown, timers := s.timers.clear.2 }) h.fit.ticketed
    (List.Subset.refl _)
  unfold clear
  dsimp only
  rw [all, ids, buryAll_bare]
  exact congrArg (fun u : Session => { u with listeners := .empty }) withdrawn

theorem finish_even {query : Option Nat} (h : Even s t) (d : s.finish query = some u)
    (d' : t.finish query = some v) : Even u v := by
  have swept (u : Session) :
      ((u.record .lastSweep).engaged fun s => s.sweepGraveyard.2).bare = u.bare :=
    (swept_bare _).trans (u.record_bare nofun)
  have ended_bare (u : Session) : (ended query u).bare = ended query u.bare := by
    cases query <;> rfl
  have same {u v : Session} (d : u.finish query = some v) : v.bare = ended query u.bare := by
    rw [finish_eq] at d
    obtain ⟨w, sweeps, rfl⟩ := Option.map_eq_some_iff.1 d
    rw [ended_bare, eq_engaged sweeps, swept]
  refine ⟨by rw [same d, same d', h.same], discreet_bare.1 ?_⟩
  have discreet := discreet_bare.2 h.discreet
  rw [same d]
  cases query <;> exact ⟨discreet.program, discreet.jobs, discreet.observers, nofun⟩

theorem terminate_even {bound bound' : Nat} {query : Option Nat} (rested : s.Rested)
    (rested' : t.Rested) (h : Even s t) (d : s.terminate bound query = some u)
    (d' : t.terminate bound' query = some v) (once : u.Once) (once' : v.Once) : Even u v := by
  have cleared : InStep s.clear t.clear := by
    have dead (w : Session) : w.clear.isLive = false := by
      have phase : w.clear.phase = .shuttingDown :=
        (congrArg Stage.phase (stage_clear w).choose_spec)
      simp [isLive, phase, Phase.isLive]
    refine ⟨?_, ?_, fun live => ?_, fun live => ?_⟩
    · rw [clear_bare rested, clear_bare rested', h.same]
    · obtain ⟨alarms, sub, eq⟩ := clear_eq s
      have fewer := (Quiet.fewer (s := s) (Lanes.messages_alarms sub).subset).discreet h.discreet
      rw [eq]
      exact { fewer with }
    · rw [dead] at live
      cases live
    · rw [dead] at live
      cases live
  rw [terminate_eq] at d d'
  obtain ⟨x, drained, d⟩ := Option.bind_eq_some_iff.1 d
  obtain ⟨y, drained', d'⟩ := Option.bind_eq_some_iff.1 d'
  have once := (recorded_finish d).once once
  have once' := (recorded_finish d').once once'
  refine finish_even ?_ d d'
  rw [cleared.ticks_eq] at drained
  split at drained
  · next none =>
    rw [if_pos none] at drained'
    cases drained
    cases drained'
    exact cleared.even
  · next some =>
    rw [if_neg some] at drained'
    exact (drain_inStep cleared drained drained' once once').even

/-! ## One message -/

theorem Even.taken {m : Message} {lanes lanes' : Lanes Message} (h : Even s t)
    (other : m.isSweep = false) (next : s.lanes.next? = some (m, lanes))
    (next' : t.lanes.next? = some (m, lanes')) :
    Even { s with lanes } { t with lanes := lanes' } := by
  have same : s.lanes.bare = t.lanes.bare := congrArg (·.lanes) h.same
  have first := Lanes.next?_bare other next
  rw [same, Lanes.next?_bare other next'] at first
  have left : lanes'.bare = lanes.bare := (Prod.mk.inj (Option.some.inj first)).2
  refine ⟨congrArg₂ (fun (u : Session) lanes => { u with lanes }) h.same left.symm, ?_⟩
  refine (Quiet.fewer fun m' mem => ?_).discreet h.discreet
  exact (Lanes.messages_next next).mem_iff.2 (List.mem_cons_of_mem _ mem)

/-- A message that is no sweep leads to sessions of which the same is seen again. -/
theorem handle_even {bound bound' : Nat} {m : Message} {lanes lanes' : Lanes Message}
    (rested : s.Rested) (rested' : t.Rested) (other : m.isSweep = false)
    (next : s.lanes.next? = some (m, lanes)) (next' : t.lanes.next? = some (m, lanes'))
    (h : Even s t) (d : ({ s with lanes } : Session).handle bound m = some u)
    (d' : ({ t with lanes := lanes' } : Session).handle bound' m = some v)
    (once : u.Once) (once' : v.Once) : Even u v := by
  have discreet := h.discreet
  have h := h.taken other next next'
  by_cases firing : ∃ id, m = .fire id
  · obtain ⟨id, rfl⟩ := firing
    exact fireTimer_even rested rested' next next' h d d' once once'
  have quiet : m.fireId? = none := by
    cases m with
    | fire id => exact absurd ⟨id, rfl⟩ firing
    | _ => rfl
  have taken := rested.taken next quiet
  have taken' := rested'.taken next' quiet
  have inStep := h.inStep taken.fit taken'.fit
  cases m with
  | sweep => cases other
  | fire id => exact absurd ⟨id, rfl⟩ firing
  | ready =>
    cases d
    cases d'
    exact (becomeReady_inStep inStep once once').even
  | drain => exact (drain_inStep inStep d d' once once').even
  | complete call completion => exact deliver_even rested rested' next next' h d d' once once'
  | emit event value => exact dispatchEvent_even taken taken' h event value d d' once once'
  | register name =>
    obtain rfl := handle_register d
    obtain rfl := handle_register d'
    exact (engaged_inStep inStep (fun lock once once' =>
      (loadModule_agree (inStep.locked lock) name once once').2) once once').even
  | task work =>
    have discreet : work.isDiscreet = true :=
      discreet.tasks work ((Lanes.messages_next next).mem_iff.2 List.mem_cons_self)
    obtain rfl := handle_task d
    obtain rfl := handle_task d'
    exact (engaged_inStep inStep (fun lock once once' =>
      runWork_inStep engineAccess_deeds engineAccess_agrees ((inStep.locked lock).note rfl rfl)
        discreet once once') once once').even
  | script source name query =>
    obtain rfl := handle_script d
    obtain rfl := handle_script d'
    exact answered_even inStep name query
      (fun lock => runScript_agree (inStep.locked lock) .loop source name) once once'
  | require path query =>
    obtain rfl := handle_require d
    obtain rfl := handle_require d'
    exact answered_even inStep path query
      (fun lock => loadPath_agree (inStep.locked lock) .loop path) once once'
  | shutdown query => exact terminate_even taken taken' h d d' once once'

end Session
end ScriptHost
