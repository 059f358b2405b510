import ScriptHost.Proofs.Aftermath
import ScriptHost.Proofs.Sweeping

/-!
# Sessions that have closed

A session closes when a shutdown is accepted or when its engine fails while it is brought up. From
then on no operation is accepted, whichever code asks for it and at whatever moment: between the
request for shutdown and the end of the loop, callbacks, jobs and the last drain still run, but all
they can do is look, enter and remove observers, and call the engine where they have it at hand.
Behind the end of the loop nothing runs any more at all, apart from observers, which are told on
the thread that enters them. Workers are no part of the session: one that comes free calls the
transport for the next request that waits, to no effect.

## Main definitions

* `Action.rejection` — what an operation replies on a session that has closed.
* `Session.RefusesAll` — every operation is refused.
* `Moment.Closes` — the moments at which sessions close.
* `Session.AtRest` — the loop has ended in order, and no job can be run any more.
* `Session.Lingers` — what can still change then.

## Main statements

* `Session.refusesAll` — sessions that have closed refuse everything.
* `Session.AtRest.stepAll` — whatever the host does, nothing runs behind the end of the loop.
* `Session.closed_for_good` — both, from the moment at which a session closes.
-/

namespace ScriptHost

/-- What an operation replies on a session that has closed. Readers, ready observers and held
completions are not refused, and neither are calls that go to the engine directly. -/
def Action.rejection (thread : Thread) : Action → Option Reply
  | .pause | .unpause => some (.flag false)
  | a => a.refusal thread

/-- The entries that are no work of the engine: that observers have been told, replies, and calls of
the transport. -/
def Entry.isTold : Entry → Bool
  | .observer .. | .did .. | .transport _ => true
  | _ => false

/-- That a worker has taken a request, or that a completion has been refused. -/
def Event.isLate : Event → Bool
  | .sent _ | .dropped _ => true
  | _ => false

namespace Session

variable {o s t u : Session}

/-! ## Refusal -/

/-- Every operation is refused, and nothing changes. -/
structure RefusesAll (s : Session) : Prop where
  operations : ∀ {access : EngineAccess} {thread : Thread} {a : Action} {reply : Reply},
    a.rejection thread = some reply → perform access thread a s = (.ok reply, s)
  asks : ∀ {a : Action} {ask : Session → Except Failure Nat × Session},
    blockingAsk a = some ask → ask s = (.error .closed, s)

theorem refusesAll (shut : s.phase.isLive = false) : s.RefusesAll := by
  have dead : s.isLive = false := by simp [isLive, shut]
  refine ⟨fun {access thread a reply} h => ?_, (refuses_of_not_live dead).asks⟩
  cases a with
  | pause =>
    have other : s.phase ≠ .ready := fun ready => by simp [ready, Phase.isLive] at shut
    cases h
    simp [perform, flagged, pause, other]
  | unpause =>
    have other : s.phase ≠ .paused := fun paused => by simp [paused, Phase.isLive] at shut
    cases h
    simp [perform, flagged, unpause, other]
  | _ => exact perform_refused dead h

end Session

/-! ## The moments at which sessions close -/

namespace Moment

open Session (Fresh)

variable {m m' : Moment} {marks : List Mark}

/-- The moments at which sessions close: some code, whichever it is and wherever it runs, has asked
for shutdown and has been accepted, or the engine has failed while it was brought up. -/
inductive Closes : Moment → Prop where
  | shut {m : Moment} {query : Option Nat} (h : m.Arises)
      (accepted : (m.session.beginShutdown query).1 = true) :
      Closes ⟨(m.session.beginShutdown query).2, m.doing⟩
  | failed {o : Session} {f : EngineFailure} (p : Fresh o) (failed : o.engineStart.1 = .failed f) :
      Closes ⟨o.bringUp, .nothing⟩

theorem Closes.arises (h : m.Closes) : m.Arises := by
  cases h with
  | @shut m query h _ => exact h.leads ((Leads.refl m).code (@Session.Deeds.shutdown .host _ query))
  | failed p _ => exact p.arises.leads p.bringUp_leads

theorem Closes.phase (h : m.Closes) : m.session.phase.isLive = false := by
  cases h with
  | shut _ accepted => rw [Session.beginShutdown_phase accepted]; rfl
  | failed _ failed => rw [Session.bringUp_failed failed]; rfl

/-- A session that has closed is never live again. -/
theorem Chronicle.shut (c : Chronicle m marks m') (h : m.Arises)
    (shut : m.session.phase.isLive = false) : m'.session.phase.isLive = false := by
  obtain ⟨path, last⟩ := c.path h
  rcases path.onward last with on | ⟨paused, -⟩
  · revert on shut
    cases m.session.phase <;> cases m'.session.phase <;> decide
  · rw [paused] at shut
    cases shut

end Moment

namespace Session

variable {o s t u : Session}

/-! ## Completions that come too late -/

/-- Workers have taken requests, and completions have come too late; nothing else has changed. -/
structure Belated (s t : Session) : Prop where
  same : t = { s with
    errands := t.errands
    held := t.held
    traffic.inFlight := t.traffic.inFlight
    journal := t.journal
    log := t.log }
  late : ∃ events : Journal, (∀ e ∈ events, e.isLate = true) ∧ t.journal = events ++ s.journal
  sent : Logged (fun e => e.isTransport = true) s.log t.log

namespace Belated

/-- The journal and the log are as they were. -/
theorem quiet (same : t = { s with
      errands := t.errands
      held := t.held
      traffic.inFlight := t.traffic.inFlight }) : s.Belated t := by
  have journal := congrArg Session.journal same
  have log := congrArg Session.log same
  exact ⟨by rw [journal, log]; exact same, ⟨[], nofun, journal⟩, [], nofun, log⟩

theorem refl (s : Session) : s.Belated s := quiet rfl

theorem trans (h : s.Belated t) (h' : t.Belated u) : s.Belated u := by
  refine ⟨?_, ?_, h.sent.trans h'.sent⟩
  · have same := h'.same
    rw [h.same] at same
    exact same
  · obtain ⟨events, late, eq⟩ := h.late
    obtain ⟨events', late', eq'⟩ := h'.late
    exact ⟨events' ++ events, List.forall_mem_append.2 ⟨late', late⟩,
      by rw [eq', eq, List.append_assoc]⟩

theorem record (s : Session) {e : Event} (late : e.isLate = true) : s.Belated (s.record e) :=
  ⟨rfl, ⟨[e], by simpa using late, rfl⟩, .refl _⟩

theorem lanes (h : s.Belated t) : t.lanes = s.lanes := by rw [h.same]

theorem conclude (refuses : s.lanes.accepts = false) (call : Call) (completion : Completion) :
    s.Belated (s.conclude call completion) := by
  rcases conclude_cases s call completion with ⟨accepts, -⟩ | ⟨-, eq⟩
  · cases refuses.symm.trans accepts
  · rw [eq]
    have quiet : s.Belated { s with traffic.inFlight := s.traffic.inFlight - 1 } := .quiet rfl
    exact quiet.trans (.record _ rfl)

theorem execute (refuses : s.lanes.accepts = false) (errand : Errand) :
    s.Belated (s.execute errand) := by
  cases transport : s.program.hasTransport with
  | false =>
    rw [execute_of_not_transport transport]
    have sent := record s (e := .sent errand.call) rfl
    exact sent.trans (conclude (by exact refuses) errand.call .clientFailure)
  | true =>
    rw [execute_of_transport transport]
    have noted : s.Belated (s.note (.transport errand.prepared)) :=
      ⟨rfl, ⟨[], nofun, rfl⟩, [_], by simp [Entry.isTransport], rfl⟩
    have sent := noted.trans (.record _ (e := .sent errand.call) rfl)
    dsimp only
    split
    · exact sent.trans (.quiet rfl)
    · exact sent.trans (conclude (by exact refuses) errand.call _)

theorem employ (refuses : s.lanes.accepts = false) : s.Belated s.employ := by
  have executed : ∀ (taken : List Errand) {u : Session}, u.lanes.accepts = false →
      u.Belated (taken.foldl Session.execute u) := by
    intro taken
    induction taken with
    | nil => exact fun {u} _ => .refl u
    | cons errand rest ih =>
      intro u refuses
      have first := execute refuses errand
      exact first.trans (ih (first.lanes ▸ refuses))
  obtain ⟨taken, left, -, eq, -⟩ := s.employ_cases
  rw [eq]
  exact (executed taken refuses).trans (.quiet rfl)

end Belated

/-- Completions that are released while the queue refuses them change nothing but the number of
requests in flight; then the workers that were busy with them go on to what waits. -/
theorem release_refused (refuses : s.lanes.accepts = false) (key : String) :
    let due := s.held.filter (·.1 == key)
    let t : Session := { s with
      held := s.held.filter (·.1 != key)
      traffic.inFlight := s.traffic.inFlight - due.length
      journal := (due.map fun entry => Event.dropped entry.2.1).reverse ++ s.journal }
    (s.release key).2 = t.employ := by
  have concluded : ∀ (due : List (String × Call × Completion)) {u : Session},
      u.lanes.accepts = false →
      due.foldl (fun s entry => s.conclude entry.2.1 entry.2.2) u = { u with
        traffic.inFlight := u.traffic.inFlight - due.length
        journal := (due.map fun entry => Event.dropped entry.2.1).reverse ++ u.journal } := by
    intro due
    induction due with
    | nil => exact fun _ => rfl
    | cons entry rest ih =>
      intro u refuses
      rcases conclude_cases u entry.2.1 entry.2.2 with ⟨accepts, -⟩ | ⟨-, eq⟩
      · cases refuses.symm.trans accepts
      · rw [List.foldl_cons, eq, ih (by exact refuses)]
        simp [record, Nat.sub_sub, Nat.add_comm 1]
  exact congrArg employ (concluded _ (by exact refuses))

theorem release_belated (refuses : s.lanes.accepts = false) (key : String) :
    s.Belated (s.release key).2 := by
  have late : s.Belated { s with
      held := s.held.filter (·.1 != key)
      traffic.inFlight := s.traffic.inFlight - (s.held.filter (·.1 == key)).length
      journal := ((s.held.filter (·.1 == key)).map fun entry =>
        Event.dropped entry.2.1).reverse ++ s.journal } := by
    refine ⟨rfl, ⟨_, fun e mem => ?_, rfl⟩, .refl _⟩
    obtain ⟨entry, -, rfl⟩ := List.mem_map.1 (List.mem_reverse.1 mem)
    rfl
  rw [release_refused refuses]
  exact late.trans (.employ (by exact refuses))

/-! ## Behind the end of the loop -/

/-- The loop has ended in order, nobody takes messages, and jobs that wait wait for a lock that is
never released. -/
structure AtRest (s : Session) : Prop where
  ended : s.loop = .ended
  terminated : s.phase = .terminated
  deserted : s.lanes.deserted = true
  idle : s.lock ≠ .free ∨ s.ticks.jobs = []

/-- What can still change when the loop has ended: observers are told, who waits for readiness and
who asks for results, what waits for a worker or is held back by the transport, and the requests in
flight whose completion is refused. -/
structure Lingers (s t : Session) : Prop where
  same : t = { s with
    readiness := t.readiness
    keys := t.keys
    errands := t.errands
    held := t.held
    traffic.inFlight := t.traffic.inFlight
    dropped := t.dropped
    helpers := t.helpers
    ticks.draining := t.ticks.draining
    journal := t.journal
    log := t.log }
  late : ∃ events : Journal, (∀ e ∈ events, e.isLate = true) ∧ t.journal = events ++ s.journal
  told : Logged (fun e => e.isTold = true) s.log t.log

namespace Lingers

/-- The journal and the log are as they were. -/
theorem quiet (same : t = { s with
      readiness := t.readiness
      keys := t.keys
      errands := t.errands
      held := t.held
      traffic.inFlight := t.traffic.inFlight
      dropped := t.dropped
      helpers := t.helpers
      ticks.draining := t.ticks.draining }) : s.Lingers t := by
  have journal := congrArg Session.journal same
  have log := congrArg Session.log same
  exact ⟨by rw [journal, log]; exact same, ⟨[], nofun, journal⟩, [], nofun, log⟩

theorem refl (s : Session) : s.Lingers s := quiet rfl

theorem trans (h : s.Lingers t) (h' : t.Lingers u) : s.Lingers u := by
  refine ⟨?_, ?_, h.told.trans h'.told⟩
  · have same := h'.same
    rw [h.same] at same
    exact same
  · obtain ⟨events, late, eq⟩ := h.late
    obtain ⟨events', late', eq'⟩ := h'.late
    exact ⟨events' ++ events, List.forall_mem_append.2 ⟨late', late⟩,
      by rw [eq', eq, List.append_assoc]⟩

theorem note (s : Session) {e : Entry} (told : e.isTold = true) : s.Lingers (s.note e) :=
  ⟨rfl, ⟨[], nofun, rfl⟩, [e], by simpa using told, rfl⟩

theorem belated (h : s.Belated t) : s.Lingers t := by
  obtain ⟨entries, sent, log⟩ := h.sent
  refine ⟨by rw [h.same], h.late, entries, fun e mem => ?_, log⟩
  have transport := sent e mem
  cases e <;> first | rfl | cases transport

end Lingers

namespace AtRest

theorem phase (h : s.AtRest) : s.phase.isLive = false := by rw [h.terminated]; rfl

theorem lingers (h : s.AtRest) (l : s.Lingers t) : t.AtRest := by
  rw [l.same]
  exact ⟨h.ended, h.terminated, h.deserted, h.idle⟩

theorem refuses (h : s.AtRest) : s.lanes.accepts = false := by simp [Lanes.accepts, h.deserted]

theorem release_lingers (h : s.AtRest) (key : String) : s.Lingers (s.release key).2 :=
  .belated (release_belated h.refuses key)

/-- Completions that are released come too late: their requests are no longer in flight, and nothing
else changes but what the workers do that come free. -/
theorem release (h : s.AtRest) (key : String) :
    let t : Session := { s with
      held := s.held.filter (·.1 != key)
      traffic.inFlight := s.traffic.inFlight - (s.held.filter (·.1 == key)).length
      journal := ((s.held.filter (·.1 == key)).map fun entry =>
        Event.dropped entry.2.1).reverse ++ s.journal }
    (s.release key).2 = t.employ ∧ s.Lingers t.employ ∧ (s.errands = [] → t.employ = t) := by
  intro t
  have eq : (s.release key).2 = t.employ := release_refused h.refuses key
  exact ⟨eq, eq ▸ h.release_lingers key, fun none => employ_idle (s := t) none⟩

theorem scriptResult_lingers (s : Session) (key : String) : s.Lingers (s.scriptResult key).2 := by
  unfold scriptResult
  split
  · exact .refl s
  split
  · exact .refl s
  · exact .quiet rfl

mutual

/-- Whoever has not the engine at hand cannot make it run any more. -/
theorem perform (access : EngineAccess) (thread : Thread) :
    (a : Action) → access.given = none → {s : Session} → s.AtRest →
      s.Lingers (Session.perform access thread a s).2
  | .observe tag actions, _, s, h => by
    have noted := Lingers.note s (e := .observer tag thread) rfl
    have told := noted.trans (play access.outside thread actions rfl (h.lingers noted))
    unfold Session.perform
    cases s.readiness.ready with
    | false => exact .quiet rfl
    | true => exact told.trans (.quiet rfl)
  | .unobserve _, _, s, _ => .quiet rfl
  | .release key, _, _, h => h.release_lingers key
  | .scriptResult key, _, s, _ => scriptResult_lingers s key
  | .callScript .., off, s, _ | .callBack .., off, s, _ => by
    simp only [Session.perform, callEngine, off]
    exact .refl s
  | .phase _, _, s, _ | .locale _, _, s, _ | .isTimerLive _, _, s, _ | .readiness, _, s, _
  | .awaitReady, _, s, _ | .interval, _, s, _ | .statistics, _, s, _ | .fail _, _, s, _
  | .panic, _, s, _ => .refl s
  | .schedule .., _, _, h | .cancel .., _, _, h | .tick .., _, _, h | .request .., _, _, h
  | .on .., _, _, h | .off .., _, _, h | .emit .., _, _, h | .emitFlag .., _, _, h
  | .register _, _, _, h | .post .., _, _, h | .pause, _, _, h | .unpause, _, _, h
  | .sweep, _, _, h | .guarded _, _, _, h | .leakLock, _, _, h | .script .., _, _, h
  | .require _, _, _, h | .shutdown, _, _, h | .beginScript .., _, _, h => by
    rw [(refusesAll h.phase).operations rfl]
    exact .refl _

theorem play (access : EngineAccess) (thread : Thread) :
    (actions : List Action) → access.given = none → {s : Session} →
      s.AtRest → s.Lingers (Session.play access thread actions s).2
  | [], _, s, _ => .refl s
  | a :: rest, off, s, h => by
    have first := perform access thread a off h
    unfold Session.play
    split
    · next reply t heq =>
      rw [heq] at first
      have noted := first.trans (.note t (e := .did a.name reply) rfl)
      exact noted.trans (play access thread rest off (h.lingers noted))
    · next heq => rw [heq] at first; exact first
    · next heq => rw [heq] at first; exact first

end

/-- The host is refused, or what it does makes nothing run. -/
theorem act (h : s.AtRest) (a : Action) : s.Lingers (s.act a).2 := by
  have done := perform engineAccess.outside .host a rfl h
  unfold Session.act
  split <;> next heq => rw [heq] at done; exact done

/-- The drain of a helper ends without having run a job. -/
theorem drain (h : s.AtRest) (bound : Nat) :
    ∃ draining, s.drain (bound + 1) .helper = some { s with ticks.draining := draining } := by
  have ends : ∃ t, s.drain (bound + 1) .helper = some t := by
    unfold Session.drain drainFrom
    dsimp only
    split
    · exact ⟨_, rfl⟩
    · next waiting =>
      have held : s.lock ≠ .free := h.idle.resolve_right fun none => by
        simp [TickQueue.look, none] at waiting
      rcases lock : s.lock with ⟨_ | holder⟩
      · exact absurd lock held
      · cases holder <;> exact ⟨_, rfl⟩
  obtain ⟨t, drained⟩ := ends
  obtain ⟨draining, rfl⟩ := drain_still h.idle drained
  exact ⟨draining, drained⟩

/-- Helpers that are left over run nothing. -/
theorem runHelpers (h : s.AtRest) (bound : Nat) :
    ∃ t, s.runHelpers (bound + 1) = some t ∧ s.Lingers t := by
  have drained : ∀ (rounds : List Nat) {u : Session}, u.AtRest → ∃ t,
      rounds.foldlM (fun (s : Session) _ => s.drain (bound + 1) .helper) u = some t ∧
        u.Lingers t := by
    intro rounds
    induction rounds with
    | nil => exact fun {u} _ => ⟨u, rfl, .refl u⟩
    | cons _ rest ih =>
      intro u h
      obtain ⟨draining, first⟩ := h.drain bound
      have one : u.Lingers { u with ticks.draining := draining } := .quiet rfl
      obtain ⟨t, others, all⟩ := ih (h.lingers one)
      exact ⟨t, by simpa [List.foldlM_cons, first] using others, one.trans all⟩
  unfold Session.runHelpers
  split
  · exact ⟨s, rfl, .refl s⟩
  · have zeroed : s.Lingers { s with helpers := 0 } := .quiet rfl
    obtain ⟨t, all, lingers⟩ := drained (List.range s.helpers) (h.lingers zeroed)
    exact ⟨t, all, zeroed.trans lingers⟩

theorem step (h : s.AtRest) (bound : Nat) (step : HostStep) :
    ∃ reply t, s.step (bound + 1) step = some (reply, t) ∧ s.Lingers t := by
  cases step with
  | run ms =>
    have stays : s.run (bound + 1) ms = some s := by simp [run, h.ended]
    exact ⟨.nothing, s, by simp [Session.step, stays], .refl s⟩
  | drop =>
    have gone : s.isGone = true := by simp [isGone, h.ended]
    exact ⟨.flag true, s.forsake, by simp only [Session.step, gone, if_true], .quiet rfl⟩
  | act a =>
    cases asks : blockingAsk a with
    | some ask =>
      have refused := (refusesAll h.phase).asks asks
      exact ⟨.failed .closed, s, by simp only [Session.step, asks, refused], .refl s⟩
    | none =>
      have acted := h.act a
      obtain ⟨t, helped, lingers⟩ := (h.lingers acted).runHelpers bound
      exact ⟨(s.act a).1, t, by simp [Session.step, asks, helped], acted.trans lingers⟩

/-- Whatever the host does behind the end of the loop, it gets its replies and nothing runs. -/
theorem stepAll (h : s.AtRest) (bound : Nat) (steps : List HostStep) :
    ∃ reports t, s.stepAll (bound + 1) steps = some (reports, t) ∧ s.Lingers t := by
  induction steps generalizing s with
  | nil => exact ⟨[], s, rfl, .refl s⟩
  | cons step rest ih =>
    obtain ⟨reply, u, stepped, first⟩ := h.step bound step
    obtain ⟨reports, t, played, others⟩ := ih (h.lingers first)
    exact ⟨_, t, by simp [Session.stepAll, stepped, played]; rfl, first.trans others⟩

end AtRest

/-! ## The end of the loop -/

end Session

/-- The session has ended, and nobody takes its messages. -/
structure Stage.Gone (g : Stage) : Prop where
  terminated : g.phase = .terminated
  deserted : g.deserted = true

/-- No code brings a session back that has ended. -/
theorem Stage.Gone.stirred {g g' : Stage} (d : Stage.Stirred g g') (h : g.Gone) : g'.Gone := by
  have deserted := congrArg Stage.deserted d.fixed_eq
  refine ⟨?_, deserted.trans h.deserted⟩
  have terminated := h.terminated
  clear h deserted
  induction d with
  | trans _ _ ih ih' => exact ih' (ih terminated)
  | paused ready => cases terminated.symm.trans ready
  | unpaused paused => cases terminated.symm.trans paused
  | shut live => simp [isLive, terminated, Phase.isLive] at live
  | guarded _ _ _ ih => exact ih terminated
  | _ => exact terminated

namespace Session

variable {o s t u : Session}

theorem gone_kept : KeptByJobs fun s => s.stage.Gone where
  deeds d h := h.stirred d.stirred
  lock _ h := ⟨h.terminated, h.deserted⟩
  ticks _ h := ⟨h.terminated, h.deserted⟩
  helpers _ h := ⟨h.terminated, h.deserted⟩
  begun _ _ h := ⟨h.terminated, h.deserted⟩

theorem terminate_gone {bound : Nat} {query : Option Nat} (d : s.terminate bound query = some t) :
    t.stage.Gone := by
  obtain ⟨u, -, d⟩ := terminate_cases d
  rw [eq_finish d]
  exact ⟨rfl, rfl⟩

namespace Reached

variable {turn : Turn}

theorem gone (up : o.bringUp.loop = .running) (r : Reached o turn s) (ended : s.loop = .ended) :
    s.stage.Gone := by
  have steady := gone_kept.steady (fun _ h => ⟨h.terminated, h.deserted⟩)
    fun h => ⟨h.terminated, h.deserted⟩
  induction r with
  | broughtUp => cases up.symm.trans ended
  | @handled turn s t m lanes bound _ _ running _ h ih =>
    by_cases last : ∃ query, m = .shutdown query
    · obtain ⟨query, rfl⟩ := last
      exact terminate_gone h
    · have loop := handle_loop (fun query same => last ⟨query, same⟩) h
      cases running.symm.trans (loop.symm.trans ended)
  | waited _ _ ih => exact ih ended
  | helped _ h ih => exact steady.helped (ih ((runHelpers_loop h).symm.trans ended)) h
  | due _ ih => exact steady.due (ih ended)
  | passed _ _ ih => exact steady.passed _ (ih ended)
  | @acted s _ _ a ih =>
    have d := act_deeds a s
    exact steady.deeds d (ih (d.loop.symm.trans ended))
  | @asked s a ask _ _ asks ih =>
    have d := blockingAsk_deeds asks s
    exact steady.deeds d (ih (d.loop.symm.trans ended))
  | dropped _ _ ih => exact steady.dropped (ih ended)

/-- A loop that has ended leaves no job behind that could be run. -/
theorem atRest (p : Fresh o) (up : o.bringUp.loop = .running) (r : Reached o turn s)
    (ended : s.loop = .ended) : s.AtRest := by
  have gone := r.gone up ended
  refine ⟨ended, gone.terminated, gone.deserted, ?_⟩
  by_cases free : s.lock = .free
  · exact .inr ((r.prompt p up free).done ended).none
  · exact .inl free

end Reached

/-! ## Closed for good -/

open Moment (Chronicle Closes)

/-- From the moment at which a session closes, every operation is refused and changes nothing, at
every later moment, whoever asks for it. And when the loop has ended after a shutdown, nothing runs
any more whatever the host and the helpers that are left over do, apart from observers that are told
at once. A completion that is released takes its request out of flight and changes nothing else; if
requests wait for the workers that come free with it, the transport is called for them, and their
completions come too late as well. -/
theorem closed_for_good :
    (∀ {m m' : Moment} {marks : List Mark}, m.Closes → Chronicle m marks m' →
      m'.session.RefusesAll) ∧
    (∀ {o s : Session} {turn : Turn}, Fresh o → o.bringUp.loop = .running → Reached o turn s →
      s.loop = .ended →
      (∀ (bound : Nat) (steps : List HostStep),
        ∃ reports t, s.stepAll (bound + 1) steps = some (reports, t) ∧ s.Lingers t) ∧
      (∀ bound : Nat, ∃ t, s.runHelpers (bound + 1) = some t ∧ s.Lingers t) ∧
      ∀ key : String,
        let t : Session := { s with
          held := s.held.filter (·.1 != key)
          traffic.inFlight := s.traffic.inFlight - (s.held.filter (·.1 == key)).length
          journal := ((s.held.filter (·.1 == key)).map fun entry =>
            Event.dropped entry.2.1).reverse ++ s.journal }
        (s.release key).2 = t.employ ∧ s.Lingers t.employ ∧
          (s.errands = [] → t.employ = t)) := by
  refine ⟨fun closes c => refusesAll (c.shut closes.arises closes.phase), ?_⟩
  intro o s turn p up r ended
  have rest := r.atRest p up ended
  exact ⟨rest.stepAll, rest.runHelpers, rest.release⟩

/-- A session is asked to shut down while it is ready, and refuses from then on. Behind the end of
its loop an observer is told that tries to pause it, and a job is refused. -/
theorem closed_for_good_shut :
    (∃ m : Moment, m.session.phase = .shuttingDown ∧ m.session.RefusesAll) ∧
      ∃ s, Reached (plain (starting [])) .loop s ∧ s.loop = .ended ∧ ∃ reports t,
        s.stepAll 1 [.act (.observe "o" [.pause]), .act (.tick .handle false "j" []), .run 5] =
          some (reports, t) ∧ s.Lingers t := by
  obtain ⟨refuses, rests⟩ := closed_for_good
  constructor
  · have arises : Moment.Arises ⟨readied, .nothing⟩ := ⟨_, readied_comesAfter⟩
    have closes := @Closes.shut _ none arises (by decide +kernel)
    have later := (Chronicle.none ⟨(readied.beginShutdown none).2, .nothing⟩).quietly
      (.locked _ ⟨some .helper⟩ _)
    exact ⟨_, rfl, refuses closes later⟩
  · have fresh := plain_fresh (starting [])
    obtain ⟨s, r, found⟩ := @Fresh.scenario _ 50 [.act .shutdown]
      (fun s => decide (s.loop = .ended)) fresh (by decide +kernel)
    have ended := of_decide_eq_true found
    obtain ⟨stays, -, -⟩ := rests fresh (by decide +kernel) r ended
    exact ⟨s, r, ended, stays 0 _⟩

end Session
end ScriptHost
