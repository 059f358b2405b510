import ScriptHost.Proofs.Closing
import ScriptHost.Proofs.Even

/-!
# Sessions that are poised

A session that has been brought up and waits for its next message, or for what the host does next:
its alarms are in order, every pair has an owner, and no helper is left over. When its loop has
ended it is closed for good.

## Main definitions

* `Session.Poised` — what holds of a session that has been brought up whenever nothing runs.

## Main statements

* `Session.handle_tidy` — a message leaves alarms in order.
* `Session.Poised.handled`, `Session.Poised.deeds` — a session stays poised.
* `Session.start_poised` — bring-up and the first instant lead to a poised session.
-/

namespace ScriptHost
namespace Session

variable {o s t u : Session} {bound : Nat} {thread : Thread}

/-! ## Alarms stay in order -/

theorem Tidy.swept (tidy : s.Tidy) : s.afterSweep.Tidy :=
  (armSweep_upheld (tidy_kept.engaged (fun s tidy => (still_sweepGraveyard s tidy).1) tidy) true).1

theorem Tidy.fired {id : Nat} (tidy : s.Tidy) (d : s.fireTimer id = some t) : t.Tidy := by
  rcases fireTimer_cases d with ⟨-, rfl⟩ | ⟨timer, -, rfl, ⟨-, -, isOpen, eq⟩ | eq⟩
  · exact tidy
  · rw [eq]
    exact (still_rearmed _ timer isOpen (tidy.called timer)).1
  · rw [eq]
    exact (still_retired _ timer (tidy.called timer)).1

theorem handle_tidy {m : Message} {lanes : Lanes Message} (tidy : s.Tidy)
    (other : ∀ query, m ≠ .shutdown query) (next : s.lanes.next? = some (m, lanes))
    (d : { s with lanes }.handle bound m = some t) : t.Tidy := by
  have taken := tidy.taken next
  by_cases routine : m.isRoutine = true
  · exact tidy_kept.routine routine (fun _ _ _ _ _ _ tidy _ => tidy)
      (fun _ => tidy_kept.drain taken) taken d
  cases m with
  | sweep =>
    rw [eq_handleSweep d]
    exact taken.swept
  | fire id => exact taken.fired d
  | complete call completion =>
    have arrived : Tidy (({ s with lanes } : Session).arrived call) := taken
    rw [eq_deliver d]
    exact tidy_kept.engaged (fun _ => tidy_kept.invokeLive (fun tidy _ => tidy) .loop _) arrived
  | shutdown query => exact absurd rfl (other query)
  | _ => exact absurd rfl routine

theorem tidy_steady : Steady Tidy where
  deeds d tidy := tidy_kept.deeds d tidy
  helped tidy d := tidy_kept.runHelpers tidy d
  due tidy := (deliverDue_upheld _ tidy).1
  passed _ tidy := tidy
  dropped tidy := tidy

/-- Bring-up leaves a session rested, if it enters the loop. -/
theorem Fresh.broughtUp_rested (p : Fresh o) (up : o.bringUp.loop = .running) :
    o.bringUp.Rested where
  tidy := (p.arises.leads p.bringUp_leads).upkeep.1
  timed := p.broughtUp_timed up
  owned := p.broughtUp_owned

/-! ## Poised sessions -/

/-- Whatever helpers have been started, none is left when all of them have had their turn. -/
theorem runHelpers_idle (d : s.runHelpers bound = some t) : t.helpers = 0 := by
  by_cases free : s.lock = .free
  · exact (runHelpers_free free d).1
  · obtain ⟨draining, rfl⟩ := runHelpers_still (.inl free) d
    rfl

/-- What holds of a session that has been brought up, whenever nothing runs. -/
structure Poised (s : Session) : Prop where
  rested : s.loop = .running → s.Rested
  heeds : s.loop = .running → s.phase ≠ .initializing
  idle : s.helpers = 0
  gone : s.loop ≠ .running → s.stage.Gone

namespace Rested

theorem handled {m : Message} {lanes : Lanes Message} (h : s.Rested)
    (other : ∀ query, m ≠ .shutdown query) (next : s.lanes.next? = some (m, lanes))
    (d : { s with lanes }.handle bound m = some t) : t.Rested where
  tidy := handle_tidy h.tidy other next d
  timed := handle_timed h.timed other next d
  owned := handle_owned h.owned next d

/-- A session whose loop goes on behind a message is rested again. -/
theorem handled_running {m : Message} {lanes : Lanes Message} (h : s.Rested)
    (next : s.lanes.next? = some (m, lanes)) (d : { s with lanes }.handle bound m = some t)
    (running : t.loop = .running) : t.Rested := by
  refine h.handled (fun query last => ?_) next d
  subst last
  cases (terminate_stage d).2.1.symm.trans running

/-- Behind a message a session is fit as long as it is live. -/
theorem handled_fit {m : Message} {lanes : Lanes Message} (h : s.Rested)
    (next : s.lanes.next? = some (m, lanes)) (d : { s with lanes }.handle bound m = some t)
    (live : t.isLive = true) : t.Fit := by
  refine (h.handled (fun query last => ?_) next d).fit
  subst last
  simp [isLive, (terminate_stage d).1, Phase.isLive] at live

theorem deeds (h : s.Rested) (d : Deeds thread s t) : t.Rested where
  tidy := tidy_kept.deeds d h.tidy
  timed := d.timed h.timed
  owned := d.owned h.owned

theorem helped (h : s.Rested) (d : s.runHelpers bound = some t) : t.Rested where
  tidy := tidy_steady.helped h.tidy d
  timed := timed_steady.helped h.timed d
  owned := owned_steady.helped h.owned d

theorem due (h : s.Rested) : s.deliverDue.Rested where
  tidy := tidy_steady.due h.tidy
  timed := timed_steady.due h.timed
  owned := owned_steady.due h.owned

theorem passed (h : s.Rested) (clock : Nat) : Rested { s with clock := clock } where
  tidy := h.tidy
  timed := h.timed
  owned := owned_steady.passed clock h.owned

end Rested

namespace Poised

theorem fit (h : s.Poised) (live : s.isLive = true) : s.Fit := by
  by_cases running : s.loop = .running
  · exact (h.rested running).fit
  · have terminated : s.phase = .terminated := (h.gone running).terminated
    simp [isLive, terminated, Phase.isLive] at live

/-- A message is handled, and the helpers that it has started have their turn. -/
theorem handled {bound' : Nat} {m : Message} {lanes : Lanes Message} (h : s.Poised)
    (running : s.loop = .running) (next : s.lanes.next? = some (m, lanes))
    (d : { s with lanes }.handle bound m = some u) (helped : u.runHelpers bound' = some t) :
    t.Poised := by
  have loop := runHelpers_loop helped
  have left := handle_left (s := { s with lanes }) (h.heeds running) d
  by_cases last : ∃ query, m = .shutdown query
  · obtain ⟨query, rfl⟩ := last
    have ended : t.loop = .ended := loop.trans (terminate_stage d).2.1
    have gone := gone_kept.runHelpers (terminate_gone d) helped
    exact
      { rested := fun running => nomatch running.symm.trans ended
        heeds := fun running => nomatch running.symm.trans ended
        idle := runHelpers_idle helped
        gone := fun _ => gone }
  · have other : ∀ query, m ≠ .shutdown query := fun query same => last ⟨query, same⟩
    have runs : t.loop = .running := loop.trans ((handle_loop other d).trans running)
    exact
      { rested := fun _ => ((h.rested running).handled other next d).helped helped
        heeds := fun _ => left_kept.runHelpers left helped
        idle := runHelpers_idle helped
        gone := fun ended => absurd runs ended }

/-- Code runs, and the helpers that it has started have their turn. -/
theorem deeds (h : s.Poised) (d : Deeds thread s u) (helped : u.runHelpers bound = some t) :
    t.Poised := by
  have loop : t.loop = s.loop := (runHelpers_loop helped).trans d.loop
  exact
    { rested := fun running => ((h.rested (loop.symm.trans running)).deeds d).helped helped
      heeds := fun running =>
        left_kept.runHelpers (left_kept.deeds d (h.heeds (loop.symm.trans running))) helped
      idle := runHelpers_idle helped
      gone := fun ended => gone_kept.runHelpers
        (gone_kept.deeds d (h.gone fun running => ended (loop.trans running))) helped }

theorem due (h : s.Poised) : s.deliverDue.Poised where
  rested running := (h.rested running).due
  heeds running := h.heeds running
  idle := h.idle
  gone ended := ⟨(h.gone ended).terminated, (h.gone ended).deserted⟩

theorem passed (h : s.Poised) (clock : Nat) : Poised { s with clock := clock } where
  rested running := (h.rested running).passed clock
  heeds running := h.heeds running
  idle := h.idle
  gone ended := ⟨(h.gone ended).terminated, (h.gone ended).deserted⟩

theorem forsake (h : s.Poised) : s.forsake.Poised where
  rested running :=
    have rested := h.rested running
    ⟨rested.tidy, rested.timed, rested.owned.forsake⟩
  heeds running := h.heeds running
  idle := h.idle
  gone ended := ⟨(h.gone ended).terminated, (h.gone ended).deserted⟩

end Poised

/-- Bring-up and the first instant lead to a poised session, if the engine comes up. -/
theorem start_poised (p : Fresh o) (d : o.start bound = some s) (running : s.loop = .running) :
    s.Poised := by
  obtain ⟨r, heeds⟩ := start_reached p d
  have arises := p.arises.leads (p.start_tapes d).leads
  rw [start_eq] at d
  obtain ⟨u, -, helped⟩ := Option.bind_eq_some_iff.1 d
  have left := heeds running
  simp only [helpersWait, decide_eq_false_iff_not] at left
  exact
    { rested := fun running => ⟨arises.upkeep.1, r.timed p running, r.owned p⟩
      heeds := fun _ => left
      idle := runHelpers_idle helped
      gone := fun ended => absurd running ended }

end Session
end ScriptHost
