import ScriptHost.Proofs.Strokes
import ScriptHost.Proofs.Upheld

/-!
# Every session has a chronicle and a tape

Whatever a scenario does, step by step, goes on a tape, and so it is told by a chronicle: messages
are handled in strides, and time passes only while the loop has nothing to do, from one armed
message to the next.

## Main definitions

* `Moment.Arises`, `Moment.ComesAfter` — a chronicle leads to a moment from the session that was
  made.
* `Moment.Taped` — so does a tape.

## Main statements

* `Moment.Arises.upkeep` — what is always true of the record of a session.
* `Session.settle_tapes`, `Session.runTo_tapes` — what the loop does goes on a tape.
* `Session.step_tapes`, `Session.stepAll_tapes` — so does what the host does.
* `Scenario.outcome_taped`, `Scenario.outcome_arises` — every scenario has a tape and a chronicle.
-/

namespace ScriptHost

/-! ## Where a chronicle begins -/

namespace Moment

open Session (Spawned)

/-- A moment of a session that has been made, and everything that is marked of it until then. -/
def ComesAfter (m : Moment) (marks : List Mark) : Prop :=
  ∃ origin, Spawned origin ∧ Chronicle ⟨origin, .nothing⟩ marks m

/-- A moment of a session that has been made. -/
def Arises (m : Moment) : Prop := ∃ marks, m.ComesAfter marks

variable {m m' : Moment} {marks marks' : List Mark}

theorem ComesAfter.trans (h : m.ComesAfter marks) (c : Chronicle m marks' m') :
    m'.ComesAfter (marks ++ marks') := by
  obtain ⟨origin, spawned, before⟩ := h
  exact ⟨origin, spawned, before.trans c⟩

theorem Arises.leads (h : m.Arises) (l : Leads m m') : m'.Arises := by
  obtain ⟨marks, h⟩ := h
  obtain ⟨marks', c⟩ := l
  exact ⟨_, h.trans c⟩

theorem Arises.occurs (h : m.Arises) : m.Occurs := by
  obtain ⟨_, origin, spawned, c⟩ := h
  exact ⟨origin, spawned, c.later⟩

theorem spawned_eq {origin : Session} (spawned : Spawned origin) :
    ∃ settings locale program modules, origin =
      { Session.create settings locale program modules with lock := ⟨some .loop⟩ } := by
  obtain ⟨_, _, settings, program, modules, made⟩ := spawned
  exact ⟨settings, _, program, modules, Session.spawn_eq_ok made⟩

theorem spawned_upkeep {origin : Session} (spawned : Spawned origin) :
    origin.Tidy ∧ origin.upkeep.Sound ∧ origin.upkeep.Tended := by
  obtain ⟨settings, locale, program, modules, rfl⟩ := spawned_eq spawned
  refine ⟨⟨.nil, .nil, nofun, nofun, nofun, nofun, nofun, nofun⟩, ?_, nofun⟩
  exact {
    begun := nofun
    closed := rfl
    ending := nofun
    starting := fun _ => .inl rfl
    up := nofun
    told := nofun
    ended := ⟨nofun, nofun⟩
    one := Nat.zero_le _
    soon := nofun
    shut := fun _ => rfl }

/-- What is always true of the record of a session. -/
theorem Arises.upkeep (h : m.Arises) :
    m.session.Tidy ∧ m.session.upkeep.Sound ∧ m.session.upkeep.Tended := by
  obtain ⟨marks, origin, spawned, c⟩ := h
  obtain ⟨tidy, sound, tended⟩ := spawned_upkeep spawned
  obtain ⟨tidy', course⟩ := c.upheld tidy
  exact ⟨tidy', course.sound sound, course.tended sound tended⟩

/-- The last message waits only while the session shuts down. -/
theorem Arises.closing (h : m.Arises) {message : Message} {lanes : Lanes Message}
    (next : m.session.lanes.next? = some (message, lanes)) (last : message.isLast = true) :
    m.session.phase = .shuttingDown := by
  obtain ⟨tidy, sound, -⟩ := h.upkeep
  have patient : message.isUrgent = false := by cases message <;> first | rfl | cases last
  obtain ⟨ordinary, first, -⟩ := Session.taken_ordinary tidy next patient
  exact sound.ending (by simp [Session.upkeep, first, last])

end Moment

namespace Session

open Moment (Arises Tapes)

variable {o s t : Session}

/-! ## The course of a session -/

theorem Fresh.arises (p : Fresh o) : Arises ⟨o, .nothing⟩ := by
  induction p with
  | spawned h => exact ⟨[], _, ⟨_, _, _, _, _, h⟩, .none _⟩
  | early _ step ih => exact ih.leads ((Moment.Leads.refl _).code (earlyStep_deeds step _))

theorem Fresh.bringUp_tapes (p : Fresh o) : Tapes ⟨o, .nothing⟩ ⟨o.bringUp, .nothing⟩ := by
  obtain ⟨u, d, h⟩ := bringUp_cases o
  have starting : u.unlock.loop = .starting := d.loop.trans p.stage.1
  have left : Tapes ⟨o, .nothing⟩ ⟨u.unlock, .nothing⟩ :=
    ((Tapes.refl ⟨o, .nothing⟩).code nofun d).locked nofun u.lock.release
  rcases h with h | h | h <;> rw [h]
  · exact left.calm (.abandoned starting) (.idle rfl rfl)
  · exact left.calm (.crashed starting) (.idle rfl rfl)
  · exact left.calm (.entered starting) ⟨sameTimers_enterLoop _, rfl, nofun⟩

theorem Fresh.bringUp_leads (p : Fresh o) : Moment.Leads ⟨o, .nothing⟩ ⟨o.bringUp, .nothing⟩ :=
  p.bringUp_tapes.leads

theorem runHelpers_tapes {bound : Nat} (h : Arises ⟨s, .nothing⟩)
    (d : s.runHelpers bound = some t) : Tapes ⟨s, .nothing⟩ ⟨t, .nothing⟩ :=
  ((tapes_kept ⟨s, .nothing⟩ .nothing [] nofun).runHelpers ⟨.refl _, h.occurs.balanced⟩ d).1

/-- Helpers are first, unless they have to wait. -/
theorem follow_tapes {bound : Nat} (r : Reached o .helpers s) (h : Arises ⟨s, .nothing⟩)
    (followed : s.follow bound = some t) :
    ∃ u, Reached o .loop u ∧ Tapes ⟨s, .nothing⟩ ⟨u, .nothing⟩ ∧ u.settle bound = some t := by
  obtain ⟨u, first, d⟩ := follow_cases followed
  rcases first with ⟨waits, rfl⟩ | ⟨-, helped⟩
  · exact ⟨_, r.waited waits, .refl _, d⟩
  · exact ⟨u, r.helped helped, runHelpers_tapes h helped, d⟩

theorem due_tapes (s : Session) : Tapes ⟨s, .nothing⟩ ⟨s.deliverDue, .nothing⟩ :=
  (Tapes.refl _).calm (.due s) (.idle rfl rfl)

/-- Every message at the present instant is handled. -/
theorem settle_tapes {bound : Nat} (r : Reached o .loop s) (h : Arises ⟨s, .nothing⟩)
    (d : s.settle bound = some t) : Tapes ⟨s, .nothing⟩ ⟨t, .nothing⟩ := by
  induction bound generalizing s with
  | zero => cases d
  | succ bound ih =>
    rw [settle_succ] at d
    split at d
    · cases d
      exact .refl _
    next running =>
    have running := Decidable.not_not.1 running
    split at d
    · next m lanes next =>
      obtain ⟨u, handled, d⟩ := Option.bind_eq_some_iff.1 d
      have first := handle_tapes h.occurs.balanced r.unlocked running next (h.closing next) handled
      have r := r.handled (by decide) running next handled
      obtain ⟨v, r, followed, d⟩ := follow_tapes r (h.leads first.leads) d
      have first := first.trans followed
      exact first.trans (ih r (h.leads first.leads) d)
    · split at d
      · split at d
        · have due := due_tapes s
          exact due.trans (ih r.due (h.leads due.leads) d)
        · cases d
          exact .refl _
      · cases d
        exact .refl _

/-- The loop goes from one armed message to the next. -/
theorem runTo_tapes {bound target : Nat} (r : Reached o .loop s) (early : s.clock ≤ target)
    (h : Arises ⟨s, .nothing⟩) (d : s.runTo bound target = some t) :
    Tapes ⟨s, .nothing⟩ ⟨t, .nothing⟩ := by
  induction bound generalizing s with
  | zero => cases d
  | succ bound ih =>
    simp only [runTo, Option.bind_eq_bind, Option.bind_eq_some_iff] at d
    obtain ⟨u, settle, d⟩ := d
    have first := settle_tapes r h settle
    obtain ⟨r, settled, clock⟩ := settle_reached r settle
    split at d
    · cases d
      exact first
    next running =>
    have running := Decidable.not_not.1 running
    have passed : ∀ later, u.clock ≤ later →
        (∀ due, u.lanes.nextDue? = some due → later ≤ due) →
        Tapes ⟨s, .nothing⟩ ⟨{ u with clock := later }, .nothing⟩ := fun later le early =>
      first.calm (.passed running le (settled.idle running) early) (.idle rfl rfl)
    split at d
    · next due heq =>
      have later := settled.later running due heq
      split at d
      · next near =>
        have second := (passed due later.le fun _ next => by simp_all).trans (due_tapes _)
        have r : Reached o .loop { u with clock := due } := r.passed fun _ => later.le
        exact second.trans (ih r.due near (h.leads second.leads) d)
      · next far =>
        cases d
        exact passed target (clock ▸ early) fun _ next => by simp_all; omega
    · next none =>
      cases d
      exact passed target (clock ▸ early) fun _ next => by simp_all

theorem run_tapes {bound ms : Nat} (r : Reached o .loop s) (h : Arises ⟨s, .nothing⟩)
    (d : s.run bound ms = some t) : Tapes ⟨s, .nothing⟩ ⟨t, .nothing⟩ := by
  unfold run at d
  split at d
  · cases d
    exact .refl _
  next running =>
  have running := Decidable.not_not.1 running
  simp only [Option.bind_eq_bind, Option.bind_eq_some_iff] at d
  obtain ⟨u, ran, d⟩ := d
  have due := due_tapes s
  have ran := due.trans (runTo_tapes r.due (Nat.le_add_right ..) (h.leads due.leads) ran)
  cases d
  split
  · exact ran
  · next ended =>
    obtain ⟨marks, c⟩ := ran.leads
    obtain ⟨-, course⟩ := c.upheld h.upkeep.1
    have done : u.loop = .ended := (course.entered_loop (.inl running)).resolve_left ended
    exact ran.calm (.idled done) (.idle rfl rfl)

theorem Fresh.start_tapes {bound : Nat} (p : Fresh o) (d : o.start bound = some t) :
    Tapes ⟨o, .nothing⟩ ⟨t, .nothing⟩ := by
  rw [start_eq] at d
  obtain ⟨u, followed, d⟩ := Option.bind_eq_some_iff.1 d
  have begun := p.bringUp_tapes
  obtain ⟨v, r, first, settled⟩ := follow_tapes .broughtUp (p.arises.leads begun.leads) followed
  have first := begun.trans first
  have second := first.trans (settle_tapes r (p.arises.leads first.leads) settled)
  exact second.trans (runHelpers_tapes (p.arises.leads second.leads) d)

theorem step_tapes {bound : Nat} {step : HostStep} {reply : Reply} (r : Reached o .loop s)
    (heeds : s.HeedsHost) (h : Arises ⟨s, .nothing⟩)
    (d : s.step bound step = some (reply, t)) : Tapes ⟨s, .nothing⟩ ⟨t, .nothing⟩ := by
  cases step with
  | run ms =>
    simp only [Session.step, Option.bind_eq_bind, Option.bind_eq_some_iff] at d
    obtain ⟨u, ran, d⟩ := d
    cases d
    exact run_tapes r h ran
  | drop =>
    cases d
    cases gone : s.isGone with
    | false => simpa using Tapes.refl ⟨s, .nothing⟩
    | true =>
      simpa using (Tapes.refl ⟨s, .nothing⟩).calm (.dropped gone .nothing) (.idle rfl rfl)
  | act a =>
    unfold Session.step at d
    dsimp only at d
    split at d
    · next ask asks =>
      have asked := (Tapes.refl ⟨s, .nothing⟩).code (by simp) (blockingAsk_deeds asks s)
      have r := r.asked heeds asks
      split at d
      · next heq =>
        rw [heq] at asked r
        simp only [Option.bind_eq_bind, Option.bind_eq_some_iff] at d
        obtain ⟨u, ran, d⟩ := d
        cases d
        exact asked.trans (run_tapes r (h.leads asked.leads) ran)
      · next heq =>
        rw [heq] at asked
        cases d
        exact asked
    · simp only [Option.bind_eq_bind, Option.bind_eq_some_iff] at d
      obtain ⟨u, helped, d⟩ := d
      cases d
      have acted := (Tapes.refl ⟨s, .nothing⟩).code (by simp) (act_deeds a s)
      exact acted.trans (runHelpers_tapes (h.leads acted.leads) helped)

/-- What the steps of the host lead to goes on a tape. -/
theorem stepAll_tapes {bound : Nat} {steps : List HostStep} {reports : List Report} (p : Fresh o)
    (r : Reached o .loop s) (heeds : s.HeedsHost) (h : Arises ⟨s, .nothing⟩)
    (d : s.stepAll bound steps = some (reports, t)) : Tapes ⟨s, .nothing⟩ ⟨t, .nothing⟩ := by
  induction steps generalizing s reports with
  | nil =>
    cases d
    exact .refl _
  | cons step rest ih =>
    simp only [stepAll, Option.bind_eq_bind, Option.bind_eq_some_iff] at d
    obtain ⟨⟨reply, u⟩, stepped, ⟨others, v⟩, d, heq⟩ := d
    cases heq
    have first := step_tapes r heeds h stepped
    obtain ⟨r, heeds⟩ := step_reached p r heeds stepped
    exact first.trans (ih r heeds (h.leads first.leads) d)

/-- Bring-up, and the steps of the host behind it. -/
theorem Fresh.course_tapes {bound : Nat} {steps : List HostStep} {reports : List Report}
    {u : Session} (p : Fresh o) (d : o.start bound = some s)
    (played : s.stepAll bound steps = some (reports, u)) :
    Tapes ⟨o, .nothing⟩ ⟨u, .nothing⟩ := by
  have begun := p.start_tapes d
  obtain ⟨r, heeds⟩ := start_reached p d
  exact begun.trans (stepAll_tapes p r heeds (p.arises.leads begun.leads) played)

end Session

/-! ## Every session has a tape -/

namespace Moment

open Session (Fresh Spawned)

/-- A moment of a session that has been made, and everything that has been on its tape until then.
-/
def Taped (m : Moment) (tape : List Stroke) : Prop :=
  ∃ origin, Spawned origin ∧ Tape ⟨origin, .nothing⟩ tape m

variable {m m' : Moment} {tape tape' : List Stroke}

theorem Taped.trans (h : m.Taped tape) (c : Tape m tape' m') : m'.Taped (tape ++ tape') := by
  obtain ⟨origin, spawned, before⟩ := h
  exact ⟨origin, spawned, before.trans c⟩

theorem Taped.arises (h : m.Taped tape) : m.Arises := by
  obtain ⟨origin, spawned, c⟩ := h
  obtain ⟨marks, c⟩ := c.leads
  exact ⟨marks, origin, spawned, c⟩

end Moment

theorem Session.Fresh.taped {o : Session} (p : Fresh o) :
    ∃ tape, Moment.Taped ⟨o, .nothing⟩ tape := by
  induction p with
  | spawned h => exact ⟨[], _, ⟨_, _, _, _, _, h⟩, .none _⟩
  | early _ step ih =>
    obtain ⟨_, taped⟩ := ih
    obtain ⟨_, c⟩ := (Moment.Tapes.refl ⟨_, .nothing⟩).code nofun (Session.earlyStep_deeds step _)
    exact ⟨_, taped.trans c⟩

/-- Every scenario has a tape, from the session that is made to the one in which it ends. -/
theorem Scenario.outcome_taped {c : Scenario} {bound : Nat} {isDirectory : String → Bool}
    {env : Locale.Environment} {transcript : Transcript} {last : Session}
    (h : c.outcome bound isDirectory env = some (.ok (transcript, last))) :
    ∃ tape, Moment.Taped ⟨last, .nothing⟩ tape := by
  unfold Scenario.outcome at h
  split at h
  · cases h
  next s made =>
  have p := Session.earlySteps_fresh c.early (.spawned made)
  split at h
  · cases h
  · simp only [Option.bind_eq_bind, Option.bind_eq_some_iff] at h
    obtain ⟨started, start, ⟨steps, ended⟩, played, same⟩ := h
    cases same
    obtain ⟨_, taped⟩ := p.taped
    obtain ⟨_, c⟩ := p.course_tapes start played
    exact ⟨_, taped.trans c⟩

/-- Every scenario has a chronicle. -/
theorem Scenario.outcome_arises {c : Scenario} {bound : Nat} {isDirectory : String → Bool}
    {env : Locale.Environment} {transcript : Transcript} {last : Session}
    (h : c.outcome bound isDirectory env = some (.ok (transcript, last))) :
    Moment.Arises ⟨last, .nothing⟩ := by
  obtain ⟨_, taped⟩ := Scenario.outcome_taped h
  exact taped.arises

end ScriptHost
