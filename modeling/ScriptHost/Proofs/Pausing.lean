import ScriptHost.Proofs.Sweeping

/-!
# Sweeps while a session is paused

A pause takes the armed sweep back, and no sweep that is handled while the session is paused arms
another one. So from then on there is no more sweeping than there is cause for: sweeps that waited
in line already, those that are asked for, and one for what a cancelled timer or removed listeners
leave behind. None of these causes is lost.

## Main definitions

* `Moment.WhilePaused` — a moment of the period that begins with a pause.
* `Moment.PausesSweeps` — what a pause comes to.

## Main statements

* `Upkeep.Step.handled_le`, `Upkeep.Course.handled_le` — every sweep that is handled has a cause.
* `Moment.Arises.pauses_sweeps` — so it is in every session.
-/

namespace ScriptHost

namespace Upkeep

variable {u u' : Upkeep} {marks : List Mark}

theorem arm_length (u : Upkeep) : u.arm.armed.length ≤ u.armed.length + 1 := by
  rcases u.arm_armed with ⟨same, -⟩ | ⟨none, -, one⟩
  · rw [same]
    exact Nat.le_succ _
  · rw [one]
    exact Nat.le_add_left ..

/-- A sweep that is handled was in line or armed, and while the session is paused none is armed
without a cause. -/
theorem Step.handled_le (n : Step u marks u') (paused : u.phase = .paused)
    (stays : phasesOf marks = []) :
    marks.countP Mark.isHandled + u'.waiting + u'.armed.length ≤
      u.waiting + u.armed.length + marks.countP Mark.isCause := by
  cases n with
  | asked => simp [Mark.isHandled, Mark.isCause]; omega
  | cancelled | unlistened =>
    have armed := u.arm_length
    rw [arm_eq]
    simp [Mark.isHandled, Mark.isCause]
    omega
  | handled _ waiting handled =>
    rw [rearm_of_paused (by exact paused), waiting]
    simp [handled]
    omega
  | entered =>
    rw [rearm_of_paused paused]
    simp
  | due =>
    have parts := List.length_eq_length_filter_add (l := u.armed) (u.clock < ·)
    have due : (u.armed.filter fun due => !decide (u.clock < due)) =
        u.armed.filter (· ≤ u.clock) := List.filter_congr fun due _ => by
        rw [← decide_not, decide_eq_decide, Nat.not_lt]
    rw [due] at parts
    simp
    omega
  | last | passed | idled => simp
  | crashed => simp
  | _ => cases stays

theorem Course.handled_le (c : Course u marks u') (h : u.Sound) (paused : u.phase = .paused)
    (stays : phasesOf marks = []) :
    marks.countP Mark.isHandled + u'.waiting + u'.armed.length ≤
      u.waiting + u.armed.length + marks.countP Mark.isCause := by
  induction c with
  | none => simp
  | more c n ih =>
    rw [phasesOf_append, List.append_eq_nil_iff] at stays
    have before := ih stays.1
    have step := n.handled_le (c.stays h stays.1 ▸ paused) stays.2
    simp only [List.countP_append]
    omega

end Upkeep

namespace Moment

variable {m m' mid : Moment} {marks : List Mark}

/-- A moment of the period that begins with a pause: since then the session has neither gone on nor
begun to shut down. -/
def WhilePaused (m : Moment) (marks : List Mark) (m' : Moment) : Prop :=
  Chronicle ⟨m.session.pause.2, m.doing⟩ marks m' ∧ phasesOf marks = []

/-- A sweep has been handled before that time is over. -/
def SweepsWithin (m : Moment) (limit : Nat) (m' : Moment) : Prop :=
  m.Within limit m' fun marks _ => anyHandled marks = true

/-- What is done at a moment of a paused session is followed by a sweep: within an interval, if the
session stays paused for so long. -/
def FollowedBySweep (m : Moment) : Prop :=
  ∀ marks m', Chronicle m marks m' → phasesOf marks = [] →
    m'.Elapsed (m.session.clock + m.session.settings.cleanupInterval) →
    m.SweepsWithin (m.session.clock + m.session.settings.cleanupInterval) m'

/-- What a pause at a moment comes to. -/
structure PausesSweeps (m : Moment) : Prop where
  /-- Every sweep that is handled has waited in line already, or has a cause. -/
  handled : ∀ {marks m'}, m.WhilePaused marks m' →
    marks.countP Mark.isHandled ≤ m.session.lanes.sweepsInLine + marks.countP Mark.isCause
  asked : ∀ {marks mid}, m.WhilePaused marks mid → mid.session.sweepNow.1 = true →
    FollowedBySweep ⟨mid.session.sweepNow.2, mid.doing⟩
  cancelled : ∀ {marks mid door id}, m.WhilePaused marks mid →
    (mid.session.cancel door id).1 = true →
    FollowedBySweep ⟨(mid.session.cancel door id).2, mid.doing⟩
  unlistened : ∀ {marks mid door event}, m.WhilePaused marks mid →
    (mid.session.unlisten door event).1 ≠ 0 →
    FollowedBySweep ⟨(mid.session.unlisten door event).2, mid.doing⟩
  /-- Whatever is put in line, nothing is released until such a sweep is handled. -/
  kept : ∀ {marks mid marks' m'}, m.WhilePaused marks mid → Chronicle mid marks' m' →
    phasesOf marks' = [] → anyHandled marks' = false →
    disposals m'.session.log = disposals mid.session.log

theorem Arises.followedBySweep (h : m.Arises) (paused : m.session.phase = .paused)
    (coming : m.session.upkeep.armed ≠ [] ∨ 0 < m.session.upkeep.waiting) : m.FollowedBySweep := by
  intro marks m' c stays elapsed
  obtain ⟨marks₁, before, ks, after, marks₂, c₁, -, n, some, c₂, -, soon⟩ :=
    c.sweep_comes h (.inr paused) stays (h.upkeep.2.1.awaits coming) elapsed
  refine ⟨marks₁ ++ ks, marks₂, after, c₁.more n, c₂, soon, ?_⟩
  exact (anyHandled_append marks₁ ks).trans (by rw [some, Bool.or_true])

theorem WhilePaused.arises (w : m.WhilePaused marks m') (h : m.Arises) : m'.Arises :=
  (h.leads ((Leads.refl m).code (@Session.Deeds.pause .host m.session))).leads ⟨marks, w.1⟩

theorem WhilePaused.paused (w : m.WhilePaused marks m') (h : m.Arises)
    (accepted : m.session.pause.1 = true) : m'.session.phase = .paused := by
  have begun := h.leads ((Leads.refl m).code (@Session.Deeds.pause .host m.session))
  rw [w.1.stays begun w.2, Session.pause_phase,
    if_pos ((Session.pause_accepted m.session).1 accepted)]

/-- A sweep is to come behind code that has armed or posted one. -/
theorem followed_of_marked {s t : Session} {marks : List Mark} {doing : Doing}
    (h : Arises ⟨s, doing⟩) (paused : s.phase = .paused) (d : Session.Marked .host s marks t)
    (quiet : phasesOf marks = [])
    (coming : t.upkeep.armed ≠ [] ∨ 0 < t.upkeep.waiting) : FollowedBySweep ⟨t, doing⟩ := by
  have acted : Chronicle ⟨s, doing⟩ marks ⟨t, doing⟩ := (Chronicle.none _).more (.code d doing)
  exact (h.leads ⟨marks, acted⟩).followedBySweep ((acted.stays h quiet).trans paused) coming

/-- What is armed for something that has been buried. -/
theorem Arises.armed (h : m.Arises) (paused : m.session.phase = .paused) {t : Session}
    (still : m.session.Still t) : (t.armSweep false).upkeep.armed ≠ [] := by
  obtain ⟨tidy, sound, -⟩ := h.upkeep
  obtain ⟨tidy', same⟩ := still tidy
  rw [(Session.armSweep_upheld tidy' false).2]
  refine Upkeep.arm_ne_nil ?_
  rw [same, sound.closed, show m.session.upkeep.phase = .paused from paused]
  rfl

/-- Pausing a session stops its sweeps, except for those there is cause for. -/
theorem Arises.pauses_sweeps (h : m.Arises) (accepted : m.session.pause.1 = true) :
    m.PausesSweeps where
  handled := by
    intro marks m' w
    obtain ⟨tidy, sound, -⟩ :=
      (h.leads ((Leads.refl m).code (@Session.Deeds.pause .host m.session))).upkeep
    have ready := (Session.pause_accepted m.session).1 accepted
    have begun : m.session.pause.2.upkeep =
        { m.session.upkeep with phase := .paused, armed := [] } := by
      simp only [Session.pause, ready]
      exact (Session.withdrawSweep_upheld (s := { m.session with phase := .paused }) h.upkeep.1).2
    have counted := (w.1.upheld tidy).2.handled_le sound (congrArg Upkeep.phase begun) w.2
    simp only [begun] at counted
    have waiting : m.session.upkeep.waiting = m.session.lanes.sweepsInLine := rfl
    simp only [waiting, List.length_nil] at counted
    omega
  asked := by
    intro marks mid w asked
    have live : mid.session.isLive = true := by
      by_contra gone
      simp [Session.sweepNow, gone] at asked
    have posted : mid.session.sweepNow = mid.session.post .sweep := if_pos live
    rw [posted] at asked ⊢
    refine followed_of_marked (w.arises h) (w.paused h accepted) (.post _ rfl)
      (by simp [asked]; rfl) (.inr ?_)
    cases accepts : mid.session.lanes.accepts with
    | false => simp [Session.post, Lanes.post_of_not_accepts accepts] at asked
    | true =>
      simp [Session.post, Lanes.post_of_accepts accepts, Session.upkeep, Lanes.sweepsInLine,
        Message.isSweep]
  cancelled := by
    intro marks mid door id w cancelled
    obtain ⟨t, still, arms⟩ := Session.cancel_arms cancelled
    refine followed_of_marked (w.arises h) (w.paused h accepted) (.cancel _ door id)
      (by simp [cancelled]; rfl) (.inl ?_)
    rw [arms]
    exact (w.arises h).armed (w.paused h accepted) still
  unlistened := by
    intro marks mid door event w removed
    obtain ⟨t, still, arms⟩ := Session.unlisten_arms removed
    refine followed_of_marked (w.arises h) (w.paused h accepted) (.unlisten _ door event)
      (by simp [removed]; rfl) (.inl ?_)
    rw [arms]
    exact (w.arises h).armed (w.paused h accepted) still
  kept := by
    intro marks mid marks' m' w c stays unhandled
    have going : mid.session.phase ≠ .shuttingDown := by
      rw [w.paused h accepted]
      decide
    refine c.unreleased (w.arises h) stays (fun mem => ?_) going
    simp only [anyHandled, List.any_eq_false] at unhandled
    exact unhandled _ mem rfl

/-- A ready session is paused, and then a sweep is asked for and handled: it has a cause. -/
theorem pauses_sweeps_readied :
    ∃ m m' : Moment, m.session.pause.1 = true ∧ m.PausesSweeps ∧
      m.WhilePaused [.asked, .swept] m' ∧
      [Mark.asked, .swept].countP Mark.isHandled ≤ m.session.lanes.sweepsInLine + 1 := by
  have paused : PausesSweeps ⟨Session.readied, .nothing⟩ :=
    Arises.pauses_sweeps ⟨_, Session.readied_comesAfter⟩ (by decide +kernel)
  have asked := (Chronicle.none ⟨Session.readied.pause.2, .nothing⟩).more
    (.code (@Session.Marked.post .host _ .sweep rfl) _)
  have swept := asked.more (.swept rfl rfl rfl)
  have period : WhilePaused ⟨Session.readied, .nothing⟩ [.asked, .swept] _ := ⟨swept, rfl⟩
  exact ⟨_, _, by decide +kernel, paused, period, paused.handled period⟩

end Moment
end ScriptHost
