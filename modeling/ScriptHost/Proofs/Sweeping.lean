import ScriptHost.Proofs.Lifecycle
import ScriptHost.Proofs.NextTick

/-!
# Sweeps

At most one sweep is armed, and while a session is ready there is always one to come within an
interval. So what is in line is released within an interval, unless a sweep is skipped since code
has taken the execution lock and kept it.

## Main definitions

* `Upkeep.Awaits` — a sweep is to come within a time.
* `Moment.Elapsed` — whatever was due by some time has been done.
* `Moment.Within` — something has come about by some time.

## Main statements

* `Moment.Chronicle.sweep_comes` — a sweep that is awaited is handled in time.
* `Moment.Chronicle.unreleased` — without a sweep nothing is released.
* `Moment.Arises.tends_sweeps` — what is always true of the sweeps of a session.
-/

namespace ScriptHost

/-! ## The record -/

/-- Whether any sweep has been handled. -/
def anyHandled (marks : List Mark) : Bool := marks.any Mark.isHandled

theorem anyHandled_append (marks marks' : List Mark) :
    anyHandled (marks ++ marks') = (anyHandled marks || anyHandled marks') := List.any_append ..

namespace Upkeep

variable {u u' : Upkeep} {marks : List Mark} {limit : Nat}

/-- A sweep is to come, and it comes before that time is over. -/
structure Awaits (u : Upkeep) (limit : Nat) : Prop where
  clock : u.clock ≤ limit
  coming : (∃ due ∈ u.armed, due ≤ limit) ∨ 0 < u.waiting

/-- What is armed or waits is not later than an interval from now. -/
theorem Sound.awaits (h : u.Sound) (coming : u.armed ≠ [] ∨ 0 < u.waiting) :
    u.Awaits (u.clock + u.interval) where
  clock := Nat.le_add_right ..
  coming := coming.imp_left fun armed =>
    have ⟨due, mem⟩ := List.exists_mem_of_ne_nil _ armed
    ⟨due, mem, h.soon due mem⟩

theorem Awaits.arm (a : u.Awaits limit) : u.arm.Awaits limit := by
  rw [arm_eq]
  refine ⟨a.clock, a.coming.imp_left fun ⟨due, mem, soon⟩ => ?_⟩
  rcases u.arm_armed with ⟨same, -⟩ | ⟨none, -, -⟩
  · exact ⟨due, same ▸ mem, soon⟩
  · exact absurd none (List.ne_nil_of_mem mem)

/-- A sweep that is to come stays so until it is handled, as long as the session neither ends nor is
paused meanwhile. -/
theorem Step.awaits (n : Step u marks u') (running : u.loop = .running)
    (stays : phasesOf marks = []) (unhandled : anyHandled marks = false) (a : u.Awaits limit) :
    u'.Awaits limit := by
  cases n with
  | asked => exact ⟨a.clock, .inr (Nat.succ_pos _)⟩
  | cancelled => exact a.arm
  | unlistened => exact a.arm
  | handled _ _ handled => simp [anyHandled, handled] at unhandled
  | last => exact ⟨a.clock, a.coming⟩
  | entered starting => cases running.symm.trans starting
  | crashed starting => cases running.symm.trans starting
  | due =>
    refine ⟨a.clock, ?_⟩
    rcases a.coming with ⟨due, mem, soon⟩ | waiting
    · by_cases later : u.clock < due
      · exact .inl ⟨due, List.mem_filter.2 ⟨mem, decide_eq_true later⟩, soon⟩
      · have mem : due ∈ u.armed.filter (· ≤ u.clock) :=
          List.mem_filter.2 ⟨mem, decide_eq_true (Nat.not_lt.1 later)⟩
        exact .inr (Nat.lt_add_left _ (List.length_pos_of_mem mem))
    · exact .inr (Nat.lt_add_right _ waiting)
  | passed _ _ idle early =>
    rcases a.coming with ⟨due, mem, soon⟩ | waiting
    · exact ⟨(early due mem).trans soon, .inl ⟨due, mem, soon⟩⟩
    · exact absurd idle waiting.ne'
  | idled ended => cases running.symm.trans ended
  | _ => cases stays

/-- While no phase is entered the session stays in its phase. -/
theorem Course.stays (c : Course u marks u') (h : u.Sound) (stays : phasesOf marks = []) :
    u'.phase = u.phase := by
  have last := (c.path h).2
  rw [stays] at last
  exact (Option.some.inj last).symm

theorem Course.awaits (c : Course u marks u') (h : u.Sound)
    (up : u.phase = .ready ∨ u.phase = .paused) (stays : phasesOf marks = [])
    (unhandled : anyHandled marks = false) (a : u.Awaits limit) : u'.Awaits limit := by
  induction c with
  | none => exact a
  | more c n ih =>
    rw [phasesOf_append, List.append_eq_nil_iff] at stays
    rw [anyHandled_append, Bool.or_eq_false_iff] at unhandled
    have sound := c.sound h
    have running := sound.up (c.stays h stays.1 ▸ up)
    exact n.awaits running stays.2 unhandled.2 (ih stays.1 unhandled.1)

end Upkeep

/-! ## What is released -/

theorem Stage.Stirred.unreleased {g g' : Stage} (d : g.Stirred g') :
    disposals g'.log = disposals g.log := by
  induction d with
  | trans _ _ ih ih' => exact ih'.trans ih
  | noted g code => exact Session.disposals_append code g.log
  | guarded _ _ _ ih => exact ih
  | _ => rfl

namespace Session

variable {s t : Session}

theorem Marked.unhandled {thread : Thread} {marks : List Mark} (d : Marked thread s marks t) :
    anyHandled marks = false := by
  induction d with
  | trans _ _ ih ih' => rw [anyHandled_append, ih, ih']; rfl
  | guarded _ _ ih => exact ih
  | post | cancel | unlisten | pause | unpause | shutdown => split <;> rfl
  | _ => rfl

/-- A shutdown that is accepted begins at once. -/
theorem beginShutdown_phase {query : Option Nat} (accepted : (s.beginShutdown query).1 = true) :
    (s.beginShutdown query).2.phase = .shuttingDown := by
  cases live : s.isLive with
  | false => simp [beginShutdown, live] at accepted
  | true => rw [beginShutdown_of_live live, withdrawSweep_eq]

theorem afterSweep_disposals (s : Session) :
    disposals s.afterSweep.log =
      disposals (s.engaged fun s => s.sweepGraveyard.2).log :=
  congrArg (fun g : Stage => disposals g.log) (stage_armSweep _ true)

theorem afterSweep_clock (s : Session) : s.afterSweep.clock = s.clock := by
  have armed : s.afterSweep.clock = (s.engaged fun s => s.sweepGraveyard.2).clock :=
    congrArg Stage.clock (stage_armSweep _ true)
  rw [armed]
  rcases swept_cases s with ⟨-, same⟩ | ⟨-, _, _, eq, -⟩
  · rw [same]
  · rw [eq]

end Session

namespace Moment

open Session (Marked)

variable {m m' : Moment} {marks : List Mark} {limit : Nat}

/-- A sweep is handled between two messages. -/
theorem Stride.of_handled (n : Stride m marks m') (handled : anyHandled marks = true) :
    ∃ s lanes, m = ⟨s, .nothing⟩ ∧ s.lanes.next? = some (.sweep, lanes) ∧
      marks = [if s.lock = .free then .swept else .skipped] ∧
      m' = ⟨({ s with lanes } : Session).afterSweep, .nothing⟩ := by
  cases n with
  | code d => cases d.unhandled.symm.trans handled
  | swept _ next => exact ⟨_, _, rfl, next, rfl, rfl⟩
  | _ => cases handled

/-- Without a sweep nothing is released, except by the last message. -/
theorem Stride.unreleased (n : Stride m marks m') (unswept : .swept ∉ marks)
    (going : m.session.phase ≠ .shuttingDown) :
    disposals m'.session.log = disposals m.session.log := by
  cases n with
  | code d => exact d.deeds.stirred.unreleased
  | begun s job thread => simp [disposals, Session.note, Session.record]
  | @swept s lanes =>
    have held : s.lock ≠ .free := fun free => by simp [free] at unswept
    rw [Session.afterSweep_disposals]
    rcases Session.swept_cases { s with lanes } with ⟨-, same⟩ | ⟨free, -⟩
    · rw [same]
    · exact absurd free held
  | @last s query lanes =>
    obtain ⟨_, -, eq⟩ := Session.clear_eq { s with lanes }
    rw [eq]
    rfl
  | released _ closing => exact absurd closing going
  | @entered s =>
    exact congrArg (fun g : Stage => disposals g.log)
      (Session.stage_armSweep (s.postUrgent .ready).2 true)
  | _ => rfl

theorem Chronicle.stays (c : Chronicle m marks m') (h : m.Arises) (stays : phasesOf marks = []) :
    m'.session.phase = m.session.phase := by
  obtain ⟨tidy, sound, -⟩ := h.upkeep
  exact (c.upheld tidy).2.stays sound stays

/-- While a session does not shut down, nothing is released without a sweep. -/
theorem Chronicle.unreleased (c : Chronicle m marks m') (h : m.Arises) (stays : phasesOf marks = [])
    (unswept : .swept ∉ marks) (going : m.session.phase ≠ .shuttingDown) :
    disposals m'.session.log = disposals m.session.log := by
  induction c with
  | none => rfl
  | more c n ih =>
    rw [phasesOf_append, List.append_eq_nil_iff] at stays
    simp only [List.mem_append, not_or] at unswept
    have going' := c.stays h stays.1 ▸ going
    exact (n.unreleased unswept.2 going').trans (ih stays.1 unswept.1)

/-- The first sweep of a chronicle. -/
theorem Chronicle.first_handled (c : Chronicle m marks m') (handled : anyHandled marks = true) :
    ∃ marks₁ before ks after marks₂, Chronicle m marks₁ before ∧ anyHandled marks₁ = false ∧
      Stride before ks after ∧ anyHandled ks = true ∧ Chronicle after marks₂ m' ∧
      marks = marks₁ ++ ks ++ marks₂ := by
  induction c with
  | none => cases handled
  | @more m' m'' marks marks' c n ih =>
    cases earlier : anyHandled marks with
    | true =>
      obtain ⟨marks₁, before, ks, after, marks₂, c₁, none, n', some, c₂, rfl⟩ := ih earlier
      exact ⟨marks₁, before, ks, after, marks₂ ++ marks', c₁, none, n', some, c₂.more n, by simp⟩
    | false =>
      rw [anyHandled_append, earlier, Bool.false_or] at handled
      exact ⟨marks, m', marks', m'', [], c, earlier, n, handled, .none _, by simp⟩

/-- Nothing more is to be done at the present instant. -/
def Idle (m : Moment) : Prop := m.doing = .nothing ∧ m.session.Settled

/-- Whatever was due by some time has been done. -/
def Elapsed (m : Moment) (limit : Nat) : Prop :=
  limit < m.session.clock ∨ m.Idle ∧ limit ≤ m.session.clock

/-- On the way from one moment to another something has come about by some time. -/
def Within (m : Moment) (limit : Nat) (m' : Moment) (P : List Mark → Moment → Prop) : Prop :=
  ∃ marks marks' mid, Chronicle m marks mid ∧ Chronicle mid marks' m' ∧ mid.session.clock ≤ limit ∧
    P marks mid

/-- While a sweep is awaited the time for it is not over. -/
theorem Arises.not_elapsed (h : m.Arises) (running : m.session.loop = .running)
    (a : m.session.upkeep.Awaits limit) : ¬ m.Elapsed limit := by
  rintro (late | ⟨⟨-, settled⟩, late⟩)
  · exact absurd a.clock (Nat.not_le.2 late)
  · rcases a.coming with ⟨due, mem, soon⟩ | waiting
    · obtain ⟨alarm, among, rfl⟩ := List.mem_map.1 mem
      obtain ⟨first, next, le⟩ :=
        Lanes.nextDue?_le h.upkeep.1.sorted (List.mem_filter.1 among).1
      have later := settled.later running first next
      omega
    · have none := Lanes.ordinary_eq_nil_of_next? (settled.idle running)
      simp [Session.upkeep, Lanes.sweepsInLine, none] at waiting

/-- A sweep that is awaited is handled in time: there is a first one. -/
theorem Chronicle.sweep_comes (c : Chronicle m marks m') (h : m.Arises)
    (up : m.session.phase = .ready ∨ m.session.phase = .paused) (stays : phasesOf marks = [])
    (a : m.session.upkeep.Awaits limit) (elapsed : m'.Elapsed limit) :
    ∃ marks₁ before ks after marks₂, Chronicle m marks₁ before ∧ anyHandled marks₁ = false ∧
      Stride before ks after ∧ anyHandled ks = true ∧ Chronicle after marks₂ m' ∧
      marks = marks₁ ++ ks ++ marks₂ ∧ after.session.clock ≤ limit := by
  obtain ⟨tidy, sound, -⟩ := h.upkeep
  cases handled : anyHandled marks with
  | false =>
    have awaited := (c.upheld tidy).2.awaits sound up stays handled a
    have arises := h.leads ⟨marks, c⟩
    rw [← c.stays h stays] at up
    exact absurd elapsed (arises.not_elapsed (arises.upkeep.2.1.up up) awaited)
  | true =>
    obtain ⟨marks₁, before, ks, after, marks₂, c₁, none, n, some, c₂, rfl⟩ :=
      c.first_handled handled
    refine ⟨marks₁, before, ks, after, marks₂, c₁, none, n, some, c₂, rfl, ?_⟩
    simp only [phasesOf_append, List.append_eq_nil_iff] at stays
    have awaited := (c₁.upheld tidy).2.awaits sound up stays.1.1 none a
    obtain ⟨s, lanes, rfl, -, -, rfl⟩ := n.of_handled some
    exact (Session.afterSweep_clock { s with lanes }).trans_le awaited.clock

/-- While nothing is released, what is in line stays there. -/
theorem Later.mem_buried (l : Later m m') (h : m.Balanced) {pair : Pair}
    (same : disposals m'.session.log = disposals m.session.log)
    (mem : pair ∈ m.session.custody.buried) : pair ∈ m'.session.custody.buried := by
  have disposed : disposals m.session.log = m.session.journal.swept := h.balanced.disposed
  have disposed' : disposals m'.session.log = m'.session.journal.swept :=
    (l.balanced h).balanced.disposed
  have buried := l.onward.burials pair
  have before := List.count_pos_iff.2 mem
  simp only [Session.burials, ← disposed, ← disposed', same] at buried
  exact List.count_pos_iff.1 (by omega)

/-- A sweep that is not skipped releases everything that is in line. -/
theorem Stride.releases (n : Stride m marks m') (h : m.Arises) (handled : anyHandled marks = true)
    (free : .skipped ∉ marks) :
    disposals m'.session.log = disposals m.session.log ++ m.session.custody.buried := by
  obtain ⟨s, lanes, rfl, -, rfl, rfl⟩ := n.of_handled handled
  have balanced := h.occurs.balanced.balanced
  rw [Session.afterSweep_disposals]
  rcases Session.swept_cases { s with lanes } with ⟨held, -⟩ | ⟨-, released, failures, eq, all⟩
  · have held : s.lock ≠ .free := held
    simp [held] at free
  · have all : released = s.custody.buried := all balanced.buried_nodup balanced.buried_subset
    rw [eq, all]
    simp [disposals, List.filterMap_map]

/-- What is always true of the sweeps of a session. -/
structure TendsSweeps (m : Moment) : Prop where
  one : m.session.lanes.sweepsArmed.length ≤ 1
  /-- While a ready session has nothing to do, a sweep is armed within an interval. -/
  ready : m.Idle → m.session.phase = .ready →
    ∃ due, m.session.lanes.sweepsArmed = [due] ∧ m.session.clock < due ∧
      due ≤ m.session.clock + m.session.settings.cleanupInterval
  /-- What is in line is released within an interval, as long as the session stays ready and no
  sweep is skipped. -/
  disposed : ∀ {pair marks m'}, m.session.phase = .ready → pair ∈ m.session.custody.buried →
    Chronicle m marks m' → phasesOf marks = [] → .skipped ∉ marks →
    m'.Elapsed (m.session.clock + m.session.settings.cleanupInterval) →
    m.Within (m.session.clock + m.session.settings.cleanupInterval) m' fun _ mid =>
      ∃ new, disposals mid.session.log = disposals m.session.log ++ new ∧ pair ∈ new
  /-- Behind a shutdown no sweep is armed. -/
  closed : ∀ {query marks m'}, (m.session.beginShutdown query).1 = true →
    Chronicle ⟨(m.session.beginShutdown query).2, m.doing⟩ marks m' →
    m'.session.lanes.sweepsArmed = []

theorem Arises.tends_sweeps (h : m.Arises) : m.TendsSweeps where
  one := h.upkeep.2.1.one
  ready := by
    rintro ⟨-, settled⟩ ready
    obtain ⟨tidy, sound, tended⟩ := h.upkeep
    have running : m.session.loop = .running := sound.up (.inl ready)
    have none := Lanes.ordinary_eq_nil_of_next? (settled.idle running)
    have some : m.session.lanes.sweepsArmed ≠ [] := by
      refine (tended running (.inr ready)).resolve_right fun waiting => ?_
      simp [Session.upkeep, Lanes.sweepsInLine, none] at waiting
    obtain ⟨due, armed⟩ : ∃ due, m.session.lanes.sweepsArmed = [due] := by
      refine List.length_eq_one_iff.1 (le_antisymm sound.one ?_)
      exact List.length_pos_iff.2 some
    have mem : due ∈ m.session.lanes.sweepsArmed := armed ▸ List.mem_singleton_self due
    obtain ⟨alarm, among, rfl⟩ := List.mem_map.1 mem
    obtain ⟨first, next, le⟩ := Lanes.nextDue?_le tidy.sorted (List.mem_filter.1 among).1
    exact ⟨alarm.due, armed, (settled.later running first next).trans_le le, sound.soon _ mem⟩
  disposed := by
    intro pair marks m' ready mem c stays free elapsed
    obtain ⟨tidy, sound, tended⟩ := h.upkeep
    have running : m.session.loop = .running := sound.up (.inl ready)
    obtain ⟨marks₁, before, ks, after, marks₂, c₁, none, n, some, c₂, rfl, soon⟩ :=
      c.sweep_comes h (.inl ready) stays (sound.awaits (tended running (.inr ready))) elapsed
    simp only [phasesOf_append, List.append_eq_nil_iff] at stays
    simp only [List.mem_append, not_or] at free
    have unswept : Mark.swept ∉ marks₁ := fun mem => by
      simp only [anyHandled, List.any_eq_false] at none
      exact none _ mem rfl
    have same := c₁.unreleased h stays.1.1 unswept (by rw [ready]; decide)
    have line := c₁.later.mem_buried h.occurs.balanced same mem
    have released := n.releases (h.leads ⟨_, c₁⟩) some free.1.2
    exact ⟨marks₁ ++ ks, marks₂, after, c₁.more n, c₂, soon, _, same ▸ released, line⟩
  closed := by
    intro query marks m' accepted c
    have shut : Leads m ⟨(m.session.beginShutdown query).2, m.doing⟩ :=
      (Leads.refl m).code (@Session.Deeds.shutdown .host m.session query)
    have arises := h.leads shut
    obtain ⟨-, sound, -⟩ := (arises.leads ⟨marks, c⟩).upkeep
    have left : (m.session.beginShutdown query).2.phase = .shuttingDown :=
      Session.beginShutdown_phase accepted
    obtain ⟨path, last⟩ := c.path arises
    refine sound.shut ?_
    rw [sound.closed]
    rcases path.onward last with on | ⟨paused, -⟩
    · rw [left] at on
      have dead : ¬ m'.session.phase.isLive = true := fun live => by
        revert on live
        cases m'.session.phase <;> decide
      simpa [Session.upkeep] using dead
    · cases left.symm.trans paused

/-- A session that is ready, where a timer has been cancelled and its pair is in line. -/
theorem tends_sweeps_readied :
    ∃ m : Moment, m.session.phase = .ready ∧ m.session.custody.buried = [⟨1, 2⟩] ∧
      m.TendsSweeps := by
  have scheduled : Leads ⟨Session.readied, .nothing⟩
      ⟨(Session.readied.schedule .handle ⟨1, 2⟩ 5 false).2, .nothing⟩ :=
    (Leads.refl _).code (@Session.Deeds.schedule .host _ .handle ⟨1, 2⟩ 5 false)
  have cancelled := scheduled.code (@Session.Deeds.cancel .host _ .handle 1)
  have readied : Arises ⟨Session.readied, .nothing⟩ := ⟨_, Session.readied_comesAfter⟩
  exact ⟨_, by decide +kernel, by decide +kernel, Arises.tends_sweeps (readied.leads cancelled)⟩

end Moment

namespace Session

/-- With an observer that keeps the lock sweeps are skipped: a pair that has been put in line at the
start is still there when more than an interval has passed, although the session stays ready. -/
theorem sweep_skipped :
    ∃ s t, Reached leaking .loop s ∧ s.phase = .ready ∧ s.clock = 0 ∧
      s.custody.buried = [⟨1, 2⟩] ∧ s.run 50 (s.settings.cleanupInterval + 1) = some t ∧
      t.phase = .ready ∧ t.clock = s.settings.cleanupInterval + 1 ∧ disposals t.log = [] := by
  obtain ⟨s, r, found⟩ := @Fresh.scenario leaking 50
    [.act (.schedule .handle ⟨1, 2⟩ 5 false), .act (.cancel .handle 1)]
    (fun s => decide (s.phase = .ready ∧ s.clock = 0 ∧ s.custody.buried = [⟨1, 2⟩] ∧
      (s.run 50 (s.settings.cleanupInterval + 1)).any fun t => t.phase = .ready ∧
        t.clock = s.settings.cleanupInterval + 1 ∧ disposals t.log = []))
    (earlySteps_fresh _ (plain_fresh _)) (by decide +kernel)
  obtain ⟨ready, start, buried, later⟩ := of_decide_eq_true found
  obtain ⟨t, ran, later⟩ := (Option.any_eq_true _ _).1 later
  obtain ⟨still, clock, none⟩ := of_decide_eq_true later
  exact ⟨s, t, r, ready, start, buried, ran, still, clock, none⟩

end Session
end ScriptHost
