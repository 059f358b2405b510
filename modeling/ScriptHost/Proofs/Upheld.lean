import ScriptHost.Proofs.Cancellation
import ScriptHost.Proofs.Discipline
import ScriptHost.Proofs.Upkeep

/-!
# What a session does to its upkeep

Operations either leave the record of a session's upkeep as it is or move it by one step, and so
does every stride. What is to be said about sweeps over a whole chronicle can therefore be said
about the record.

## Main definitions

* `Session.upkeep` — the record of a session.
* `Session.Tidy` — its sweeps and alarms are in order.
* `Session.Still`, `Session.Upheld` — the record stays as it is, or moves.

## Main statements

* `Session.Marked.upheld`, `Moment.Stride.upheld` — code and strides move the record.
* `Moment.Chronicle.upheld` — so does a chronicle.
-/

namespace ScriptHost
namespace Session

variable {s t u : Session}

/-- The record of a session. -/
def upkeep (s : Session) : Upkeep where
  phase := s.phase
  told := s.readiness.ready
  loop := s.loop
  closed := s.lanes.closed
  clock := s.clock
  interval := s.settings.cleanupInterval
  armed := s.lanes.sweepsArmed
  waiting := s.lanes.sweepsInLine
  ending := s.lanes.ordinary.any Message.isLast

/-- Sweeps and alarms of a session are in order. -/
def Tidy (s : Session) : Prop := Tidily s.lanes s.sweepTicket s.timers.live

/-- What is in order stays so, and the record has been moved. -/
def Upheld (s : Session) (marks : List Mark) (t : Session) : Prop :=
  s.Tidy → t.Tidy ∧ Upkeep.Course s.upkeep marks t.upkeep

/-- What is in order stays so, and the record stays as it is. -/
def Still (s t : Session) : Prop := s.Tidy → t.Tidy ∧ t.upkeep = s.upkeep

theorem Upheld.trans {marks marks' : List Mark} (h : Upheld s marks t) (h' : Upheld t marks' u) :
    Upheld s (marks ++ marks') u := fun tidy =>
  have ⟨tidy, course⟩ := h tidy
  have ⟨tidy', course'⟩ := h' tidy
  ⟨tidy', course.trans course'⟩

namespace Still

theorem refl (s : Session) : Still s s := fun tidy => ⟨tidy, rfl⟩

theorem trans (h : Still s t) (h' : Still t u) : Still s u := fun tidy =>
  have ⟨tidy, same⟩ := h tidy
  have ⟨tidy', same'⟩ := h' tidy
  ⟨tidy', same'.trans same⟩

theorem upheld (h : Still s t) : Upheld s [] t := fun tidy =>
  have ⟨tidy, same⟩ := h tidy
  ⟨tidy, same ▸ .none _⟩

/-- Nothing of what matters has been touched. -/
theorem same (upkeep : t.upkeep = s.upkeep) (lanes : t.lanes = s.lanes)
    (ticket : t.sweepTicket = s.sweepTicket) (timers : t.timers.live = s.timers.live) :
    Still s t := by
  intro tidy
  unfold Tidy at tidy ⊢
  rw [lanes, ticket, timers]
  exact ⟨tidy, upkeep⟩

end Still

/-- A step moves the record. -/
theorem Upheld.step {marks : List Mark}
    (h : s.Tidy → t.Tidy ∧ Upkeep.Step s.upkeep marks t.upkeep) : Upheld s marks t := fun tidy =>
  have ⟨tidy, step⟩ := h tidy
  ⟨tidy, step.one⟩

/-! ## Messages -/

theorem still_post (s : Session) {m : Message} (other : m.isSweep = false)
    (early : m.isLast = false) : Still s (s.post m).2 := by
  rcases post_cases s m with eq | ⟨-, eq⟩ <;> rw [eq]
  · exact .refl s
  · intro tidy
    refine ⟨tidy.requeue (.refl _) rfl (fun timer mem _ held => ⟨timer, mem, held⟩) tidy.urgent, ?_⟩
    simp [upkeep, Lanes.sweepsInLine, Lanes.sweepsArmed, other, early]

theorem still_postUrgent (s : Session) {m : Message} (urgent : m.isUrgent = true) :
    Still s (s.postUrgent m).2 := by
  rcases postUrgent_cases s m with eq | ⟨-, eq⟩ <;> rw [eq]
  · exact .refl s
  · refine fun tidy => ⟨tidy.requeue (.refl _) rfl (fun timer mem _ held => ⟨timer, mem, held⟩)
      fun m' mem => ?_, rfl⟩
    rcases List.mem_append.1 mem with mem | mem
    · exact tidy.urgent m' mem
    · exact List.mem_singleton.1 mem ▸ urgent

/-- What is armed under a ticket that goes to a timer or to nobody. -/
theorem still_arm (s : Session) (delay : Nat) {m : Message} (other : m.isSweep = false)
    (early : m.isLast = false) {timers : Timers}
    (live : ∀ timer ∈ timers.live, ∀ k, timer.ticket = some k →
      k = s.lanes.nextTicket ∨ ∃ other ∈ s.timers.live, other.ticket = some k)
    (isOpen : s.lanes.closed = false) :
    Still s { (s.arm delay m).2 with timers := timers } := by
  intro tidy
  simp only [arm, Lanes.arm_of_open isOpen]
  refine ⟨Tidily.arm tidy _ other early live, ?_⟩
  simp only [upkeep, Lanes.sweepsArmed]
  rw [Lanes.filter_insertAlarm_of_not (by exact other)]
  rfl

theorem still_arm_task (s : Session) (delay : Nat) (work : Work) :
    Still s (s.arm delay (.task work)).2 := by
  cases closed : s.lanes.closed with
  | true =>
    simp only [arm, Lanes.arm_of_closed closed]
    exact .refl s
  | false =>
    exact still_arm s delay (m := .task work) rfl rfl
      (fun timer mem _ held => .inr ⟨timer, mem, held⟩) closed

/-! ## Operations that do nothing about sweeps -/

theorem still_buryAll (s : Session) (pairs : List Pair) : Still s (s.buryAll pairs) :=
  .same rfl rfl rfl rfl

theorem still_requests (s : Session) : KeptByRequests (Still s) where
  counted _ h := h.trans (.same rfl rfl rfl rfl)
  held _ h := h.trans (.same rfl rfl rfl rfl)
  errands _ h := h.trans (.same rfl rfl rfl rfl)
  posted _ _ h := h.trans (still_post _ rfl rfl)
  dropped _ h := h.trans (.same rfl rfl rfl rfl)
  transported _ h := h.trans (.same rfl rfl rfl rfl)
  sent _ h := h.trans (.same rfl rfl rfl rfl)
  issued _ h := h.trans (.same rfl rfl rfl rfl)
  registered _ h := h.trans (.same rfl rfl rfl rfl)
  buried pairs h := h.trans (still_buryAll _ pairs)

theorem still_schedule (s : Session) (door : Door) (pair : Pair) (delay : Nat)
    (recurring : Bool) : Still s (s.schedule door pair delay recurring).2 := by
  rcases schedule_cases s door pair delay recurring with h | ⟨t, live, adopted, h⟩ <;> rw [h]
  · exact .refl s
  · have isOpen : t.lanes.closed = false := by
      obtain ⟨-, rfl⟩ := adopt?_eq_some.1 adopted
      exact lanes_open_of_isLive live
    refine ((still_requests s).adopt adopted (.refl s)).trans
      (still_arm t delay rfl rfl (fun timer mem k held => ?_) isOpen)
    rcases List.mem_append.1 mem with mem | mem
    · exact .inr ⟨timer, mem, held⟩
    · rw [List.mem_singleton.1 mem] at held
      exact .inl (Option.some.inj held).symm

theorem still_enqueuing (s : Session) : KeptByEnqueuing (Still s) where
  ticks _ h := h.trans (.same rfl rfl rfl rfl)
  helpers _ h := h.trans (.same rfl rfl rfl rfl)
  accepted _ h := h.trans (.same rfl rfl rfl rfl)
  urged h := h.trans (still_postUrgent _ rfl)

theorem still_listen (s : Session) (door : Door) (event : String) (pair : Pair) :
    Still s (s.listen door event pair).2 := by
  rcases listen_cases s door event pair with h | ⟨t, -, adopted, h⟩ <;> rw [h]
  · exact .refl s
  · exact ((still_requests s).adopt adopted (.refl s)).trans (.same rfl rfl rfl rfl)

/-- What has the ticket of a timer is taken back, and timers leave the table. -/
theorem still_withdraw {timers : Timers} {held : Option Nat}
    (own : held = none ∨ ∃ timer ∈ s.timers.live, timer.ticket = held)
    (live : timers.live ⊆ s.timers.live) : Still s ({ s with timers := timers }.withdraw held) := by
  intro tidy
  obtain ⟨withdrawn, armed⟩ := Tidily.withdraw tidy own
  rw [withdraw_eq]
  refine ⟨withdrawn.requeue (.refl _) rfl (fun timer mem _ ticket => ⟨timer, live mem, ticket⟩)
    tidy.urgent, ?_⟩
  simp only [upkeep]
  rw [armed]
  rfl

/-! ## Sweeps -/

theorem sweepIsArmed_iff (tidy : s.Tidy) : s.sweepIsArmed = true ↔ s.lanes.sweepsArmed ≠ [] := by
  unfold sweepIsArmed
  constructor
  · intro armed
    cases held : s.sweepTicket with
    | none => simp [held] at armed
    | some k =>
      simp only [held, Lanes.isArmed, List.any_eq_true, beq_iff_eq] at armed
      obtain ⟨a, mem, same⟩ := armed
      have sweep := (tidy.sweeps a mem).2 (by rw [held, same])
      have among : a ∈ s.lanes.alarms.filter (·.message.isSweep) := List.mem_filter.2 ⟨mem, sweep⟩
      intro none
      rw [List.map_eq_nil_iff.1 none] at among
      cases among
  · intro some
    obtain ⟨a, among⟩ := List.exists_mem_of_ne_nil _ (mt (congrArg (List.map Alarm.due)) some)
    obtain ⟨mem, sweep⟩ := List.mem_filter.1 among
    rw [(tidy.sweeps a mem).1 sweep]
    simpa [Lanes.isArmed] using ⟨a, mem, rfl⟩

/-- While no sweep is armed, no alarm is one. -/
theorem not_isSweep (unarmed : s.lanes.sweepsArmed = []) :
    ∀ a ∈ s.lanes.alarms, a.message.isSweep = false := by
  intro a mem
  have other := List.filter_eq_nil_iff.1 (List.map_eq_nil_iff.1 unarmed) a mem
  simpa using other

/-- The ticket of the sweep is forgotten while none is armed. -/
theorem still_forget (unarmed : s.lanes.sweepsArmed = []) :
    Still s { s with sweepTicket := none } := by
  refine fun tidy => ⟨{ tidy with sweeps := fun a mem => ?_, known := nofun, timers := ?_ }, rfl⟩
  · simp [not_isSweep unarmed a mem]
  · exact fun timer mem k held => ⟨(tidy.timers timer mem k held).1, nofun⟩

/-- A sweep is armed while none is. -/
theorem armed_sweep (tidy : s.Tidy) (unarmed : s.lanes.sweepsArmed = [])
    (isOpen : s.lanes.closed = false) :
    let t := { (s.arm s.settings.cleanupInterval .sweep).2 with
      sweepTicket := some s.lanes.nextTicket }
    t.Tidy ∧ t.upkeep = s.upkeep.arm := by
  have among : ∀ a ∈ Lanes.insertAlarm
      ⟨s.lanes.nextTicket, s.clock + s.settings.cleanupInterval, .sweep⟩ s.lanes.alarms,
      a = ⟨s.lanes.nextTicket, s.clock + s.settings.cleanupInterval, .sweep⟩ ∨
        a ∈ s.lanes.alarms :=
    fun a mem => List.mem_cons.1 ((Lanes.insertAlarm_perm _ _).mem_iff.1 mem)
  intro t
  constructor
  · simp only [t, arm, Lanes.arm_of_open isOpen]
    refine ⟨Lanes.insertAlarm_sorted tidy.sorted, ?_, fun a mem => ?_, fun a mem => ?_,
      fun k held => ?_, fun timer mem k held => ?_, fun a mem => ?_, tidy.urgent⟩
    · refine ((Lanes.insertAlarm_perm _ _).pairwise_iff Ne.symm).2
        (List.pairwise_cons.2 ⟨fun a mem => ?_, tidy.distinct⟩)
      exact (Nat.ne_of_lt (tidy.below a mem)).symm
    · rcases among a mem with rfl | mem
      · exact Nat.lt_succ_self _
      · exact Nat.lt_succ_of_lt (tidy.below a mem)
    · rcases among a mem with rfl | mem
      · simp [Message.isSweep]
      · have old := tidy.below a mem
        simp only [not_isSweep unarmed a mem, Bool.false_eq_true, Option.some.injEq, false_iff]
        omega
    · exact Option.some.inj held ▸ Nat.lt_succ_self _
    · have old := (tidy.timers timer mem k held).1
      refine ⟨Nat.lt_succ_of_lt old, fun same => ?_⟩
      have := Option.some.inj same
      omega
    · rcases among a mem with rfl | mem
      · rfl
      · exact tidy.early a mem
  · have one : (Lanes.insertAlarm
        ⟨s.lanes.nextTicket, s.clock + s.settings.cleanupInterval, .sweep⟩ s.lanes.alarms).filter
          (·.message.isSweep) =
        [⟨s.lanes.nextTicket, s.clock + s.settings.cleanupInterval, .sweep⟩] := by
      refine List.perm_singleton.1 (((Lanes.insertAlarm_perm _ _).filter _).trans ?_)
      rw [List.filter_cons_of_pos (by rfl), List.map_eq_nil_iff.1 unarmed]
    have due : (s.arm s.settings.cleanupInterval .sweep).2.lanes.sweepsArmed =
        [s.clock + s.settings.cleanupInterval] := by
      simp only [arm, Lanes.arm_of_open isOpen, Lanes.sweepsArmed, one, List.map_cons, List.map_nil]
    have armed : s.upkeep.arm =
        { s.upkeep with armed := [s.clock + s.settings.cleanupInterval] } :=
      if_pos ⟨unarmed, isOpen⟩
    rw [armed, ← due]
    simp only [t, arm, Lanes.arm_of_open isOpen]
    rfl

theorem armSweep_upheld (tidy : s.Tidy) (periodic : Bool) :
    (s.armSweep periodic).Tidy ∧
      (s.armSweep periodic).upkeep = if periodic then s.upkeep.rearm else s.upkeep.arm := by
  have still : s.sweepIsArmed = true → s.upkeep.arm = s.upkeep := fun armed =>
    if_neg fun condition => (sweepIsArmed_iff tidy).1 armed condition.1
  unfold armSweep
  split
  · next armed =>
    refine ⟨tidy, ?_⟩
    unfold Upkeep.rearm
    rw [still armed]
    split <;> simp
  next unarmed =>
  have none : s.lanes.sweepsArmed = [] := by
    by_contra some
    exact unarmed ((sweepIsArmed_iff tidy).2 some)
  split
  · next resting =>
    obtain ⟨rfl, paused⟩ : periodic = true ∧ s.phase = .paused := by simpa using resting
    have kept : s.upkeep.rearm = s.upkeep := if_pos paused
    exact ⟨(still_forget none tidy).1, (still_forget none tidy).2.trans kept.symm⟩
  next going =>
  have same : (if periodic then s.upkeep.rearm else s.upkeep.arm) = s.upkeep.arm := by
    split
    · next periodic =>
      exact if_neg fun paused => going (by simp [periodic, show s.phase = .paused from paused])
    · rfl
  rw [same]
  cases closed : s.lanes.closed with
  | true =>
    simp only [arm, Lanes.arm_of_closed closed]
    refine ⟨(still_forget none tidy).1, (still_forget none tidy).2.trans ?_⟩
    refine (if_neg fun condition => ?_).symm
    cases closed.symm.trans condition.2
  | false =>
    have armed := armed_sweep tidy none closed
    simpa only [arm, Lanes.arm_of_open closed] using armed

/-- The armed sweep is taken back. -/
theorem withdrawSweep_upheld (tidy : s.Tidy) :
    s.withdrawSweep.Tidy ∧ s.withdrawSweep.upkeep = { s.upkeep with armed := [] } := by
  rw [withdrawSweep_eq]
  have gone : ∀ a ∈ s.lanes.alarms.filter (fun a => some a.ticket ≠ s.sweepTicket),
      a.message.isSweep = false := by
    intro a mem
    obtain ⟨mem, other⟩ := List.mem_filter.1 mem
    by_contra sweep
    have held := (tidy.sweeps a mem).1 (by simpa using sweep)
    exact of_decide_eq_true other held.symm
  have none : (s.lanes.alarms.filter fun a => some a.ticket ≠ s.sweepTicket).filter
      (·.message.isSweep) = [] :=
    List.filter_eq_nil_iff.2 fun a mem => by simp [gone a mem]
  constructor
  · refine ⟨tidy.sorted.sublist List.filter_sublist, tidy.distinct.sublist List.filter_sublist,
      fun a mem => tidy.below a (List.mem_filter.1 mem).1, fun a mem => ?_, nofun,
      fun timer mem k held => ⟨(tidy.timers timer mem k held).1, nofun⟩,
      fun a mem => tidy.early a (List.mem_filter.1 mem).1, tidy.urgent⟩
    simp [gone a mem]
  · simp only [upkeep, Lanes.sweepsArmed, none]
    rfl

/-- Something is buried, and a sweep is armed for it. -/
theorem arm_upheld {mark : Mark} (still : Still s t)
    (step : Upkeep.Step s.upkeep [mark] s.upkeep.arm) : Upheld s [mark] (t.armSweep false) :=
  .step fun tidy =>
    have ⟨tidy', same⟩ := still tidy
    have ⟨armed, arm⟩ := armSweep_upheld tidy' false
    ⟨armed, by rw [arm, same]; exact step⟩

/-- A sweep is armed for what a cancelled timer leaves behind. -/
theorem cancel_arms {door : Door} {id : Nat} (accepted : (s.cancel door id).1 = true) :
    ∃ t, Still s t ∧ (s.cancel door id).2 = t.armSweep false := by
  obtain ⟨admitted, live⟩ := (cancel_eq_true s door id).1 accepted
  obtain ⟨timer, found⟩ := Option.isSome_iff_exists.1 live
  obtain ⟨mem, -⟩ := Ledger.find?_mem found
  have withdrawn : Still s ({ s with timers := s.timers.remove id }.withdraw timer.ticket) :=
    still_withdraw (.inr ⟨timer, mem, rfl⟩) (fun _ mem => (List.mem_filter.1 mem).1)
  by_cases running : s.timers.running = some id
  · simp only [cancel, admitted, Timers.cancel, found, running]
    exact ⟨_, withdrawn, rfl⟩
  · simp only [cancel, admitted, Timers.cancel, found, running]
    exact ⟨_, withdrawn.trans (still_buryAll _ [timer.pair]), rfl⟩

theorem cancel_upheld (s : Session) (door : Door) (id : Nat) :
    Upheld s (if (s.cancel door id).1 then [.cancelled] else []) (s.cancel door id).2 := by
  cases accepted : (s.cancel door id).1 with
  | false =>
    rw [cancel_eq_false accepted]
    exact (Still.refl s).upheld
  | true =>
    obtain ⟨t, still, arms⟩ := cancel_arms accepted
    exact arms ▸ arm_upheld still (.cancelled _)

/-- A sweep is armed for the listeners that are removed. -/
theorem unlisten_arms {door : Door} {event : String} (removed : (s.unlisten door event).1 ≠ 0) :
    ∃ t, Still s t ∧ (s.unlisten door event).2 = t.armSweep false := by
  have buried : Still s
      ({ s with listeners := s.listeners.off event }.buryAll (s.listeners.of event)) :=
    .same rfl rfl rfl rfl
  cases admitted : s.admits door with
  | false => simp [unlisten, admitted] at removed
  | true =>
    cases of : s.listeners.of event with
    | nil => simp [unlisten, admitted, of] at removed
    | cons pair rest =>
      simp only [unlisten, admitted, of]
      exact ⟨_, of ▸ buried, rfl⟩

theorem unlisten_upheld (s : Session) (door : Door) (event : String) :
    Upheld s (if (s.unlisten door event).1 = 0 then [] else [.unlistened])
      (s.unlisten door event).2 := by
  split
  · next none =>
    cases admitted : s.admits door with
    | false =>
      simp only [unlisten, admitted]
      exact (Still.refl s).upheld
    | true =>
      have empty : s.listeners.of event = [] := by simpa [unlisten, admitted] using none
      simp only [unlisten, admitted, empty]
      exact (Still.same rfl rfl rfl rfl).upheld
  · next removed =>
    obtain ⟨t, still, arms⟩ := unlisten_arms removed
    exact arms ▸ arm_upheld still (.unlistened _)

theorem pause_upheld (s : Session) :
    Upheld s (if s.pause.1 then [.entered .paused] else []) s.pause.2 := by
  unfold pause
  split
  · next ready =>
    refine .step fun tidy => ?_
    obtain ⟨tidy', withdrawn⟩ := withdrawSweep_upheld (s := { s with phase := .paused }) tidy
    exact ⟨tidy', withdrawn ▸ .paused ready⟩
  · exact (Still.refl s).upheld

theorem unpause_upheld (s : Session) :
    Upheld s (if s.unpause.1 then [.entered .ready] else []) s.unpause.2 := by
  unfold unpause
  split
  · next paused =>
    refine .step fun tidy => ?_
    obtain ⟨tidy', armed⟩ := armSweep_upheld (s := { s with phase := .ready }) tidy true
    exact ⟨tidy', armed ▸ .unpaused paused⟩
  · exact (Still.refl s).upheld

/-- Of a live session the sweep is taken back and the queue is closed, behind the last message if
that is taken. -/
theorem beginShutdown_of_live (live : s.isLive = true) (query : Option Nat) :
    let t := { s with phase := .shuttingDown }.withdrawSweep
    (s.beginShutdown query).2 =
      { t with lanes := { (t.lanes.post (.shutdown query)).2 with closed := true } } := by
  simp [beginShutdown, live, Lanes.postLast, withdrawSweep_eq, lanes_open_of_isLive live]

theorem beginShutdown_upheld (s : Session) (query : Option Nat) :
    Upheld s (if s.isLive then [.entered .shuttingDown] else []) (s.beginShutdown query).2 := by
  cases live : s.isLive with
  | false =>
    have refused : s.beginShutdown query = (false, s) := by simp [beginShutdown, live]
    rw [refused]
    exact (Still.refl s).upheld
  | true =>
    refine .step fun tidy => ?_
    have alive : s.phase.isLive = true := by
      simp only [isLive, Bool.and_eq_true] at live
      exact live.1
    have shut := fun ending => Upkeep.Step.shut (u := s.upkeep) alive
      (lanes_open_of_isLive live) ending
    obtain ⟨tidy', withdrawn⟩ := withdrawSweep_upheld (s := { s with phase := .shuttingDown }) tidy
    rw [beginShutdown_of_live live]
    generalize withdrawSweep _ = t at tidy' withdrawn
    have closed : ∀ l : Lanes Message, l.alarms = t.lanes.alarms → l.urgent = t.lanes.urgent →
        l.nextTicket = t.lanes.nextTicket → l.closed = true →
        l.sweepsInLine = t.lanes.sweepsInLine → ({ t with lanes := l } : Session).Tidy ∧
          s.upkeep.Step [.entered .shuttingDown] ({ t with lanes := l } : Session).upkeep := by
      intro l alarms urgent next closed line
      refine ⟨tidy'.requeue (alarms ▸ .refl _) next (fun timer mem _ held => ⟨timer, mem, held⟩)
        (urgent ▸ tidy'.urgent), ?_⟩
      have armed : l.sweepsArmed = t.lanes.sweepsArmed := by simp [Lanes.sweepsArmed, alarms]
      have moved : ({ t with lanes := l } : Session).upkeep =
          { t.upkeep with closed := true, ending := l.ordinary.any Message.isLast } := by
        simp only [upkeep, closed, line, armed]
      rw [moved, withdrawn]
      exact shut _
    cases accepts : t.lanes.accepts with
    | true =>
      rw [Lanes.post_of_accepts accepts]
      refine closed _ rfl rfl rfl rfl ?_
      simp [Lanes.sweepsInLine, Message.isSweep]
    | false =>
      rw [Lanes.post_of_not_accepts accepts]
      exact closed _ rfl rfl rfl rfl rfl

/-! ## Code -/

theorem still_aside (h : Aside s t) : Still s t := by
  obtain ⟨readiness, _, _, _, _, _, _, -, told, rfl⟩ := h
  exact .same (by simp only [upkeep, told]) rfl rfl rfl

theorem post_upheld (s : Session) {m : Message} (plain : m.isPlain = true) :
    Upheld s (if m.isSweep && (s.post m).1 then [.asked] else []) (s.post m).2 := by
  have early : m.isLast = false := by cases m <;> first | rfl | cases plain
  cases sweep : m.isSweep with
  | false => exact (still_post s sweep early).upheld
  | true =>
    cases accepts : s.lanes.accepts with
    | true =>
      simp only [post, Lanes.post_of_accepts accepts]
      refine .step fun tidy => ⟨tidy.requeue (.refl _) rfl
        (fun timer mem _ held => ⟨timer, mem, held⟩) tidy.urgent, ?_⟩
      have step := Upkeep.Step.asked s.upkeep
      simpa [upkeep, Lanes.sweepsInLine, Lanes.sweepsArmed, sweep, early] using step
    | false =>
      simp only [post, Lanes.post_of_not_accepts accepts]
      exact (Still.refl s).upheld

/-- Code moves the record as its marks tell. -/
theorem Marked.upheld {thread : Thread} {marks : List Mark} (d : Marked thread s marks t) :
    Upheld s marks t := by
  induction d with
  | none s => exact (Still.refl s).upheld
  | trans _ _ ih ih' => exact ih.trans ih'
  | aside h => exact (still_aside h).upheld
  | post s plain => exact post_upheld s plain
  | arm s delay work => exact (still_arm_task s delay work).upheld
  | schedule s door pair delay recurring =>
    exact (still_schedule s door pair delay recurring).upheld
  | cancel s door id => exact cancel_upheld s door id
  | enqueue s door noThreads job =>
    exact ((still_enqueuing s).enqueue door thread noThreads job (.refl s)).upheld
  | issue s door noThreads order =>
    exact ((still_requests s).issue door noThreads order (.refl s)).upheld
  | release s key => exact ((still_requests s).release key (.refl s)).upheld
  | listen s door event pair => exact (still_listen s door event pair).upheld
  | unlisten s door event => exact unlisten_upheld s door event
  | pause s => exact pause_upheld s
  | unpause s => exact unpause_upheld s
  | shutdown s query => exact beginShutdown_upheld s query
  | guarded take _ ih =>
    obtain ⟨-, -, rfl⟩ := takeLock_eq_ok.1 take
    intro tidy
    exact ih tidy
  | leak take =>
    obtain ⟨-, -, rfl⟩ := takeLock_eq_ok.1 take
    exact (Still.same rfl rfl rfl rfl).upheld
  | called s callback before => exact (Still.same rfl rfl rfl rfl).upheld

/-! ## The owning thread -/

/-- The queue has been changed, and its alarms have not. -/
theorem still_lanes {lanes : Lanes Message} (alarms : lanes.alarms = s.lanes.alarms)
    (next : lanes.nextTicket = s.lanes.nextTicket) (closed : lanes.closed = s.lanes.closed)
    (line : lanes.sweepsInLine = s.lanes.sweepsInLine)
    (ending : lanes.ordinary.any Message.isLast = s.lanes.ordinary.any Message.isLast)
    (urgent : lanes.urgent ⊆ s.lanes.urgent) : Still s { s with lanes := lanes } := fun tidy =>
  ⟨tidy.requeue (alarms ▸ .refl _) next (fun timer mem _ held => ⟨timer, mem, held⟩)
    fun m mem => tidy.urgent m (urgent mem),
    by simp only [upkeep, closed, line, ending, Lanes.sweepsArmed, alarms]⟩

/-- The loop takes a message that is neither a sweep nor the last one. -/
theorem still_taken {m : Message} {lanes : Lanes Message}
    (next : s.lanes.next? = some (m, lanes)) (other : m.isSweep = false)
    (early : m.isLast = false) : Still s { s with lanes := lanes } := by
  rcases Lanes.next?_cases next with ⟨urgent, first, rfl⟩ | ⟨-, ordinary, first, rfl⟩
  · exact still_lanes rfl rfl rfl rfl rfl (first ▸ List.subset_cons_self m urgent)
  · refine still_lanes rfl rfl rfl ?_ ?_ (List.Subset.refl _)
    · simp [Lanes.sweepsInLine, first, other]
    · simp [first, early]

/-- What is not urgent has been taken from the ordinary lane. -/
theorem taken_ordinary {m : Message} {lanes : Lanes Message} (tidy : s.Tidy)
    (next : s.lanes.next? = some (m, lanes)) (patient : m.isUrgent = false) :
    ∃ ordinary, s.lanes.ordinary = m :: ordinary ∧
      lanes = { s.lanes with ordinary := ordinary } := by
  refine (Lanes.next?_turn next fun mem => ?_).2
  cases patient.symm.trans (tidy.urgent m mem)

theorem still_sweepGraveyard (s : Session) : Still s s.sweepGraveyard.2 := by
  obtain ⟨released, failures, h, -⟩ := sweepGraveyard_eq s
  rw [h]
  exact .same rfl rfl rfl rfl

/-- A sweep is skipped if the loop holds the lock itself. Otherwise it releases what is in line, as
far as it is live, and changes nothing else. -/
theorem swept_cases (s : Session) :
    let t := s.engaged fun s => s.sweepGraveyard.2
    s.lock ≠ .free ∧ t = s ∨ s.lock = .free ∧ ∃ released failures, t = { s with
        custody := ⟨s.custody.live.diff released, [], failures⟩
        log := (released.map Entry.dispose).reverse ++ s.log
        journal := .swept s.custody.buried :: s.journal } ∧
      (s.custody.buried.Nodup → s.custody.buried ⊆ s.custody.live →
        released = s.custody.buried) := by
  intro t
  by_cases free : s.lock = .free
  · obtain ⟨released, failures, h, all⟩ := sweepGraveyard_eq { s with lock := ⟨some .loop⟩ }
    refine .inr ⟨free, released, failures, ?_, all⟩
    simp only [t, engaged_free free, h, unlock, Lock.release]
    rw [← free]
  · exact .inl ⟨free, engaged_held free _⟩

theorem afterSweep_upheld {lanes : Lanes Message} (running : s.loop = .running)
    (next : s.lanes.next? = some (.sweep, lanes)) {mark : Mark} (handled : mark.isHandled = true) :
    Upheld s [mark] ({ s with lanes } : Session).afterSweep := by
  refine .step fun tidy => ?_
  obtain ⟨ordinary, first, rfl⟩ := taken_ordinary tidy next rfl
  have taken : ({ s with lanes.ordinary := ordinary } : Session).Tidy :=
    tidy.requeue (.refl _) rfl (fun timer mem _ held => ⟨timer, mem, held⟩) tidy.urgent
  have line : ({ s with lanes.ordinary := ordinary } : Session).upkeep =
      { s.upkeep with waiting := ordinary.countP Message.isSweep } := by
    simp [upkeep, Lanes.sweepsInLine, Lanes.sweepsArmed, first, Message.isLast]
  have waiting : s.upkeep.waiting = ordinary.countP Message.isSweep + 1 := by
    simp only [upkeep, Lanes.sweepsInLine, first]
    exact List.countP_cons_of_pos rfl
  generalize ({ s with lanes.ordinary := ordinary } : Session) = t at taken line
  have released : Still t (t.engaged fun s => s.sweepGraveyard.2) := by
    rcases swept_cases t with ⟨-, h⟩ | ⟨-, released, failures, h, -⟩ <;> rw [h]
    · exact .refl t
    · exact .same rfl rfl rfl rfl
  obtain ⟨tidy', same⟩ := released taken
  obtain ⟨armed, rearm⟩ := armSweep_upheld tidy' true
  refine ⟨armed, ?_⟩
  have step := Upkeep.Step.handled (u := s.upkeep) running waiting handled
  rw [← line, ← same] at step
  exact rearm ▸ step

theorem deliverDue_upheld (s : Session) : Upheld s [] s.deliverDue := by
  refine .step fun tidy => ?_
  obtain ⟨taken, left⟩ := Lanes.dropWhile_due tidy.sorted s.clock
  refine ⟨tidy.requeue (List.dropWhile_sublist _) rfl
    (fun timer mem _ held => ⟨timer, mem, held⟩) tidy.urgent, ?_⟩
  -- The last message is never armed, so it does not become due.
  have early : ((s.lanes.alarms.filter (·.due ≤ s.clock)).map (·.message)).any Message.isLast =
      false := by
    rw [List.any_eq_false]
    intro m mem
    obtain ⟨a, among, rfl⟩ := List.mem_map.1 mem
    simpa using tidy.early a (List.mem_filter.1 among).1
  have line : s.deliverDue.upkeep = { s.upkeep with
      armed := s.upkeep.armed.filter (s.clock < ·)
      waiting := s.upkeep.waiting + (s.upkeep.armed.filter (· ≤ s.clock)).length } := by
    simp only [upkeep, deliverDue, Lanes.deliverDue, Lanes.sweepsArmed, Lanes.sweepsInLine, taken,
      left, List.any_append, early, Bool.or_false, List.countP_eq_length_filter,
      List.filter_append, List.length_append, List.filter_map, List.filter_filter, List.length_map,
      Function.comp_def, Bool.and_comm]
  exact line ▸ .due s.upkeep

/-- Timers have been changed, and none has a new ticket. -/
theorem still_timers {timers : Timers}
    (live : ∀ timer ∈ timers.live, ∀ k, timer.ticket = some k →
      ∃ other ∈ s.timers.live, other.ticket = some k) : Still s { s with timers := timers } :=
  fun tidy => ⟨tidy.requeue (.refl _) rfl live tidy.urgent, rfl⟩

theorem still_firing (s : Session) (timer : Timer) :
    Still s { s with timers := s.timers.firing timer } := by
  refine still_timers fun other mem k held => ?_
  obtain ⟨before, known, rfl⟩ := List.mem_map.1 mem
  split at held
  · cases held
  · exact ⟨before, known, held⟩

theorem still_rearmed (s : Session) (timer : Timer) (isOpen : s.lanes.closed = false) :
    Still s ({ s with timers := s.timers.rearmed timer.id s.lanes.nextTicket }.arm timer.delay
      (.fire timer.id)).2 := by
  refine still_arm s timer.delay (m := .fire timer.id) rfl rfl (fun other mem k held => ?_) isOpen
  obtain ⟨before, known, rfl⟩ := List.mem_map.1 mem
  split at held
  · exact .inl (Option.some.inj held).symm
  · exact .inr ⟨before, known, held⟩

theorem still_retired (s : Session) (timer : Timer) :
    Still s ({ s with timers := s.timers.retired timer.id }.bury timer.pair) := by
  refine Still.trans (still_timers fun other mem k held => ?_) (still_buryAll _ [timer.pair])
  exact ⟨other, (List.mem_filter.1 mem).1, held⟩

/-- What timers have armed is taken back. -/
theorem withdrawAll_tidy {live : List Timer} (timers : List Timer) (own : timers ⊆ live)
    (tidy : Tidily s.lanes s.sweepTicket live) :
    let t := timers.foldl (fun s timer => s.withdraw timer.ticket) s
    Tidily t.lanes t.sweepTicket live ∧ t.upkeep = s.upkeep := by
  induction timers generalizing s with
  | nil => exact ⟨tidy, rfl⟩
  | cons timer rest ih =>
    obtain ⟨mem, own⟩ := List.cons_subset.1 own
    obtain ⟨withdrawn, armed⟩ := tidy.withdraw (.inr ⟨timer, mem, rfl⟩)
    have first := withdraw_eq s timer.ticket
    obtain ⟨rest, same⟩ := ih (s := s.withdraw timer.ticket) own (by rw [first]; exact withdrawn)
    refine ⟨rest, same.trans ?_⟩
    rw [first]
    simp only [upkeep]
    rw [armed]
    rfl

theorem clear_tidy (tidy : s.Tidy) :
    s.clear.Tidy ∧ s.clear.upkeep = { s.upkeep with phase := .shuttingDown } := by
  obtain ⟨left, same⟩ := withdrawAll_tidy (s := { s with
    phase := .shuttingDown
    timers := s.timers.clear.2 }) s.timers.clear.1 (fun _ mem => (List.mem_filter.1 mem).1) tidy
  have none : s.clear.timers.live = [] := by
    obtain ⟨_, -, h⟩ := clear_eq s
    rw [h]
    rfl
  exact ⟨left.requeue (.refl _) rfl (fun timer mem => by simp [none] at mem) left.urgent, same⟩

theorem last_upheld {query : Option Nat} {lanes : Lanes Message}
    (next : s.lanes.next? = some (.shutdown query, lanes)) (closing : s.phase = .shuttingDown) :
    Upheld s [] ({ s with lanes } : Session).clear := by
  refine .step fun tidy => ?_
  obtain ⟨ordinary, first, rfl⟩ := taken_ordinary tidy next rfl
  have taken : ({ s with lanes.ordinary := ordinary } : Session).Tidy :=
    tidy.requeue (.refl _) rfl (fun timer mem _ held => ⟨timer, mem, held⟩) tidy.urgent
  obtain ⟨cleared, same⟩ := clear_tidy taken
  refine ⟨cleared, ?_⟩
  have line : ({ s with lanes.ordinary := ordinary } : Session).upkeep =
      { s.upkeep with ending := ordinary.any Message.isLast } := by
    simp [upkeep, Lanes.sweepsInLine, Lanes.sweepsArmed, first, Message.isSweep]
  have shut : s.upkeep.phase = .shuttingDown := closing
  rw [same, line, ← shut]
  exact .last _ fun _ => by simp [upkeep, first, Message.isLast]

theorem desert_tidy (tidy : s.Tidy) {lanes : Lanes Message}
    (next : lanes.nextTicket = s.lanes.nextTicket) :
    ({ s with lanes := lanes.desert } : Session).Tidy :=
  tidy.requeue (List.nil_sublist _) next (fun timer mem _ held => ⟨timer, mem, held⟩) nofun

theorem enterLoop_upheld (starting : s.loop = .starting) : Upheld s [] s.enterLoop := by
  refine .step fun tidy => ?_
  obtain ⟨posted, same⟩ := still_postUrgent s (m := .ready) rfl tidy
  obtain ⟨armed, rearm⟩ := armSweep_upheld posted true
  refine ⟨armed, ?_⟩
  have step := Upkeep.Step.entered (u := s.upkeep) starting
  have entered : s.enterLoop.upkeep =
      { ((s.postUrgent .ready).2.armSweep true).upkeep with loop := .running } := rfl
  rw [entered, rearm, if_pos rfl, same]
  exact step

end Session

namespace Moment

open Session (Tidy Upheld)

variable {m m' : Moment} {marks : List Mark}

/-- A stride moves the record as its marks tell. -/
theorem Stride.upheld (n : Stride m marks m') : Upheld m.session marks m'.session := by
  cases n with
  | code d => exact d.upheld
  | locked => exact (Session.Still.same rfl rfl rfl rfl).upheld
  | ticks => exact (Session.Still.same rfl rfl rfl rfl).upheld
  | helpers => exact (Session.Still.same rfl rfl rfl rfl).upheld
  | begun => exact (Session.Still.same rfl rfl rfl rfl).upheld
  | @announced s running initializing =>
    have told : s.readiness.announce.2.ready = true := by
      unfold Readiness.announce
      split
      · assumption
      · rfl
    refine .step fun tidy => ⟨tidy, ?_⟩
    have step := Upkeep.Step.announced (u := s.upkeep) running initializing
    rwa [← told] at step
  | took _ next _ another early => exact (Session.still_taken next another early).upheld
  | received _ next =>
    exact ((Session.still_taken next rfl rfl).trans (.same rfl rfl rfl rfl)).upheld
  | @fires s timer => exact (Session.still_firing s timer).upheld
  | @rearmed s timer _ _ isOpen => exact (Session.still_rearmed s timer isOpen).upheld
  | retired s timer => exact (Session.still_retired s timer).upheld
  | delivered => exact (Session.Still.same rfl rfl rfl rfl).upheld
  | done => exact (Session.Still.refl _).upheld
  | @swept s lanes running next =>
    exact Session.afterSweep_upheld running next (by split <;> rfl)
  | last _ next closing => exact Session.last_upheld next closing
  | lastSweep => exact (Session.Still.same rfl rfl rfl rfl).upheld
  | released => exact (Session.still_sweepGraveyard _).upheld
  | ended _ _ closing =>
    exact .step fun tidy => ⟨Session.desert_tidy tidy rfl, .ended closing⟩
  | dropped => exact (Session.Still.same rfl rfl rfl rfl).upheld
  | entered starting => exact Session.enterLoop_upheld starting
  | abandoned starting =>
    exact .step fun tidy => ⟨Session.desert_tidy tidy rfl, .abandoned starting⟩
  | crashed starting =>
    exact .step fun tidy => ⟨Session.desert_tidy tidy rfl, .crashed starting⟩
  | due s => exact Session.deliverDue_upheld s
  | @passed s clock running later idle early =>
    refine .step fun tidy => ⟨tidy, .passed running later ?_ fun due mem => ?_⟩
    · simp [Session.upkeep, Lanes.sweepsInLine, Lanes.ordinary_eq_nil_of_next? idle]
    · obtain ⟨a, among, rfl⟩ := List.mem_map.1 mem
      obtain ⟨first, next, le⟩ := Lanes.nextDue?_le tidy.sorted (List.mem_filter.1 among).1
      exact (early first next).trans le
  | idled ended => exact .step fun tidy => ⟨tidy, .idled ended⟩

/-- A chronicle moves the record as its marks tell. -/
theorem Chronicle.upheld (c : Chronicle m marks m') : Upheld m.session marks m'.session := by
  induction c with
  | none => exact (Session.Still.refl _).upheld
  | more _ n ih => exact ih.trans n.upheld

end Moment
end ScriptHost
