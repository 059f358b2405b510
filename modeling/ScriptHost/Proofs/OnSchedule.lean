import ScriptHost.Proofs.Timekeeping

/-!
# Timers fire on schedule

As long as a session goes on and a timer is not cancelled, the timer fires after its delay, and a
recurring one fires again each time its delay has passed once more. Whatever else happens meanwhile
makes no difference, nor does it matter how the host divides the time.

## Main definitions

* `Moment.KeepsTime` — what is true of a session and its tape as long as the session goes on.
* `Booking.count` — how often a timer is to have fired by some time.

## Main statements

* `Moment.KeepsTime.beat` — one step keeps it.
* `Moment.Taped.keepsTime` — so does a whole tape.
* `Moment.Taped.gone` — a timer that has been cancelled does not come back.
* `Session.run_settled` — where a run ends nothing more is to be done.
* `Moment.Taped.unmissed` — no firing is missed unless code has kept the execution lock.
* `Moment.Taped.on_schedule` — timers fire on schedule.

## Design notes

A timer is followed by its number, from the stroke that says it has been accepted. Where it stands
between two firings says how often it has fired, and the tape says the same.
-/

namespace ScriptHost

namespace Moment

open Session (Ahead Timed)

variable {m m' : Moment} {tape strokes : List Stroke} {s t : Session} {doing : Doing}

/-! ## As time goes on -/

/-- What is true of a session and its tape as long as it goes on. -/
structure KeepsTime (m : Moment) (tape : List Stroke) : Prop where
  timed : m.session.Timed m.doing.fired
  punctual : m.session.Punctual
  below : ∀ stroke ∈ tape, stroke.id < m.session.timers.nextId
  standing : ∀ b, .accepted b ∈ tape → .cancelled b.id ∉ tape →
    ∃ n, b.Standing n m ∧ firingsOf b.id tape = b.times n

/-- A stride that leaves timers alone leaves their firings alone, unless time passes or something
comes due. -/
theorem Stride.calmly {marks : List Mark} (n : Stride m marks m') (calm : Calm m m')
    (timed : m.session.Timed m.doing.fired) (going : m'.session.Going) :
    m'.session.Timed m'.doing.fired ∧ Ahead m.session m'.session ∨
      (∃ s, m = ⟨s, .nothing⟩ ∧ m' = ⟨s.deliverDue, .nothing⟩) ∨
        ∃ s clock, m = ⟨s, .nothing⟩ ∧ m' = ⟨{ s with clock := clock }, .nothing⟩ ∧
          s.clock ≤ clock ∧ s.lanes.next? = none ∧
            ∀ due, s.lanes.nextDue? = some due → clock ≤ due := by
  cases n with
  | code d => exact .inl ⟨d.deeds.timed timed, d.deeds.moved.ahead⟩
  | @took s message lanes running next =>
    have quiet : message.fireId? = none := by
      cases message with
      | fire id => exact absurd rfl (calm.quiet id)
      | _ => rfl
    exact .inl ⟨Armed.take timed next quiet, .taken next⟩
  | @received s call completion lanes running next =>
    exact .inl ⟨Armed.take timed next rfl, (Ahead.taken next).trans (.same rfl rfl)⟩
  | fires => cases calm.fired
  | rearmed => cases calm.fired
  | retired => cases calm.fired
  | @swept s lanes running next =>
    have taken : Timed none { s with lanes } := Armed.take timed next rfl
    refine .inl ⟨taken.swept.armSweep true, (Ahead.taken next).trans ?_⟩
    refine (Session.ahead_engaged_sweep _).trans ?_
    exact ((Session.moved_edits _).armSweep true (.refl _)).ahead
  | @last s query lanes running next closing =>
    obtain ⟨alarms, -, h⟩ := Session.clear_eq { s with lanes }
    rw [h] at going
    cases going.1
  | @released s query =>
    obtain ⟨released, failures, h, -⟩ := s.sweepGraveyard_eq
    dsimp only
    rw [h]
    exact .inl ⟨timed, .same rfl rfl⟩
  | ended => cases going.1
  | @entered s =>
    exact .inl ⟨(Timed.postUrgent timed (m := .ready) rfl).armSweep true, s.moved_enterLoop.ahead⟩
  | abandoned => cases going.1
  | crashed => rcases going.2 with up | up <;> cases up
  | due s => exact .inr (.inl ⟨s, rfl, rfl⟩)
  | passed _ later idle early => exact .inr (.inr ⟨_, _, rfl, rfl, later, idle, early⟩)
  | idled ended => rcases going.2 with up | up <;> cases ended.symm.trans up
  | _ => exact .inl ⟨timed, .same rfl rfl⟩

namespace KeepsTime

/-- What was true before, and what is true of the timers that are new. -/
theorem onward (h : KeepsTime m tape) (timed : m'.session.Timed m'.doing.fired)
    (ahead : Ahead m.session m'.session)
    (numbers : m.session.timers.nextId ≤ m'.session.timers.nextId)
    (below : ∀ stroke ∈ strokes, stroke.id < m'.session.timers.nextId)
    (known : ∀ (b : Booking) n, b.id < m.session.timers.nextId → b.Standing n m →
      .cancelled b.id ∉ strokes →
        ∃ n', b.Standing n' m' ∧ b.times n ++ firingsOf b.id strokes = b.times n')
    (fresh : ∀ b, .accepted b ∈ strokes → m.session.timers.nextId ≤ b.id ∧ b.Standing 0 m' ∧
      firingsOf b.id strokes = []) : KeepsTime m' (tape ++ strokes) where
  timed := timed
  punctual := h.punctual.ahead ahead
  below stroke mem := (List.mem_append.1 mem).elim
    (fun mem => (h.below stroke mem).trans_le numbers) (below stroke)
  standing b accepted kept := by
    simp only [List.mem_append, not_or] at kept
    rcases List.mem_append.1 accepted with accepted | accepted
    · obtain ⟨n, standing, before⟩ := h.standing b accepted kept.1
      obtain ⟨n', standing, after⟩ := known b n (h.below _ accepted) standing kept.2
      exact ⟨n', standing, by rw [firingsOf_append, before, after]⟩
    · obtain ⟨new, standing, none⟩ := fresh b accepted
      refine ⟨0, standing, ?_⟩
      rw [firingsOf_append, none, firingsOf_of_below (fun stroke mem => ?_)]
      · rfl
      · exact (h.below stroke mem).trans_le new

theorem calm {marks : List Mark} (h : KeepsTime m tape) (arises : m.Arises)
    (n : Stride m marks m') (calm : Calm m m') (going : m'.session.Going) :
    KeepsTime m' (tape ++ []) := by
  rcases n.calmly calm h.timed going with ⟨timed, ahead⟩ | ⟨s, rfl, rfl⟩ |
    ⟨s, clock, rfl, rfl, later, idle, early⟩
  · refine h.onward timed ahead (congrArg Timers.nextId calm.timers).ge nofun
      (fun b n _ standing _ => ?_) nofun
    have found := congrArg (·.find? b.id) calm.timers
    exact ⟨n, standing.ahead ahead h.timed timed found (.inl calm.fired), List.append_nil _⟩
  · rw [List.append_nil]
    refine ⟨h.timed.deliverDue, fun a mem => ?_, h.below, fun b accepted kept => ?_⟩
    · exact h.punctual a ((List.dropWhile_sublist _).subset mem)
    · obtain ⟨n, standing, firings⟩ := h.standing b accepted kept
      exact ⟨n, standing.due h.punctual, firings⟩
  · rw [List.append_nil]
    refine ⟨h.timed, fun a mem => ?_, h.below, fun b accepted kept => ?_⟩
    · obtain ⟨first, next, le⟩ := Lanes.nextDue?_le arises.upkeep.1.sorted mem
      exact (early first next).trans le
    · obtain ⟨n, standing, firings⟩ := h.standing b accepted kept
      exact ⟨n, standing.passed later idle, firings⟩

theorem accepted {door : Door} {pair : Pair} {delay id : Nat} {recurring : Bool}
    (h : KeepsTime ⟨s, doing⟩ tape) (given : s.schedule door pair delay recurring = (some id, t)) :
    KeepsTime ⟨t, doing⟩ (tape ++ [.accepted ⟨id, pair, delay, recurring, s.clock⟩]) := by
  obtain ⟨same, timers, -⟩ := Session.accepted_eq given
  have d : Session.Deeds .loop s (s.schedule door pair delay recurring).2 := .schedule ..
  rw [given] at d
  have nextId : t.timers.nextId = s.timers.nextId + 1 := by rw [timers]; rfl
  have timed : t.Timed doing.fired := d.timed h.timed
  refine h.onward timed d.moved.ahead (by simp [nextId]) ?_ (fun b n below standing _ => ?_) ?_
  · simp [Stroke.id, same, nextId]
  · refine ⟨n, standing.ahead d.moved.ahead h.timed timed ?_ (.inl rfl), List.append_nil _⟩
    dsimp only
    rw [timers, Timers.find?_schedule below.ne]
  · intro b mem
    cases List.mem_singleton.1 mem
    exact ⟨same.ge, .accepted given h.timed, rfl⟩

theorem cancelled {door : Door} {id : Nat} (h : KeepsTime ⟨s, doing⟩ tape)
    (gone : s.cancel door id = (true, t)) : KeepsTime ⟨t, doing⟩ (tape ++ [.cancelled id]) := by
  have d : Session.Deeds .loop s (s.cancel door id).2 := .cancel ..
  rw [gone] at d
  have timed : t.Timed doing.fired := d.timed h.timed
  have live := ((s.cancel_eq_true door id).1 (congrArg Prod.fst gone)).2
  have below : id < s.timers.nextId := by
    obtain ⟨timer, mem, same⟩ := List.mem_map.1 (Ledger.mem_ids_of_isLive live)
    exact same ▸ h.timed.below timer mem
  have timers : t.timers = s.timers.remove id := Session.cancelled_timers gone
  refine h.onward timed d.moved.ahead (by rw [timers]; exact le_rfl) ?_
    (fun b n _ standing other => ?_) nofun
  · rw [List.forall_mem_singleton, timers]
    exact below
  · refine ⟨n, standing.ahead d.moved.ahead h.timed timed ?_ (.inl rfl), List.append_nil _⟩
    dsimp only
    rw [timers]
    exact Timers.find?_remove fun same => other (same ▸ List.mem_singleton_self _)

theorem stale {id : Nat} {lanes : Lanes Message} (h : KeepsTime ⟨s, .nothing⟩ tape)
    (next : s.lanes.next? = some (.fire id, lanes)) (gone : s.timers.find? id = none) :
    KeepsTime ⟨{ s with lanes }, .nothing⟩ (tape ++ []) := by
  have absent : id ∉ s.timers.live.map Timer.id := by
    intro mem
    obtain ⟨timer, mem, same⟩ := List.mem_map.1 mem
    simpa [same] using List.find?_eq_none.1 gone timer mem
  have timed : Timed none { s with lanes } := Armed.take_stale h.timed next absent
  exact h.onward timed (.taken next) le_rfl nofun (fun b n _ standing _ =>
    ⟨n, standing.ahead (.taken next) h.timed timed rfl (.inl rfl), List.append_nil _⟩) nofun

/-- The loop comes to a firing of a live timer, whether it is invoked or not. -/
theorem begin {timer : Timer} {lanes : Lanes Message} (h : KeepsTime ⟨s, .nothing⟩ tape)
    (next : s.lanes.next? = some (.fire timer.id, lanes))
    (found : s.timers.find? timer.id = some timer) (timers : t.timers = s.timers.firing timer)
    (lines : t.lanes = lanes) (clock : t.clock = s.clock) (ticket : t.sweepTicket = s.sweepTicket)
    (invoked : Bool) :
    KeepsTime ⟨t, .firing timer⟩ (tape ++ [.fired timer.id timer.pair s.clock invoked]) := by
  obtain ⟨mem, -⟩ := Ledger.find?_mem found
  have timed : t.Timed (some timer) := by
    rw [Timed, timers, lines, ticket]
    exact Armed.begin h.timed next mem
  have ahead : Ahead s t := (Ahead.taken next).trans (.same clock lines)
  have numbers : t.timers.nextId = s.timers.nextId := by rw [timers]; rfl
  refine h.onward timed ahead numbers.ge ?_ (fun b n _ standing _ => ?_) (by simp)
  · simpa [Stroke.id, numbers] using h.timed.below timer mem
  by_cases own : timer.id = b.id
  · obtain ⟨standing, now⟩ := standing.begin h.timed next found own timers clock
    refine ⟨n + 1, standing, ?_⟩
    rw [Booking.times_succ, ← now]
    simp [firingsOf, Stroke.firing?, own]
  · have other : ∀ fired ∈ some timer, fired.id ≠ b.id := by
      rintro _ ⟨⟩
      exact own
    refine ⟨n, standing.ahead ahead h.timed timed ?_ (.inr ⟨by rintro _ ⟨⟩, other⟩), ?_⟩
    · dsimp only
      rw [timers, Timers.find?_firing]
      exact Timers.find?_map_other own
    · simp [firingsOf, Stroke.firing?, own]

theorem rearmed {timer : Timer} (h : KeepsTime ⟨s, .firing timer⟩ tape) (on : s.goesOn timer) :
    KeepsTime ⟨({ s with timers := s.timers.rearmed timer.id s.lanes.nextTicket }.arm timer.delay
      (.fire timer.id)).2, .nothing⟩ (tape ++ []) := by
  have timed : Timed none ({ s with
      timers := s.timers.rearmed timer.id s.lanes.nextTicket }.arm timer.delay
        (.fire timer.id)).2 := by
    simp only [Session.arm, Lanes.arm_of_open on.2.2]
    exact Armed.rearm h.timed (Ledger.mem_ids_of_isLive on.1) _
  have kept : Ahead s { s with timers := s.timers.rearmed timer.id s.lanes.nextTicket } :=
    .same rfl rfl
  have ahead := kept.trans (Session.moved_arm _ timer.delay (m := .fire timer.id) rfl).ahead
  refine h.onward timed ahead le_rfl (List.forall_mem_nil _)
    (fun b n _ standing _ => ⟨n, ?_, List.append_nil _⟩) (by simp)
  by_cases own : timer.id = b.id
  · exact standing.rearm h.timed on own
  · refine standing.ahead ahead h.timed timed ?_ (.inr ⟨?_, by rintro _ ⟨⟩⟩)
    · exact (Timers.find?_rearmed s.timers timer.id s.lanes.nextTicket b.id).trans
        (Timers.find?_map_other own)
    · rintro _ ⟨⟩
      exact own

theorem retired {timer : Timer} (h : KeepsTime ⟨s, .firing timer⟩ tape) (off : ¬ s.goesOn timer)
    (isOpen : s.lanes.closed = false) :
    KeepsTime ⟨{ s with timers := s.timers.retired timer.id }.bury timer.pair, .nothing⟩
      (tape ++ []) := by
  have timed : Timed none ({ s with timers := s.timers.retired timer.id }.bury timer.pair) :=
    Armed.retire h.timed
  have ahead : Ahead s ({ s with timers := s.timers.retired timer.id }.bury timer.pair) :=
    .same rfl rfl
  refine h.onward timed ahead le_rfl nofun
    (fun b n _ standing _ => ⟨n, ?_, List.append_nil _⟩) nofun
  by_cases own : timer.id = b.id
  · exact standing.retire off isOpen own
  · refine standing.ahead ahead h.timed timed ?_ (.inr ⟨?_, nofun⟩)
    · exact Timers.find?_remove own
    · rintro _ ⟨⟩
      exact own

theorem beat (h : KeepsTime m tape) (arises : m.Arises) (n : Beat m strokes m')
    (going : m'.session.Going) : KeepsTime m' (tape ++ strokes) := by
  cases n with
  | calm n calm => exact h.calm arises n calm going
  | accepted given doing => exact h.accepted given
  | cancelled gone doing => exact h.cancelled gone
  | stale running next gone => exact h.stale next gone
  | @fired s timer lanes running next found =>
    exact h.begin (t := ({ s with lanes, timers := s.timers.firing timer } : Session).struck
      timer.pair) next found rfl rfl rfl rfl true
  | @missed s timer lanes running next found =>
    exact h.begin (t := { s with lanes, timers := s.timers.firing timer }) next found rfl rfl rfl
      rfl false
  | rearmed on => exact h.rearmed on
  | retired off =>
    have before := (Beat.retired off).leads.going arises going
    exact h.retired off (arises.lanes_open before)
  | @last s query lanes running next closing =>
    obtain ⟨alarms, -, eq⟩ := Session.clear_eq { s with lanes }
    rw [eq] at going
    cases going.1

end KeepsTime

theorem spawned_keepsTime {origin : Session} (spawned : Session.Spawned origin) :
    KeepsTime ⟨origin, .nothing⟩ [] := by
  obtain ⟨_, _, _, _, _, made⟩ := id spawned
  refine ⟨(Session.Fresh.spawned made).timed, ?_, nofun, nofun⟩
  obtain ⟨settings, locale, program, modules, rfl⟩ := spawned_eq spawned
  nofun

/-- As long as a session goes on its timers keep their time. -/
theorem Taped.keepsTime (h : m.Taped tape) (going : m.session.Going) : KeepsTime m tape := by
  obtain ⟨origin, spawned, c⟩ := h
  induction c with
  | none => exact spawned_keepsTime spawned
  | more c n ih =>
    obtain ⟨marks, told⟩ := c.leads
    have arises : Arises _ := ⟨marks, origin, spawned, told⟩
    exact (ih (n.leads.going arises going)).beat arises n going

/-- A timer that is gone does not come back. -/
theorem Beat.gone (n : Beat m strokes m') {id : Nat} (below : id < m.session.timers.nextId)
    (gone : m.session.timers.find? id = none) : m'.session.timers.find? id = none := by
  have removed : ∀ (timers : Timers) i, timers.find? id = none →
      (timers.remove i).find? id = none := by
    intro timers i gone
    by_cases same : i = id
    · exact same ▸ timers.find?_remove_self i
    · rw [Timers.find?_remove same, gone]
  cases n with
  | calm _ calm => rw [calm.timers, gone]
  | @accepted s t door pair delay i recurring given =>
    obtain ⟨-, timers, -⟩ := Session.accepted_eq given
    dsimp only at gone ⊢
    rw [timers, Timers.find?_schedule below.ne, gone]
  | @cancelled s t door i cancelled =>
    dsimp only
    rw [Session.cancelled_timers cancelled]
    exact removed s.timers i gone
  | stale => exact gone
  | @fired s timer lanes running next found =>
    exact (Timers.find?_firing s.timers timer id).trans (Option.map_eq_none_iff.2 gone)
  | @missed s timer lanes running next found =>
    exact (Timers.find?_firing s.timers timer id).trans (Option.map_eq_none_iff.2 gone)
  | @rearmed s timer =>
    exact (Timers.find?_rearmed s.timers timer.id s.lanes.nextTicket id).trans
      (Option.map_eq_none_iff.2 gone)
  | @retired s timer => exact removed s.timers timer.id gone
  | @last s query lanes running next closing =>
    obtain ⟨alarms, -, eq⟩ := Session.clear_eq { s with lanes }
    dsimp only
    rw [eq]
    rfl

/-- A timer that has been cancelled is gone. -/
theorem Taped.gone (h : m.Taped tape) (going : m.session.Going) {id : Nat}
    (cancelled : .cancelled id ∈ tape) : m.session.timers.find? id = none := by
  obtain ⟨origin, spawned, c⟩ := h
  induction c with
  | none => cases cancelled
  | @more _ _ _ strokes c n ih =>
    obtain ⟨marks, told⟩ := c.leads
    have arises : Arises _ := ⟨marks, origin, spawned, told⟩
    have before := n.leads.going arises going
    rcases List.mem_append.1 cancelled with cancelled | cancelled
    · have keeps := Taped.keepsTime ⟨origin, spawned, c⟩ before
      exact n.gone (keeps.below _ cancelled) (ih before cancelled)
    · cases n with
      | @cancelled s t door i gone =>
        cases List.mem_singleton.1 cancelled
        dsimp only
        rw [Session.cancelled_timers gone]
        exact s.timers.find?_remove_self id
      | _ => simp at cancelled

end Moment

/-! ## When time has run -/

namespace Booking

/-- How often a timer is to have fired by some time. -/
def count (b : Booking) (clock : Nat) : Nat :=
  if b.recurring then (clock - b.since) / b.delay else if b.nth 0 ≤ clock then 1 else 0

namespace Standing

variable {b : Booking} {n : Nat} {m : Moment}

theorem past (h : b.Standing n m) : b.since + n * b.delay ≤ m.session.clock := by
  cases h with
  | armed _ _ _ _ _ past => exact past
  | firing _ _ _ _ now => exact now.ge
  | done _ _ _ once past =>
    rw [once, Nat.one_mul]
    exact past

theorem once (h : b.Standing n m) (single : b.recurring = false) : n ≤ 1 := by
  cases h with
  | armed _ _ _ _ _ _ first => exact (first single).le.trans (Nat.zero_le 1)
  | firing _ _ _ _ _ only => exact (only single).le
  | done _ _ _ once => exact once.le

/-- A timer has not fired later than now. -/
theorem nth_le (h : b.Standing n m) {k : Nat} (before : k < n) : b.nth k ≤ m.session.clock :=
  (Nat.add_le_add_left (Nat.mul_le_mul_right _ before) _).trans h.past

/-- Where nothing is left to be done a timer has fired as often as it was to. -/
theorem count_eq (h : b.Standing n m) (arises : m.Arises)
    (timed : m.session.Timed m.doing.fired) (idle : m.Idle) (running : m.session.loop = .running) :
    n = b.count m.session.clock := by
  obtain ⟨nothing, settled⟩ := idle
  cases h with
  | @armed timer found terms other alarms line past first =>
    obtain ⟨mem, same⟩ := Ledger.find?_mem found
    -- The firing of a live timer is armed, since nothing waits in line.
    have outstanding := timed.live timer mem fun fired fires => same ▸ (other fired fires).symm
    have none := Lanes.ordinary_eq_nil_of_next? (settled.idle running)
    rw [← timed.count_firings, Lanes.firingsInLine, none, same, List.filterMap_nil, List.count_nil,
      Nat.add_zero] at outstanding
    have armed : b.id ∈ m.session.lanes.armedFirings :=
      List.count_pos_iff.1 (outstanding ▸ Nat.zero_lt_one)
    obtain ⟨a, among, fires⟩ := List.mem_filterMap.1 armed
    obtain ⟨next, soonest, le⟩ := Lanes.nextDue?_le arises.upkeep.1.sorted among
    have early : m.session.clock < b.nth n :=
      alarms a among fires ▸ (settled.later running next soonest).trans_le le
    unfold count
    split
    · refine (Nat.div_eq_of_lt_le ?_ ?_).symm
      · omega
      · simp only [nth] at early
        omega
    · next single =>
      have zero := first (by simpa using single)
      subst zero
      rw [if_neg early.not_ge]
  | firing _ _ fires =>
    rw [nothing] at fires
    cases fires
  | done _ _ single once past =>
    rw [count, if_neg (by simp [single]), if_pos (by simpa [nth] using past), once]

end Standing
end Booking

namespace Session

variable {o s t : Session}

/-- Where the loop has run to some time it has nothing more to do. -/
theorem runTo_settled {bound target : Nat} (r : Reached o .loop s)
    (d : s.runTo bound target = some t) (running : t.loop = .running) :
    t.Settled ∧ t.clock = target := by
  induction bound generalizing s with
  | zero => cases d
  | succ bound ih =>
    simp only [runTo, Option.bind_eq_bind, Option.bind_eq_some_iff] at d
    obtain ⟨u, settle, d⟩ := d
    obtain ⟨r, settled, -⟩ := settle_reached r settle
    split at d
    · next ended =>
      cases d
      exact absurd running ended
    next up =>
    have up := Decidable.not_not.1 up
    split at d
    · next due heq =>
      split at d
      · have later := settled.later up due heq
        exact ih (r.passed fun _ => later.le).due d
      · next far =>
        cases d
        exact ⟨⟨settled.idle, fun _ next eq => by simp_all⟩, rfl⟩
    · next none =>
      cases d
      exact ⟨⟨settled.idle, fun _ next eq => by simp_all⟩, rfl⟩

/-- A run lasts as long as it is asked to, and leaves nothing to be done. -/
theorem run_settled {bound ms : Nat} (r : Reached o .loop s) (d : s.run bound ms = some t)
    (running : t.loop = .running) : t.Settled ∧ t.clock = s.clock + ms := by
  unfold run at d
  split at d
  · next ended =>
    cases d
    exact absurd running ended
  simp only [Option.bind_eq_bind, Option.bind_eq_some_iff] at d
  obtain ⟨u, ran, d⟩ := d
  cases d
  split at running
  · next up =>
    rw [if_pos up]
    exact runTo_settled r.due ran up
  · next ended => exact absurd running ended

end Session

namespace Moment

variable {m : Moment} {tape : List Stroke} {b : Booking}

/-- A firing is missed only where code on the loop has been told that it keeps the lock. -/
theorem Taped.unmissed (taped : m.Taped tape)
    (free : ∀ e ∈ m.session.log, e.keepsLock = false) (id : Nat) :
    tape.any (Stroke.isMissed id) = false := by
  obtain ⟨origin, -, c⟩ := taped
  refine List.any_eq_false.2 fun stroke mem missed => ?_
  cases stroke with
  | fired id' pair clock invoked =>
    cases invoked with
    | true => cases missed
    | false =>
      obtain ⟨e, logged, keeps⟩ := c.missed mem
      cases (free e logged).symm.trans keeps
  | _ => cases missed

/-- A timer that has been accepted fires on schedule, as long as it is not cancelled and no shutdown
is accepted: the first time after its delay, and then, if it is recurring, each time after another
delay. It is invoked whenever it fires, but for firings that find the execution lock held, and there
are none of these unless code has kept the lock. Where nothing more is to be done it has fired as
often as it was to. -/
theorem Taped.on_schedule (taped : m.Taped tape) (going : m.session.Going)
    (accepted : .accepted b ∈ tape) (kept : .cancelled b.id ∉ tape) :
    ∃ n, firingsOf b.id tape = b.times n ∧ (b.recurring = false → n ≤ 1) ∧
      (∀ k < n, b.nth k ≤ m.session.clock) ∧
      (tape.any (Stroke.isMissed b.id) = false → callsOf b.id tape = b.times n) ∧
      ((∀ e ∈ m.session.log, e.keepsLock = false) → callsOf b.id tape = b.times n) ∧
      (m.Idle → m.session.loop = .running → n = b.count m.session.clock) := by
  have keeps := taped.keepsTime going
  obtain ⟨n, standing, firings⟩ := keeps.standing b accepted kept
  have called (free : tape.any (Stroke.isMissed b.id) = false) : callsOf b.id tape = b.times n :=
    (callsOf_eq free).trans firings
  exact ⟨n, firings, standing.once, fun k before => standing.nth_le before, called,
    fun free => called (taped.unmissed free b.id),
    fun idle running => standing.count_eq taped.arises keeps.timed idle running⟩

/-- A recurring timer that is due every five has fired twice when twelve are over. -/
theorem on_schedule_twice :
    ∃ (m : Moment) (tape : List Stroke), m.Taped tape ∧ m.session.clock = 12 ∧
      .accepted ⟨1, ⟨1, 2⟩, 5, true, 0⟩ ∈ tape ∧ .cancelled 1 ∉ tape ∧
      firingsOf 1 tape = [(⟨1, 2⟩, 5), (⟨1, 2⟩, 10)] := by
  have fresh := Session.plain_fresh default
  obtain ⟨s, start, found⟩ := (Option.any_eq_true _ _).1 (by decide +kernel :
    ((Session.plain default).start 50).any (fun s => decide (s.clock = 0 ∧
      (s.schedule .handle ⟨1, 2⟩ 5 true).1 = some 1 ∧
      ((s.schedule .handle ⟨1, 2⟩ 5 true).2.runHelpers 50).any fun u => (u.run 50 12).any fun t =>
        u.clock = 0 ∧ t.phase.isLive ∧ t.loop = .running ∧ t.timers.isLive 1)) = true)
  obtain ⟨clock, given, later⟩ := of_decide_eq_true found
  obtain ⟨u, helped, later⟩ := (Option.any_eq_true _ _).1 later
  obtain ⟨t, ran, later⟩ := (Option.any_eq_true _ _).1 later
  obtain ⟨zero, live, running, armed⟩ := of_decide_eq_true later
  -- The session starts, the timer is accepted, and time runs.
  obtain ⟨r, heeds⟩ := Session.start_reached fresh start
  have r : Session.Reached _ .loop u :=
    .helped (r.acted heeds (.schedule .handle ⟨1, 2⟩ 5 true)) helped
  obtain ⟨settled, time⟩ := Session.run_settled r ran running
  obtain ⟨_, begun⟩ := fresh.taped
  obtain ⟨_, started⟩ := fresh.start_tapes start
  have accepted : Beat ⟨s, .nothing⟩ [.accepted ⟨1, ⟨1, 2⟩, 5, true, 0⟩]
      ⟨(s.schedule .handle ⟨1, 2⟩ 5 true).2, .nothing⟩ :=
    clock ▸ .accepted (Prod.ext given rfl) .nothing
  have taped := (begun.trans started).trans ((Tape.none _).more accepted)
  obtain ⟨_, helpers⟩ := Session.runHelpers_tapes taped.arises helped
  have taped := taped.trans helpers
  obtain ⟨_, run⟩ := Session.run_tapes r taped.arises ran
  obtain ⟨tape, taped, mem⟩ : ∃ tape, Taped ⟨t, .nothing⟩ tape ∧
      .accepted ⟨1, ⟨1, 2⟩, 5, true, 0⟩ ∈ tape := ⟨_, taped.trans run, by simp⟩
  have going : t.Going := ⟨live, .inr running⟩
  have kept : .cancelled 1 ∉ tape := fun cancelled => by
    simp [Timers.isLive, taped.gone going cancelled] at armed
  obtain ⟨n, firings, -, -, -, -, rest⟩ := taped.on_schedule going mem kept
  obtain rfl : n = 2 := by
    rw [rest ⟨rfl, settled⟩ running, time, zero]
    rfl
  exact ⟨_, tape, taped, by rw [time, zero], mem, kept, firings⟩

end Moment

namespace Session

/-- With an observer that keeps the lock a timer that has been accepted, and is not cancelled, is
not invoked: nothing has been invoked when its time is over, although the session goes on. -/
theorem fired_for_nothing : ∃ s t, Reached leaking .loop s ∧ s.clock = 0 ∧
    (s.schedule .handle ⟨1, 2⟩ 5 false).1 = some 1 ∧
    (s.schedule .handle ⟨1, 2⟩ 5 false).2.run 50 10 = some t ∧ t.clock = 10 ∧ t.isLive = true ∧
    t.loop = .running ∧ ∀ pair arguments thread, .invoke pair arguments thread ∉ t.log := by
  obtain ⟨s, r, found⟩ := @Fresh.scenario leaking 50 [] (fun s => decide (s.clock = 0 ∧
    (s.schedule .handle ⟨1, 2⟩ 5 false).1 = some 1 ∧
    ((s.schedule .handle ⟨1, 2⟩ 5 false).2.run 50 10).any fun t => t.clock = 10 ∧ t.isLive ∧
      t.loop = .running ∧ t.log.any Entry.isInvoke = false))
    (earlySteps_fresh _ (plain_fresh _)) (by decide +kernel)
  obtain ⟨zero, given, later⟩ := of_decide_eq_true found
  obtain ⟨t, ran, later⟩ := (Option.any_eq_true _ _).1 later
  obtain ⟨clock, live, running, none⟩ := of_decide_eq_true later
  exact ⟨s, t, r, zero, given, ran, clock, live, running, fun _ _ _ mem =>
    List.any_eq_false.1 none _ mem rfl⟩

end Session
end ScriptHost
