import ScriptHost.Proofs.Moments

/-!
# The discipline of the queue

Whatever a session goes through, its queue is served in order. The ordinary lane is handled in the
order in which messages have joined it, each message once, and nothing of it is handled while an
urgent message waits. Armed messages join it when they are due, in the order of their time, unless
they have been withdrawn. The last message is accepted once and closes the queue; everything that
was posted before is handled before it, and nothing behind it is handled at all.

## Main definitions

* `Moment.Unfinished`, `Moment.Concluded` — the queue before and after the last message is taken.
* `Discipline` — how what has happened to a queue agrees with the session at that time.

## Main statements

* `Moment.Next.standing` — what happens next keeps to the discipline.
* `Session.Reached.queue_discipline` — so does the course of a session whose loop is entered.
-/

namespace ScriptHost

namespace Lanes

variable {μ : Type} {h k : History μ} {clock : Nat} {l l' : Lanes μ}

theorem ordinary_eq_nil_of_next? (none : l.next? = none) : l.ordinary = [] := by
  cases heq : l.ordinary with
  | nil => rfl
  | cons m rest => simp [next?, urgent_eq_nil_of_next? none, heq] at none

theorem empty_after (clock : Nat) : (empty : Lanes μ).After [] clock where
  inLine := ⟨[], [], rfl, .nil, fun _ => rfl⟩
  urgently :=
    { waits := fun _ => rfl
      first := by
        intro earlier clock m heeded
        simp at heeded }
  inTime := ⟨.nil, .nil, nofun, nofun, nofun, .nil, nofun⟩
  lastly := ⟨nofun, .nil⟩

/-- Behind the last message only what has been armed before joins the ordinary lane. -/
theorem Lastly.behind (a : l.Lastly h) :
    h.joined.Pairwise fun x y => x.isLast = true → y.alarm?.isSome = true := by
  refine List.pairwise_flatMap.2
    ⟨fun e _ => ?_, a.quiet.imp fun {e e'} quiet x mem y mem' last => ?_⟩
  · cases e with
    | due alarms =>
      refine List.pairwise_map.2 (List.pairwise_of_forall fun a b last => ?_)
      cases last
    | posted m => exact List.pairwise_singleton ..
    | last m => exact List.pairwise_singleton ..
    | _ => exact .nil
  · have lastly : e.isLast = true := by
      cases e with
      | last m => rfl
      | posted m =>
        obtain rfl := List.mem_singleton.1 mem
        cases last
      | due alarms =>
        obtain ⟨a, -, rfl⟩ := List.mem_map.1 mem
        cases last
      | _ => cases mem
    have quiet := quiet lastly
    cases e' with
    | due alarms =>
      obtain ⟨a, -, rfl⟩ := List.mem_map.1 mem'
      rfl
    | posted m => cases quiet
    | last m => cases quiet
    | _ => cases mem'

/-- Changes to a queue take nothing from it. -/
theorem Changes.taken (c : Changes clock l k l') : k.handled = [] ∧ k.attended = [] := by
  induction c with
  | none => exact ⟨rfl, rfl⟩
  | more _ c ih =>
    rw [History.handled_append, History.attended_append, ih.1, ih.2]
    cases c <;> exact ⟨rfl, rfl⟩

/-- A closed queue stays closed and accepts nothing, whatever the time is. -/
theorem Changes.of_closed (c : Changes clock l k l') (closed : l.closed = true) (clock' : Nat) :
    l'.closed = true ∧ k.urged = [] ∧ k.joined = [] ∧ Changes clock' l k l' := by
  induction c with
  | none => exact ⟨closed, rfl, rfl, .none _⟩
  | more _ c ih =>
    obtain ⟨closed, urged, joined, d⟩ := ih
    rw [History.urged_append, History.joined_append, urged, joined]
    cases c with
    | posted posted => cases closed.symm.trans (post_eq_true posted).1
    | urged posted => cases closed.symm.trans (postUrgent_eq_true posted).1
    | armed _ armed => cases closed.symm.trans (arm_eq_some armed).1
    | withdrawn armed => exact ⟨closed, rfl, rfl, d.more (.withdrawn armed)⟩
    | last posted => cases closed.symm.trans (postLast_eq_true posted).1
    | closed isOpen => cases closed.symm.trans isOpen
    | deserted => exact ⟨closed, rfl, rfl, d.more (.deserted _)⟩

end Lanes

namespace History

variable {h : History Message}

/-- A message comes to the ordinary lane by being posted, by coming due, or as the last one. -/
theorem joined_cases {x : Arrival Message} (mem : x ∈ h.joined) :
    (∃ m, x = .posted m ∧ Happening.posted m ∈ h) ∨ (∃ a ∈ h.delayed, x = .delayed a) ∨
      ∃ m, x = .last m ∧ Happening.last m ∈ h := by
  obtain ⟨e, source, arrived⟩ := List.mem_flatMap.1 mem
  cases e with
  | posted m => exact .inl ⟨m, List.mem_singleton.1 arrived, source⟩
  | last m => exact .inr (.inr ⟨m, List.mem_singleton.1 arrived, source⟩)
  | due alarms =>
    obtain ⟨a, -, rfl⟩ := List.mem_map.1 arrived
    exact .inr (.inl ⟨a, List.mem_filterMap.2 ⟨_, mem, rfl⟩, rfl⟩)
  | _ => cases arrived

theorem urged_mem {m : Message} (mem : m ∈ h.urged) : Happening.urged m ∈ h := by
  obtain ⟨e, source, heq⟩ := List.mem_filterMap.1 mem
  cases e with
  | urged m' =>
    obtain rfl : m' = m := Option.some.inj heq
    exact source
  | _ => cases heq

theorem armed_mem {a : Alarm Message} (mem : a ∈ h.armed) : Happening.armed a ∈ h := by
  obtain ⟨e, source, heq⟩ := List.mem_filterMap.1 mem
  cases e with
  | armed a' =>
    obtain rfl : a' = a := Option.some.inj heq
    exact source
  | _ => cases heq

end History

theorem Session.Spawned.lanes {s : Session} (spawned : s.Spawned) : s.lanes = .empty := by
  obtain ⟨_, _, _, _, _, made⟩ := spawned
  rw [Session.spawn_eq_ok made]
  rfl

namespace Moment

open Session (Changed)

variable {h k : History Message} {m m' : Moment} {s t : Session}

/-- The loop has not taken the last message. -/
structure Unfinished (h : History Message) (s : Session) : Prop where
  after : s.lanes.After h s.clock
  taken : s.lanes.deserted = false
  handled : ∀ x ∈ h.handled, x.2.isLast = false

/-- The loop has taken the last message, as the last one. -/
structure Concluded (h : History Message) (s : Session) : Prop where
  closed : s.lanes.closed = true
  after : ∃ clock, s.lanes.After h clock
  handled : ∃ earlier clock m, h.handled = earlier ++ [(clock, m)] ∧ m.isLast = true
  urgent : h.urged = h.attended

/-- What has happened to the queue agrees with what the loop is doing. -/
structure Standing (h : History Message) (m : Moment) : Prop where
  proper : ∀ e ∈ h, e.isProper = true
  before : m.session.loop = .starting ∨ m.session.loop = .running → m.doing.isLast = false →
    Unfinished h m.session
  after : m.doing.isLast = true → m.session.lanes.deserted = false ∧ Concluded h m.session

/-- Only the last message is the last one to join the lane. -/
theorem last_of_joined {l : Lanes Message} {clock : Nat} (after : l.After h clock)
    (proper : ∀ e ∈ h, e.isProper = true) {x : Arrival Message} (mem : x ∈ h.joined)
    (last : x.message.isLast = true) : ∃ m, x = .last m ∧ Happening.last m ∈ h := by
  rcases History.joined_cases mem with ⟨m, rfl, source⟩ | ⟨a, source, rfl⟩ | found
  · have proper : (m.isPlain || m.call?.isSome) = true := proper _ source
    cases m with
    | shutdown query => cases proper
    | _ => cases last
  · have armed := after.inTime.armed _ (List.mem_append_left _ source)
    have proper : a.message.isTimely = true := proper _ (History.armed_mem armed)
    have last : a.message.isLast = true := last
    cases heq : a.message with
    | shutdown query =>
      rw [heq] at proper
      cases proper
    | _ =>
      rw [heq] at last
      cases last
  · exact found

/-- How what is done at a moment bears on the loop. -/
theorem Act.loop_cases (a : Act m m') :
    (m'.session.loop = m.session.loop ∧
        m'.session.lanes.deserted = m.session.lanes.deserted ∧ m'.doing.isLast = m.doing.isLast) ∨
      m.doing.isLast = true ∧ m'.session.loop = .ended ∧ m'.doing.isLast = false ∨
      m.session.loop = .starting ∧ m.doing.isLast = false ∧ m'.doing.isLast = false ∧
        (m'.session.loop = .running ∧
            m'.session.lanes.deserted = m.session.lanes.deserted ∨
          m'.session.loop = .ended ∨ m'.session.loop = .crashed) := by
  cases a with
  | code d => exact .inl ⟨d.loop, congrArg Stage.deserted d.fixed_eq, rfl⟩
  | rearmed => exact .inl ⟨rfl, Lanes.arm_deserted .., rfl⟩
  | swept s =>
    obtain ⟨_, _, h, -⟩ := s.sweepGraveyard_eq
    rw [h]
    exact .inl ⟨rfl, rfl, rfl⟩
  | sweepArmed s =>
    have stage := s.stage_armSweep true
    exact .inl ⟨congrArg Stage.loop stage, congrArg Stage.deserted stage, rfl⟩
  | @done s m other => exact .inl ⟨rfl, rfl, other.symm⟩
  | cleared s =>
    have scene := s.clear_scene
    exact .inl ⟨congrArg Stage.loop scene, congrArg Stage.deserted scene, rfl⟩
  | ended => exact .inr (.inl ⟨rfl, rfl, rfl⟩)
  | @entered s starting =>
    have posted : (s.postUrgent .ready).2.lanes.deserted = s.lanes.deserted := by
      simp only [Session.postUrgent, Lanes.postUrgent]
      split <;> rfl
    have armed := congrArg Stage.deserted ((s.postUrgent .ready).2.stage_armSweep true)
    exact .inr (.inr ⟨starting, rfl, rfl, .inl ⟨rfl, armed.trans posted⟩⟩)
  | abandoned starting => exact .inr (.inr ⟨starting, rfl, rfl, .inr (.inl rfl)⟩)
  | crashed starting => exact .inr (.inr ⟨starting, rfl, rfl, .inr (.inr rfl)⟩)
  | _ => exact .inl ⟨rfl, rfl, rfl⟩

theorem Unfinished.changed (u : Unfinished h s) (c : Changed s k t)
    (deserted : t.lanes.deserted = s.lanes.deserted) : Unfinished (h ++ k) t where
  after := c.clock ▸ u.after.changes c.lanes
  taken := deserted.trans u.taken
  handled x mem := by
    rw [History.handled_append, c.lanes.taken.1, List.append_nil] at mem
    exact u.handled x mem

theorem Concluded.changed (u : Concluded h s) (c : Changed s k t) : Concluded (h ++ k) t := by
  obtain ⟨clock, after⟩ := u.after
  obtain ⟨closed, urged, -, changes⟩ := c.lanes.of_closed u.closed clock
  obtain ⟨handled, attended⟩ := c.lanes.taken
  refine ⟨closed, ⟨clock, after.changes changes⟩, ?_, ?_⟩
  · rw [History.handled_append, handled, List.append_nil]
    exact u.handled
  · rw [History.urged_append, History.attended_append, urged, attended, u.urgent]

/-- The loop takes a message; if it is the last one, everything urgent has been attended to. -/
theorem Unfinished.took (u : Unfinished h s) (proper : ∀ e ∈ h, e.isProper = true)
    {msg : Message} {lanes : Lanes Message} (next : s.lanes.next? = some (msg, lanes)) :
    (msg.isLast = false → Unfinished (h ++ [s.lanes.taking s.clock msg]) { s with lanes }) ∧
      (msg.isLast = true → lanes.deserted = false ∧
        Concluded (h ++ [s.lanes.taking s.clock msg]) { s with lanes }) := by
  have after := u.after.taken u.taken next
  rcases Lanes.next?_cases next with ⟨urgent, heq, rfl⟩ | ⟨none, ordinary, heq, rfl⟩
  · have taking : s.lanes.taking s.clock msg = .attended msg := by simp [Lanes.taking, heq]
    rw [taking] at after ⊢
    refine ⟨fun _ => ⟨after, u.taken, fun x mem => ?_⟩, fun last => ?_⟩
    · rw [History.handled_append, show History.handled [.attended msg] = [] from rfl,
        List.append_nil] at mem
      exact u.handled x mem
    · -- The last message does not go to the urgent lane.
      have waits := u.after.urgently.waits u.taken
      have mem : msg ∈ h.urged := by
        rw [waits, heq]
        exact List.mem_append_right _ (List.mem_cons_self ..)
      have urgent : msg.isUrgent = true := proper _ (History.urged_mem mem)
      cases msg with
      | shutdown query => cases urgent
      | _ => cases last
  · have taking : s.lanes.taking s.clock msg = .handled s.clock msg := by
      simp [Lanes.taking, none]
    rw [taking] at after ⊢
    have handled : (h ++ [.handled s.clock msg] : History Message).handled =
        h.handled ++ [(s.clock, msg)] := History.handled_append ..
    refine ⟨fun other => ⟨after, u.taken, fun x mem => ?_⟩, fun last => ⟨u.taken, ?_⟩⟩
    · rw [handled] at mem
      rcases List.mem_append.1 mem with mem | mem
      · exact u.handled x mem
      · rw [List.mem_singleton.1 mem]
        exact other
    · -- The message has joined the lane as the last one, which has closed the queue.
      obtain ⟨front, back, joined, -, waits⟩ := u.after.inLine
      have waits := waits u.taken
      rw [heq] at waits
      obtain ⟨x, back, rfl, rfl, rfl⟩ := List.map_eq_cons_iff.1 waits.symm
      have mem : x ∈ h.joined := by
        rw [joined]
        exact List.mem_append_right _ (List.mem_cons_self ..)
      obtain ⟨m, rfl, source⟩ := last_of_joined u.after proper mem last
      refine ⟨?_, ⟨s.clock, after⟩, ⟨h.handled, s.clock, m, handled, last⟩, ?_⟩
      · show s.lanes.closed = true
        by_contra isOpen
        cases u.after.lastly.isOpen (by simpa using isOpen) _ source
      · have waits := u.after.urgently.waits u.taken
        rw [none, List.append_nil] at waits
        rw [History.urged_append, History.attended_append, waits]
        rfl

/-- When the loop is gone and the last message is not being handled, there is nothing to keep. -/
theorem Standing.down (proper : ∀ e ∈ h, e.isProper = true)
    (loop : m.session.loop = .ended ∨ m.session.loop = .crashed) (idle : m.doing.isLast = false) :
    Standing h m where
  proper := proper
  before up _ := by
    rcases loop with down | down <;> rcases up with up | up <;> cases down.symm.trans up
  after busy := by cases idle.symm.trans busy

theorem taken_proper (proper : ∀ e ∈ h, e.isProper = true) {msg : Message} :
    ∀ e ∈ h ++ [s.lanes.taking s.clock msg], e.isProper = true := by
  intro e mem
  rcases List.mem_append.1 mem with mem | mem
  · exact proper e mem
  · rw [List.mem_singleton.1 mem, Lanes.taking]
    split <;> rfl

/-- What happens next keeps to the discipline. -/
theorem Next.standing (n : Next m k m') (g : Standing h m) : Standing (h ++ k) m' := by
  cases n with
  | act a c =>
    have proper : ∀ e ∈ h ++ k, e.isProper = true :=
      fun e mem => (List.mem_append.1 mem).elim (g.proper e) (c.proper e)
    rcases a.loop_cases with ⟨loop, deserted, last⟩ | ⟨last, loop, idle⟩ |
      ⟨starting, idle, idle', ⟨loop, deserted⟩ | loop⟩
    · refine ⟨proper, fun up other => ?_, fun busy => ?_⟩
      · exact (g.before (loop ▸ up) (last ▸ other)).changed c deserted
      · obtain ⟨taken, concluded⟩ := g.after (last ▸ busy)
        exact ⟨deserted.trans taken, concluded.changed c⟩
    · exact .down proper (.inl loop) idle
    · refine ⟨proper, fun up other => ?_, fun busy => ?_⟩
      · exact (g.before (.inl starting) idle).changed c deserted
      · cases idle'.symm.trans busy
    · exact .down proper loop idle'
  | @took s msg lanes running next other =>
    obtain ⟨before, after⟩ := (g.before (.inr running) rfl).took g.proper next
    exact ⟨taken_proper g.proper, fun _ => before, after⟩
  | @received s call completion lanes running next =>
    obtain ⟨before, -⟩ := (g.before (.inr running) rfl).took g.proper next
    have u := before rfl
    exact ⟨taken_proper g.proper, fun _ _ => ⟨u.after, u.taken, u.handled⟩,
      fun busy => absurd busy Bool.false_ne_true⟩
  | due s =>
    refine ⟨fun e mem => ?_, fun up _ => ?_, fun busy => absurd busy Bool.false_ne_true⟩
    · rcases List.mem_append.1 mem with mem | mem
      · exact g.proper e mem
      · rw [List.mem_singleton.1 mem]
        rfl
    · have u := g.before up rfl
      refine ⟨u.after.due le_rfl, u.taken, fun x mem => ?_⟩
      have none : (h ++ [.due (s.lanes.alarms.takeWhile (·.due ≤ s.clock))] :
          History Message).handled = h.handled := by simp [History.handled, Happening.handled?]
      exact u.handled x (none ▸ mem)
  | @passed s clock later =>
    rw [List.append_nil]
    refine ⟨g.proper, fun up _ => ?_, fun busy => absurd busy Bool.false_ne_true⟩
    have u := g.before up rfl
    exact ⟨u.after.passed (later up), u.taken, u.handled⟩

theorem Course.standing (c : Course m k m') (g : Standing h m) : Standing (h ++ k) m' := by
  induction c with
  | none => simpa using g
  | more _ n ih =>
    rw [← List.append_assoc]
    exact n.standing ih

/-- The loop has been entered; if it has ended, it has handled the last message. -/
structure Entered (h : History Message) (m : Moment) : Prop where
  standing : Standing h m
  loop : m.session.loop = .running ∨ m.session.loop = .ended
  ended : m.session.loop = .ended → m.doing.isLast = false ∧ Concluded h m.session

/-- Behind the end of the loop, what comes due is lost. -/
theorem Concluded.due (u : Concluded h s) :
    Concluded (h ++ [.due (s.lanes.alarms.takeWhile (·.due ≤ s.clock))]) s.deliverDue := by
  obtain ⟨clock, after⟩ := u.after
  have due := (after.passed (Nat.le_max_left clock s.clock)).due (Nat.le_max_right clock s.clock)
  refine ⟨u.closed, ⟨_, due⟩, ?_, ?_⟩
  · rw [History.handled_append, show History.handled [.due _] = [] from rfl, List.append_nil]
    exact u.handled
  · rw [History.urged_append, History.attended_append, u.urgent]
    rfl

theorem Next.entered (n : Next m k m') (g : Entered h m) : Entered (h ++ k) m' := by
  have standing := n.standing g.standing
  cases n with
  | act a c =>
    rcases a.loop_cases with ⟨loop, -, last⟩ | ⟨last, loop, idle⟩ | ⟨starting, -⟩
    · refine ⟨standing, loop ▸ g.loop, fun ended => ?_⟩
      obtain ⟨idle, u⟩ := g.ended (loop.symm.trans ended)
      exact ⟨last.trans idle, u.changed c⟩
    · have concluded := (g.standing.after last).2
      exact ⟨standing, .inr loop, fun _ => ⟨idle, concluded.changed c⟩⟩
    · rcases g.loop with up | up <;> cases starting.symm.trans up
  | took running =>
    exact ⟨standing, .inl running, fun ended => by cases Eq.trans running.symm ended⟩
  | received running =>
    exact ⟨standing, .inl running, fun ended => by cases Eq.trans running.symm ended⟩
  | due s =>
    refine ⟨standing, g.loop, fun ended => ?_⟩
    exact ⟨(g.ended ended).1, (g.ended ended).2.due⟩
  | passed later =>
    refine ⟨standing, g.loop, fun ended => ?_⟩
    obtain ⟨idle, u⟩ := g.ended ended
    rw [List.append_nil]
    exact ⟨idle, u.closed, u.after, u.handled, u.urgent⟩

theorem Course.entered (c : Course m k m') (g : Entered h m) : Entered (h ++ k) m' := by
  induction c with
  | none => simpa using g
  | more _ n ih =>
    rw [← List.append_assoc]
    exact n.entered ih

/-- What may have happened to the queue of a session, from the time when it was made, if its loop
has been entered. -/
def Past (h : History Message) (m : Moment) : Prop :=
  ∃ origin between early late, Session.Spawned origin ∧ h = early ++ late ∧
    Course ⟨origin, .nothing⟩ early between ∧ between.session.loop = .running ∧
    Course between late m

theorem Past.entered (past : Past h m) : Entered h m := by
  obtain ⟨origin, between, early, late, spawned, rfl, before, running, after⟩ := past
  have start : Standing [] ⟨origin, .nothing⟩ :=
    { proper := nofun
      before := fun _ _ => ⟨spawned.lanes ▸ Lanes.empty_after _, by rw [spawned.lanes]; rfl, nofun⟩
      after := nofun }
  refine after.entered ⟨before.standing start, .inl running, fun ended => ?_⟩
  cases running.symm.trans ended

end Moment

open Moment (Past)

/-- How what has happened to the queue of a session agrees with the discipline. -/
structure Discipline (h : History Message) (s : Session) : Prop where
  /-- The ordinary lane is handled in the order in which messages have joined it, each message once
  and none before its time, and what has not been handled waits. -/
  inOrder : ∃ front back, h.joined = front ++ back ∧
    List.Forall₂ Arrival.HandledAt front h.handled ∧
    (s.loop = .running → s.lanes.ordinary = back.map Arrival.message)
  /-- While the loop has nothing to do, nothing waits. -/
  idle : s.loop = .running → s.lanes.next? = none →
    List.Forall₂ Arrival.HandledAt h.joined h.handled ∧ h.urged = h.attended
  /-- When the loop has ended, it has handled everything up to the last message; only messages that
  were armed for a later time have come behind that one. -/
  ended : s.loop = .ended → ∃ front m back, h.joined = front ++ .last m :: back ∧
    List.Forall₂ Arrival.HandledAt (front ++ [.last m]) h.handled ∧
    (∀ x ∈ back, x.alarm?.isSome = true) ∧ h.urged = h.attended
  /-- Whenever an ordinary message is taken, every urgent one has been taken before. -/
  urgentFirst : ∀ earlier clock m, earlier ++ [.handled clock m] <+: h →
    History.urged earlier = History.attended earlier
  /-- Armed messages join the ordinary lane by their time and the order of their arming. -/
  inTime : h.delayed.Pairwise Alarm.Before
  armed : h.delayed ⊆ h.armed
  numbered : h.armed.Pairwise fun a b => a.ticket ≠ b.ticket
  /-- What was withdrawn while it was armed never joins the lane. -/
  withdrawn : ∀ a ∈ h.delayed, a.ticket ∉ h.withdrawn
  /-- Behind the last message nothing is accepted, so there is one last message at most. -/
  lastly : h.Pairwise fun e e' => e.isLast = true → e'.isAccepted = false

namespace Moment

variable {h : History Message} {m : Moment}

theorem Entered.after (g : Entered h m) :
    (∃ clock, m.session.lanes.After h clock) ∧
      (m.session.loop = .running → m.session.lanes.deserted = false) := by
  cases busy : m.doing.isLast with
  | true =>
    obtain ⟨taken, u⟩ := g.standing.after busy
    exact ⟨u.after, fun _ => taken⟩
  | false =>
    rcases g.loop with running | ended
    · have u := g.standing.before (.inr running) busy
      exact ⟨⟨_, u.after⟩, fun _ => u.taken⟩
    · exact ⟨(g.ended ended).2.after, fun running => by cases running.symm.trans ended⟩

/-- The last message has been handled, and what has come behind it had been armed before. -/
theorem Concluded.ended {s : Session} (u : Concluded h s) (proper : ∀ e ∈ h, e.isProper = true) :
    ∃ front m back, h.joined = front ++ .last m :: back ∧
      List.Forall₂ Arrival.HandledAt (front ++ [.last m]) h.handled ∧
      ∀ x ∈ back, x.alarm?.isSome = true := by
  obtain ⟨clock, after⟩ := u.after
  obtain ⟨front, back, joined, handledAt, -⟩ := after.inLine
  obtain ⟨earlier, clock, m, handled, last⟩ := u.handled
  rw [handled] at handledAt ⊢
  -- The message that has been handled last is the last one to have come to the front.
  have ahead := List.forall₂_take_append _ _ _ handledAt
  have same := List.forall₂_drop_append _ _ _ handledAt
  have split := List.take_append_drop earlier.length front
  generalize front.take earlier.length = ahead' at ahead split
  generalize front.drop earlier.length = rest at same split
  obtain ⟨x, rest, matched, none, rfl⟩ := List.forall₂_cons_right_iff.1 same
  obtain rfl := List.forall₂_nil_right_iff.1 none
  have mem : x ∈ h.joined := by simp [joined, ← split]
  have isLast : x.message.isLast = true := matched.1 ▸ last
  obtain ⟨m', rfl, -⟩ := last_of_joined after proper mem isLast
  have whole : h.joined = ahead' ++ .last m' :: back := by simp [joined, ← split]
  refine ⟨ahead', m', back, whole, List.rel_append ahead (.cons matched .nil), fun y mem => ?_⟩
  have behind := after.lastly.behind
  rw [whole] at behind
  exact (List.pairwise_cons.1 (List.pairwise_append.1 behind).2.1).1 y mem rfl

theorem Entered.discipline (g : Entered h m) : Discipline h m.session := by
  obtain ⟨⟨clock, after⟩, taken⟩ := g.after
  obtain ⟨front, back, joined, handledAt, waits⟩ := after.inLine
  refine
    { inOrder := ⟨front, back, joined, handledAt, fun running => waits (taken running)⟩
      idle := fun running none => ⟨?_, ?_⟩
      ended := fun ended => ?_
      urgentFirst := after.urgently.first
      inTime := (List.pairwise_append.1 after.inTime.sorted).1
      armed := fun a mem => after.inTime.armed a (List.mem_append_left _ mem)
      numbered := after.inTime.numbered
      withdrawn := fun a mem gone => ?_
      lastly := after.lastly.quiet }
  · have waits := waits (taken running)
    rw [Lanes.ordinary_eq_nil_of_next? none] at waits
    rwa [joined, List.map_eq_nil_iff.1 waits.symm, List.append_nil]
  · have waits := after.urgently.waits (taken running)
    rwa [Lanes.urgent_eq_nil_of_next? none, List.append_nil] at waits
  · have concluded := (g.ended ended).2
    obtain ⟨front, m, back, joined, handledAt, armed⟩ := concluded.ended g.standing.proper
    exact ⟨front, m, back, joined, handledAt, armed, concluded.urgent⟩
  · exact (after.inTime.withdrawn a.ticket gone).2 a (List.mem_append_left _ mem) rfl

end Moment

namespace Session

variable {o s : Session}

theorem Reached.past {turn : Turn} (p : Fresh o) (up : o.bringUp.loop = .running)
    (r : Reached o turn s) : ∃ h, Past h ⟨s, .nothing⟩ := by
  obtain ⟨origin, spawned, early, before⟩ := p.later
  obtain ⟨start, started⟩ := p.bringUp_later
  obtain ⟨late, after⟩ := r.later p
  exact ⟨(early ++ start) ++ late, origin, ⟨o.bringUp, .nothing⟩, early ++ start, late, spawned,
    rfl,
    before.trans started, up, after⟩

/-- The queue of a session whose loop has been entered is served with discipline. Between any two
messages there is a history of the queue, and in any such history the ordinary lane has been
handled in the order in which messages have joined it, each message once; nothing waits when the
loop has nothing to do, and when it has ended everything has been handled up to the last message.
No ordinary message has been handled while an urgent one was waiting. Armed messages have joined the
lane and have been handled by their time and the order of their arming, none before its time and
none that had been withdrawn before. There has been one last message at most, and nothing has been
accepted behind it. -/
theorem Reached.queue_discipline {turn : Turn} (p : Fresh o) (up : o.bringUp.loop = .running)
    (r : Reached o turn s) :
    (∃ h, Past h ⟨s, .nothing⟩) ∧ ∀ h, Past h ⟨s, .nothing⟩ → Discipline h s :=
  ⟨r.past p up, fun _ past => past.entered.discipline⟩

/-- An engine that arms a message, posts one and enqueues a job while it is brought up. -/
def queueing : Program :=
  starting [.post "later" 5 [], .post "now" 0 [], .tick .handle false "job" []]

/-- Once the session has been shut down, all that has been handled, and the last message behind it.
-/
theorem queue_discipline_queueing :
    ∃ s h, s.loop = .ended ∧ s.clock = 10 ∧ Past h ⟨s, .nothing⟩ ∧ Discipline h s := by
  have up : (plain queueing).bringUp.loop = .running := by decide +kernel
  obtain ⟨s, r, found⟩ := @Fresh.scenario (plain queueing) 50 [.run 10, .act .shutdown]
    (fun s => decide (s.loop = .ended ∧ s.clock = 10)) (plain_fresh _) (by decide +kernel)
  obtain ⟨ended, clock⟩ := of_decide_eq_true found
  obtain ⟨⟨h, past⟩, discipline⟩ := Reached.queue_discipline (plain_fresh queueing) up r
  exact ⟨s, h, ended, clock, past, discipline h past⟩

end Session
end ScriptHost
