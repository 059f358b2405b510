import ScriptHost.Proofs.Sweeping

/-!
# Where a timer stands

A timer that has been accepted is armed for the time of its next firing, or that time has come, or
it is firing; a one-shot timer that has fired is done. What becomes of one timer leaves the others
where they stand.

## Main definitions

* `Upkeep.Going` — no shutdown has been accepted, and the loop is there or about to be entered.
* `Session.Ahead` — how the queue goes on while nothing comes due.
* `Booking.times` — when a timer is to fire.
* `firingsOf`, `callsOf` — the firings of a timer on a tape, and its invocations.
* `Booking.Standing` — where a timer stands that has fired so many times.

## Main statements

* `Moment.Leads.going` — a session that goes on has gone on before.
* `Session.Moved.ahead` — nothing that code does puts a firing in line, or arms one for the past.
* `Booking.Standing.ahead` — a timer stays where it stands as long as its entry does.
* `Booking.Standing.accepted`, `Booking.Standing.begin`, `Booking.Standing.rearm`,
  `Booking.Standing.retire` — how it goes from one firing to the next.
-/

namespace ScriptHost

/-! ## As long as a session goes on -/

namespace Upkeep

variable {u u' : Upkeep} {marks : List Mark}

/-- No shutdown has been accepted, and the loop is there or is about to be entered. -/
def Going (u : Upkeep) : Prop := u.phase.isLive = true ∧ (u.loop = .starting ∨ u.loop = .running)

theorem Step.going (n : Step u marks u') (h : u'.Going) : u.Going := by
  obtain ⟨live, there⟩ := h
  cases n with
  | asked => exact ⟨live, there⟩
  | cancelled | unlistened =>
    rw [arm_eq] at live there
    exact ⟨live, there⟩
  | paused ready => exact ⟨by rw [ready]; rfl, there⟩
  | unpaused paused =>
    rw [arm_eq] at there
    exact ⟨by rw [paused]; rfl, there⟩
  | shut => cases live
  | announced running initializing => exact ⟨by rw [initializing]; rfl, .inr running⟩
  | handled running =>
    rw [rearm_eq] at live
    exact ⟨live, .inr running⟩
  | last => exact ⟨live, there⟩
  | ended => cases live
  | entered starting =>
    rw [rearm_eq] at live
    exact ⟨live, .inl starting⟩
  | abandoned => cases live
  | crashed => simp at there
  | due => exact ⟨live, there⟩
  | passed => exact ⟨live, there⟩
  | idled => exact ⟨live, there⟩

theorem Course.going (c : Course u marks u') (h : u'.Going) : u.Going := by
  induction c with
  | none => exact h
  | more _ n ih => exact ih (n.going h)

end Upkeep

/-- No shutdown has been accepted, and the loop is there or is about to be entered. -/
def Session.Going (s : Session) : Prop := s.upkeep.Going

namespace Moment

variable {m m' : Moment}

theorem Leads.going (l : Leads m m') (h : m.Arises) (going : m'.session.Going) :
    m.session.Going := by
  obtain ⟨_, c⟩ := l
  exact (c.upheld h.upkeep.1).2.going going

theorem Arises.lanes_open (h : m.Arises) (going : m.session.Going) :
    m.session.lanes.closed = false := by
  have closed : m.session.upkeep.closed = !m.session.upkeep.phase.isLive := h.upkeep.2.1.closed
  rwa [going.1] at closed

end Moment

/-! ## How the queue goes on -/

theorem Lanes.firingsInLine_subset (l : Lanes Message) : l.firingsInLine ⊆ l.firings := by
  intro id waits
  obtain ⟨message, mem, fires⟩ := List.mem_filterMap.1 waits
  exact List.mem_filterMap.2 ⟨message, by simp [Lanes.messages, mem], fires⟩

theorem Lanes.Change.ahead {clock : Nat} {l l' : Lanes Message} {e : Happening Message}
    (c : Lanes.Change clock l e l') (proper : e.isProper = true) :
    l'.firingsInLine ⊆ l.firingsInLine ∧
      (∀ a ∈ l'.alarms, a ∈ l.alarms ∨ l.nextTicket ≤ a.ticket ∧ clock ≤ a.due) ∧
      l.nextTicket ≤ l'.nextTicket := by
  have joined : ∀ m : Message, m.fireId? = none →
      ({ l with ordinary := l.ordinary ++ [m] } : Lanes Message).firingsInLine ⊆
        l.firingsInLine := by
    intro m quiet
    simp [Lanes.firingsInLine, quiet]
  cases c with
  | @posted _ m h =>
    obtain ⟨-, -, rfl⟩ := Lanes.post_eq_true h
    refine ⟨joined m ?_, fun a mem => .inl mem, le_rfl⟩
    cases m <;> first | rfl | cases proper
  | urged h =>
    obtain ⟨-, -, rfl⟩ := Lanes.postUrgent_eq_true h
    exact ⟨List.Subset.refl _, fun a mem => .inl mem, le_rfl⟩
  | armed later h =>
    obtain ⟨-, rfl, rfl⟩ := Lanes.arm_eq_some h
    refine ⟨List.Subset.refl _, fun a mem => ?_, Nat.le_succ _⟩
    rcases Armed.mem_alarms mem with rfl | mem
    · exact .inr ⟨le_rfl, later⟩
    · exact .inl mem
  | withdrawn =>
    exact ⟨List.Subset.refl _, fun a mem => .inl (List.filter_subset_self _ mem), le_rfl⟩
  | @last _ m h =>
    obtain ⟨-, -, rfl⟩ := Lanes.postLast_eq_true h
    refine ⟨joined m ?_, fun a mem => .inl mem, le_rfl⟩
    cases m <;> first | rfl | cases proper
  | closed isOpen h =>
    obtain ⟨-, rfl⟩ := Lanes.postLast_eq_false isOpen h
    exact ⟨List.Subset.refl _, fun a mem => .inl mem, le_rfl⟩
  | deserted => exact ⟨List.nil_subset _, List.forall_mem_nil _, le_rfl⟩

namespace Session

variable {s t u : Session}

/-- No firing has joined the line, and what has been armed since has a new ticket and is not for a
time that is over. -/
structure Ahead (s t : Session) : Prop where
  clock : t.clock = s.clock
  line : t.lanes.firingsInLine ⊆ s.lanes.firingsInLine
  alarms : ∀ a ∈ t.lanes.alarms,
    a ∈ s.lanes.alarms ∨ s.lanes.nextTicket ≤ a.ticket ∧ s.clock ≤ a.due
  tickets : s.lanes.nextTicket ≤ t.lanes.nextTicket

namespace Ahead

theorem refl (s : Session) : Ahead s s := ⟨rfl, List.Subset.refl _, fun _ mem => .inl mem, le_rfl⟩

theorem trans (h : Ahead s t) (h' : Ahead t u) : Ahead s u where
  clock := h'.clock.trans h.clock
  line := List.Subset.trans h'.line h.line
  alarms a mem := by
    rcases h'.alarms a mem with mem | ⟨new, due⟩
    · exact h.alarms a mem
    · exact .inr ⟨h.tickets.trans new, h.clock ▸ due⟩
  tickets := h.tickets.trans h'.tickets

theorem same (clock : t.clock = s.clock) (lanes : t.lanes = s.lanes) : Ahead s t where
  clock := clock
  line := by rw [lanes]; exact List.Subset.refl _
  alarms a mem := .inl (lanes ▸ mem)
  tickets := by rw [lanes]

/-- The loop takes a message. -/
theorem taken {m : Message} {lanes : Lanes Message} (next : s.lanes.next? = some (m, lanes)) :
    Ahead s { s with lanes } := by
  obtain ⟨alarms, tickets, -⟩ := Armed.next_keeps next
  refine ⟨rfl, ?_, fun a mem => .inl (alarms ▸ mem), tickets.ge⟩
  rcases Lanes.next?_cases next with ⟨urgent, -, rfl⟩ | ⟨-, ordinary, heq, rfl⟩
  · exact List.Subset.refl _
  · simp only [Lanes.firingsInLine, heq]
    exact ((List.sublist_cons_self m ordinary).filterMap _).subset

end Ahead

theorem Moved.ahead (h : Moved s t) : Ahead s t := by
  obtain ⟨k, clock, lanes, proper⟩ := h
  suffices steps : t.lanes.firingsInLine ⊆ s.lanes.firingsInLine ∧
      (∀ a ∈ t.lanes.alarms,
        a ∈ s.lanes.alarms ∨ s.lanes.nextTicket ≤ a.ticket ∧ s.clock ≤ a.due) ∧
      s.lanes.nextTicket ≤ t.lanes.nextTicket from ⟨clock, steps.1, steps.2.1, steps.2.2⟩
  generalize s.lanes = l, t.lanes = l' at lanes
  induction lanes with
  | none => exact ⟨List.Subset.refl _, fun a mem => .inl mem, le_rfl⟩
  | more _ c ih =>
    obtain ⟨line, alarms, tickets⟩ := ih fun e mem => proper e (List.mem_append_left _ mem)
    obtain ⟨line', alarms', tickets'⟩ :=
      Lanes.Change.ahead c (proper _ (List.mem_append_right _ (List.mem_singleton_self _)))
    refine ⟨List.Subset.trans line' line, fun a mem => ?_, tickets.trans tickets'⟩
    rcases alarms' a mem with mem | ⟨new, due⟩
    · exact alarms a mem
    · exact .inr ⟨tickets.trans new, due⟩

theorem ahead_sweepGraveyard (s : Session) : Ahead s s.sweepGraveyard.2 := by
  obtain ⟨released, failures, h, -⟩ := s.sweepGraveyard_eq
  rw [h]
  exact .same rfl rfl

theorem ahead_engaged_sweep (s : Session) :
    Ahead s (s.engaged fun s => s.sweepGraveyard.2) := by
  unfold engaged
  split
  · have swept := ahead_sweepGraveyard { s with lock := ⟨some .loop⟩ }
    exact ⟨swept.clock, swept.line, swept.alarms, swept.tickets⟩
  · exact .refl s

/-- No alarm is for a time that is over. -/
def Punctual (s : Session) : Prop := ∀ a ∈ s.lanes.alarms, s.clock ≤ a.due

theorem Punctual.ahead (h : s.Punctual) (ahead : Ahead s t) : t.Punctual := by
  intro a mem
  rw [ahead.clock]
  rcases ahead.alarms a mem with mem | ⟨-, due⟩
  · exact h a mem
  · exact due

end Session

/-! ## The table of timers -/

namespace Timers

variable {t : Timers} {id i : Nat} {timer : Timer}

theorem find?_update (f : Timer → Timer) (ids : ∀ timer, (f timer).id = timer.id) (t : Timers)
    (running : Option Nat) (id : Nat) :
    ({ t with live := t.live.map f, running } : Timers).find? id = (t.find? id).map f := by
  simp only [find?, List.find?_map]
  congr 2
  funext timer
  simp [ids]

theorem find?_firing (t : Timers) (timer : Timer) (id : Nat) :
    (t.firing timer).find? id = (t.find? id).map fun other =>
      if other.id = timer.id then { timer with ticket := none } else other :=
  find?_update _ (fun other => by split <;> simp [*]) t _ id

theorem find?_rearmed (t : Timers) (i ticket id : Nat) :
    (t.rearmed i ticket).find? id = (t.find? id).map fun other =>
      if other.id = i then { other with ticket := some ticket } else other :=
  find?_update _ (fun other => by split <;> rfl) t _ id

theorem find?_remove (other : i ≠ id) : (t.remove i).find? id = t.find? id := by
  simp only [find?, remove, List.find?_filter]
  congr 1
  funext timer
  by_cases same : timer.id = id
  · simp [same, Ne.symm other]
  · simp [same]

theorem find?_remove_self (t : Timers) (id : Nat) : (t.remove id).find? id = none := by
  simp [find?, remove]

/-- A new timer is not seen under another number. -/
theorem find?_schedule (other : id ≠ t.nextId) (pair : Pair) (delay : Nat) (recurring : Bool)
    (ticket : Nat) :
    (t.schedule pair delay recurring (some ticket)).2.find? id = t.find? id := by
  simp [find?, schedule, List.find?_append, other.symm]

theorem find?_eq_none (gone : id ∉ t.live.map Timer.id) : t.find? id = none := by
  refine List.find?_eq_none.2 fun timer mem same => gone ?_
  rw [← eq_of_beq same]
  exact List.mem_map_of_mem mem

/-- An update of another timer is not seen. -/
theorem find?_map_other {f : Timer → Timer} (other : i ≠ id) :
    ((t.find? id).map fun timer => if timer.id = i then f timer else timer) = t.find? id := by
  cases found : t.find? id with
  | none => rfl
  | some timer =>
    obtain ⟨-, same⟩ := Ledger.find?_mem found
    simp [same, other.symm]

end Timers

namespace Session

variable {s t : Session}

/-- A timer that is accepted gets the next number, and its firing is armed. -/
theorem accepted_eq {door : Door} {pair : Pair} {delay id : Nat} {recurring : Bool}
    (h : s.schedule door pair delay recurring = (some id, t)) :
    id = s.timers.nextId ∧
      t.timers = (s.timers.schedule pair delay recurring (some s.lanes.nextTicket)).2 ∧
      t.lanes.alarms = Lanes.insertAlarm ⟨s.lanes.nextTicket, s.clock + delay, .fire id⟩
        s.lanes.alarms ∧ t.lanes.ordinary = s.lanes.ordinary ∧ t.clock = s.clock := by
  rcases schedule_ends s door pair delay recurring with eq | ⟨u, live, adopted, eq⟩
  · cases h.symm.trans eq
  · obtain ⟨-, rfl⟩ := adopt?_eq_some.1 adopted
    have isOpen := lanes_open_of_isLive live
    cases h.symm.trans eq
    simp only [arm, record, Lanes.arm_of_open isOpen, and_self]

theorem cancelled_timers {door : Door} {id : Nat} (h : s.cancel door id = (true, t)) :
    t.timers = s.timers.remove id := by
  unfold cancel at h
  split at h
  · cases h
  cases found : s.timers.find? id with
  | none => simp [Timers.cancel, found] at h
  | some timer =>
    by_cases running : s.timers.running = some id <;>
      simp only [Timers.cancel, found, running, if_true, if_false, Prod.mk.injEq, true_and,
        withdraw_eq] at h <;>
      rw [← h] <;> exact (sameTimers_listening _).armSweep false rfl

end Session

/-! ## What the tape says of a timer -/

namespace Booking

variable (b : Booking)

/-- When a timer is to fire, counted from zero. -/
def nth (k : Nat) : Nat := b.since + (k + 1) * b.delay

/-- Its first firings: the pair that is to be invoked, and when. -/
def times (n : Nat) : List (Pair × Nat) := (List.range n).map fun k => (b.pair, b.nth k)

/-- A timer is the one that has been accepted. -/
structure Matches (timer : Timer) : Prop where
  id : timer.id = b.id
  pair : timer.pair = b.pair
  delay : timer.delay = b.delay
  recurring : timer.recurring = b.recurring

theorem times_succ (n : Nat) : b.times (n + 1) = b.times n ++ [(b.pair, b.nth n)] := by
  simp [times, List.range_succ]

end Booking

namespace Stroke

/-- The timer that a stroke is about. -/
def id : Stroke → Nat
  | accepted b => b.id
  | cancelled id => id
  | fired id .. => id

/-- A firing of a timer: its pair, and when. -/
def firing? (timer : Nat) : Stroke → Option (Pair × Nat)
  | fired id pair clock _ => if id = timer then some (pair, clock) else none
  | _ => none

/-- A firing that has been invoked. -/
def call? (timer : Nat) : Stroke → Option (Pair × Nat)
  | fired id pair clock true => if id = timer then some (pair, clock) else none
  | _ => none

/-- A firing that has found the execution lock held. -/
def isMissed (timer : Nat) : Stroke → Bool
  | fired id _ _ false => id == timer
  | _ => false

end Stroke

/-- The firings of a timer on a tape. -/
def firingsOf (timer : Nat) (tape : List Stroke) : List (Pair × Nat) :=
  tape.filterMap (Stroke.firing? timer)

/-- The invocations of a timer on a tape. -/
def callsOf (timer : Nat) (tape : List Stroke) : List (Pair × Nat) :=
  tape.filterMap (Stroke.call? timer)

theorem firingsOf_append (timer : Nat) (tape tape' : List Stroke) :
    firingsOf timer (tape ++ tape') = firingsOf timer tape ++ firingsOf timer tape' :=
  List.filterMap_append

/-- Numbers are not given out twice. -/
theorem firingsOf_of_below {timer : Nat} {tape : List Stroke}
    (below : ∀ stroke ∈ tape, stroke.id < timer) : firingsOf timer tape = [] := by
  refine List.filterMap_eq_nil_iff.2 fun stroke mem => ?_
  cases stroke with
  | fired id pair clock invoked => exact if_neg (below _ mem).ne
  | _ => rfl

/-- A timer whose firings have not found the lock held has been invoked at each of them. -/
theorem callsOf_eq {timer : Nat} {tape : List Stroke}
    (free : tape.any (Stroke.isMissed timer) = false) :
    callsOf timer tape = firingsOf timer tape := by
  refine List.filterMap_congr fun stroke mem => ?_
  have free := List.any_eq_false.1 free stroke mem
  cases stroke with
  | fired id pair clock invoked =>
    cases invoked with
    | true => rfl
    | false => simp_all [Stroke.isMissed, Stroke.call?, Stroke.firing?]
  | _ => rfl

/-! ## Where a timer stands -/

/-- Where a timer stands that has fired so many times and has not been cancelled. -/
inductive Booking.Standing (b : Booking) (n : Nat) (m : Moment) : Prop where
  /-- It is live, and its next firing is armed for its time, or that time has come. -/
  | armed {timer : Timer} (found : m.session.timers.find? b.id = some timer)
      (terms : b.Matches timer) (other : ∀ fired ∈ m.doing.fired, fired.id ≠ b.id)
      (alarms : ∀ a ∈ m.session.lanes.alarms, a.message.fireId? = some b.id → a.due = b.nth n)
      (line : b.id ∈ m.session.lanes.firingsInLine → m.session.clock = b.nth n)
      (past : b.since + n * b.delay ≤ m.session.clock) (first : b.recurring = false → n = 0)
  /-- It is firing. -/
  | firing {timer fired : Timer} (found : m.session.timers.find? b.id = some timer)
      (terms : b.Matches timer) (fires : m.doing.fired = some fired) (same : b.Matches fired)
      (now : m.session.clock = b.since + n * b.delay) (only : b.recurring = false → n = 1)
  /-- It has fired once, and that was all. -/
  | done (gone : m.session.timers.find? b.id = none)
      (other : ∀ fired ∈ m.doing.fired, fired.id ≠ b.id) (single : b.recurring = false)
      (once : n = 1) (past : b.since + b.delay ≤ m.session.clock)

namespace Booking.Standing

open Session (Ahead)

variable {b : Booking} {n : Nat} {m m' : Moment}

/-- The firing of a live timer that is armed has been armed before its entry was made, so it is
where it was as long as the entry is. -/
theorem ahead (h : b.Standing n m) (ahead : Ahead m.session m'.session)
    (timed : m.session.Timed m.doing.fired) (timed' : m'.session.Timed m'.doing.fired)
    (found' : m'.session.timers.find? b.id = m.session.timers.find? b.id)
    (other' : m'.doing.fired = m.doing.fired ∨
      (∀ fired ∈ m.doing.fired, fired.id ≠ b.id) ∧ ∀ fired ∈ m'.doing.fired, fired.id ≠ b.id) :
    b.Standing n m' := by
  cases h with
  | @armed timer found terms other alarms line past first =>
    obtain ⟨mem, id⟩ := Ledger.find?_mem found
    refine .armed (found'.trans found) terms ?_ (fun a mem' fires => ?_) (fun waits => ?_)
      (ahead.clock ▸ past) first
    · rcases other' with same | ⟨-, other'⟩
      · rwa [same]
      · exact other'
    · obtain ⟨entry, live, same, ticket⟩ := timed'.held a mem' b.id fires
      obtain ⟨entered, -⟩ := Ledger.find?_mem (found'.trans found)
      obtain rfl := List.inj_on_of_nodup_map timed'.ids live entered (same.trans id.symm)
      have old := timed.ticketed entry mem a.ticket ticket
      rcases ahead.alarms a mem' with mem' | ⟨new, -⟩
      · exact alarms a mem' fires
      · omega
    · rw [ahead.clock]
      exact line (ahead.line waits)
  | firing found terms fires same now only =>
    rcases other' with same' | ⟨other, -⟩
    · exact .firing (found'.trans found) terms (same'.trans fires) same (ahead.clock.trans now) only
    · exact absurd same.id (other _ fires)
  | done gone other single once past =>
    refine .done (found'.trans gone) ?_ single once (ahead.clock ▸ past)
    rcases other' with same | ⟨-, other'⟩
    · rwa [same]
    · exact other'

/-- What is due joins the line, and it is due now. -/
theorem due {s : Session} (h : b.Standing n ⟨s, .nothing⟩) (punctual : s.Punctual) :
    b.Standing n ⟨s.deliverDue, .nothing⟩ := by
  cases h with
  | armed found terms other alarms line past first =>
    refine .armed found terms other (fun a mem => ?_) (fun waits => ?_) past first
    · exact alarms a ((List.dropWhile_sublist _).subset mem)
    · simp only [Session.deliverDue, Lanes.deliverDue, Lanes.firingsInLine, List.filterMap_append,
        List.mem_append] at waits
      rcases waits with waits | waits
      · exact line waits
      · obtain ⟨message, ripe, fires⟩ := List.mem_filterMap.1 waits
        obtain ⟨a, taken, same⟩ := List.mem_map.1 ripe
        subst same
        have among := (List.takeWhile_sublist _).subset taken
        have now := s.lanes.takeWhile_ripe s.clock a taken
        exact (le_antisymm (punctual a among) now).trans (alarms a among fires)
  | firing found terms fires => cases fires
  | done gone other single once past => exact .done gone other single once past

/-- Time passes only while no firing is in line. -/
theorem passed {s : Session} {clock : Nat} (h : b.Standing n ⟨s, .nothing⟩)
    (later : s.clock ≤ clock) (idle : s.lanes.next? = none) :
    b.Standing n ⟨{ s with clock := clock }, .nothing⟩ := by
  cases h with
  | armed found terms other alarms line past first =>
    refine .armed found terms other alarms (fun waits => ?_) (le_trans past later) first
    simp [Lanes.firingsInLine, Lanes.ordinary_eq_nil_of_next? idle] at waits
  | firing found terms fires => cases fires
  | done gone other single once past => exact .done gone other single once (le_trans past later)

variable {s t : Session} {doing : Doing}

/-- A timer that is accepted is to fire for the first time after its delay. -/
theorem accepted {door : Door} {pair : Pair} {delay id : Nat} {recurring : Bool}
    (h : s.schedule door pair delay recurring = (some id, t)) (timed : s.Timed doing.fired) :
    Booking.Standing ⟨id, pair, delay, recurring, s.clock⟩ 0 ⟨t, doing⟩ := by
  obtain ⟨rfl, timers, alarms, ordinary, clock⟩ := Session.accepted_eq h
  have fresh : s.timers.find? s.timers.nextId = none := by
    refine Timers.find?_eq_none fun mem => ?_
    obtain ⟨timer, mem, same⟩ := List.mem_map.1 mem
    exact absurd same (timed.below timer mem).ne
  have entered : t.timers.find? s.timers.nextId =
      some ⟨s.timers.nextId, pair, delay, recurring, some s.lanes.nextTicket⟩ := by
    simp only [Timers.find?, timers, Timers.schedule, List.find?_append] at fresh ⊢
    simp [fresh]
  refine .armed entered ⟨rfl, rfl, rfl, rfl⟩ ?_ (fun a mem fires => ?_) (fun waits => ?_) ?_
    fun _ => rfl
  · exact fun fired mem => (timed.firing fired mem).1.ne
  · rw [alarms] at mem
    rcases Armed.mem_alarms mem with rfl | mem
    · simp [Booking.nth]
    · obtain ⟨timer, live, same, -⟩ := timed.held a mem _ fires
      exact absurd same (timed.below timer live).ne
  · simp only [Lanes.firingsInLine, ordinary] at waits
    exact absurd rfl (timed.pending _ (s.lanes.firingsInLine_subset waits)).ne
  · simp [clock]

/-- The loop comes to the next firing of a timer. -/
theorem begin {timer : Timer} {lanes : Lanes Message} (h : b.Standing n ⟨s, .nothing⟩)
    (timed : s.Timed none) (next : s.lanes.next? = some (.fire timer.id, lanes))
    (found : s.timers.find? timer.id = some timer) (own : timer.id = b.id)
    (timers : t.timers = s.timers.firing timer) (clock : t.clock = s.clock) :
    b.Standing (n + 1) ⟨t, .firing timer⟩ ∧ (timer.pair, s.clock) = (b.pair, b.nth n) := by
  cases h with
  | armed found' terms other alarms line past first =>
    rw [← own, found] at found'
    cases found'
    have now : s.clock = b.nth n := by
      refine line ?_
      have patient : Message.fire timer.id ∉ s.lanes.urgent :=
        fun mem => absurd (timed.urgent _ mem) nofun
      obtain ⟨-, ordinary, heq, -⟩ := Lanes.next?_turn next patient
      simp [Lanes.firingsInLine, heq, Message.fireId?, own]
    have entered : t.timers.find? b.id = some { timer with ticket := none } := by
      rw [timers, Timers.find?_firing, ← own, found]
      simp
    refine ⟨.firing entered ?_ rfl terms ?_ ?_, ?_⟩
    · exact ⟨terms.id, terms.pair, terms.delay, terms.recurring⟩
    · exact clock.trans now
    · exact fun single => congrArg Nat.succ (first single)
    · rw [terms.pair, now]
  | firing found' terms fires => cases fires
  | done gone => cases (own ▸ gone).symm.trans found

/-- A timer that goes on is to fire again after its delay. -/
theorem rearm {timer : Timer} (h : b.Standing n ⟨s, .firing timer⟩)
    (timed : s.Timed (some timer)) (on : s.goesOn timer) (own : timer.id = b.id) :
    b.Standing n
      ⟨({ s with timers := s.timers.rearmed timer.id s.lanes.nextTicket }.arm timer.delay
        (.fire timer.id)).2, .nothing⟩ := by
  cases h with
  | armed found terms other => exact absurd own (other timer rfl)
  | @firing entry _ found terms fires same now only =>
    cases fires
    have spent : b.id ∉ s.lanes.firings := own ▸ List.count_eq_zero.1 (timed.firing timer rfl).2
    have now : s.clock = b.since + n * b.delay := now
    have recurring := same.recurring.symm.trans on.2.1
    have entered : (s.timers.rearmed timer.id s.lanes.nextTicket).find? b.id =
        some { entry with ticket := some s.lanes.nextTicket } := by
      rw [Timers.find?_rearmed, found]
      simp [terms.id, own]
    refine .armed entered ?_ nofun (fun a mem fires => ?_) (fun waits => ?_) ?_ (fun single => ?_)
    · exact ⟨terms.id, terms.pair, terms.delay, terms.recurring⟩
    · simp only [Session.arm, Lanes.arm_of_open on.2.2] at mem
      rcases Armed.mem_alarms mem with rfl | mem
      · simp only [Booking.nth, same.delay, Nat.succ_mul]
        omega
      · exact absurd (List.count_pos_iff.1 (Armed.fireId?_of_mem_alarms mem fires)) spent
    · simp only [Session.arm, Lanes.arm_of_open on.2.2] at waits
      exact absurd (s.lanes.firingsInLine_subset waits) spent
    · exact now.ge
    · cases single.symm.trans recurring
  | done gone other => exact absurd own (other timer rfl)

/-- A one-shot timer has fired. -/
theorem retire {timer : Timer} (h : b.Standing n ⟨s, .firing timer⟩) (off : ¬ s.goesOn timer)
    (isOpen : s.lanes.closed = false) (own : timer.id = b.id) :
    b.Standing n
      ⟨{ s with timers := s.timers.retired timer.id }.bury timer.pair, .nothing⟩ := by
  cases h with
  | armed found terms other => exact absurd own (other timer rfl)
  | firing found terms fires same now only =>
    cases fires
    have single : b.recurring = false := by
      by_contra recurring
      refine off ⟨?_, ?_, isOpen⟩
      · rw [Timers.isLive, own, found]
        rfl
      · rw [same.recurring]
        simpa using recurring
    have once := only single
    subst once
    refine .done ?_ (by rintro _ ⟨⟩) single rfl ?_
    · rw [← own]
      exact Timers.find?_remove_self s.timers timer.id
    · rw [Nat.one_mul] at now
      exact now.ge
  | done gone other => exact absurd own (other timer rfl)

end Booking.Standing

end ScriptHost
