import ScriptHost.Proofs.Chronicled
import ScriptHost.Proofs.Restitution

/-!
# Firings one by one

A session uses its table of timers one call after the other. Code schedules and cancels, the loop
gives out one timer at a time and ends its firing before it looks at the next message, and the last
message clears the table. So no firing of a session begins while another one is out, and what is
true of tables in use is true of the table of every session.

## Main definitions

* `Moment.timekeeper` — the table of a session, in use.
* `Moment.ByCalls` — calls lead from one moment to another.

## Main statements

* `Moment.Beat.byCalls`, `Moment.Tape.byCalls` — a step is a call or none, a course is its calls.
* `Moment.Taped.byCalls` — the table of every session is one in use.
-/

namespace ScriptHost

/-- A timer that is accepted has been entered in the table, with its firing armed. -/
theorem Session.schedule_entered {s t : Session} {door : Door} {pair : Pair} {delay id : Nat}
    {recurring : Bool} (h : s.schedule door pair delay recurring = (some id, t)) :
    s.lanes.closed = false ∧ id = s.timers.nextId ∧
      t.timers = (s.timers.schedule pair delay recurring (some s.lanes.nextTicket)).2 := by
  rcases schedule_ends s door pair delay recurring with refused | ⟨u, live, adopted, accepted⟩
  · cases h.symm.trans refused
  · obtain ⟨-, rfl⟩ := adopt?_eq_some.1 adopted
    cases h.symm.trans accepted
    exact ⟨lanes_open_of_isLive live, rfl, rfl⟩

/-- What a stroke enters in the table. -/
def Stroke.entered : Stroke → List (Nat × Pair)
  | .accepted b => [(b.id, b.pair)]
  | _ => []

namespace Timekeeper

variable {k k' l : Timekeeper} {call : TimerCall} {event : TimerEvent}

theorem play_call (p : k.perform call = some (event, l)) (timers : l.timers = k'.timers)
    (fired : l.fired = k'.fired) :
    k.play [call, .meanwhile k'.clock k'.lanes] = some ([event, .waited], k') := by
  refine play_cons_eq_some.2 ⟨event, l, [.waited], p, ?_, rfl⟩
  simp only [play, perform, timers, fired]
  rfl

end Timekeeper

namespace Moment

/-- The table of a session, in use. -/
def timekeeper (m : Moment) : Timekeeper where
  timers := m.session.timers
  lanes := m.session.lanes
  clock := m.session.clock
  -- The table has given the timer out without the ticket that has brought it up.
  fired := m.doing.fired.map fun timer => { timer with ticket := none }

/-- Calls on the table lead from one moment to another, and enter what is on the tape. -/
def ByCalls (m : Moment) (tape : List Stroke) (m' : Moment) : Prop :=
  ∃ calls past, m.timekeeper.play calls = some (past, m'.timekeeper) ∧
    enteredIn past = tape.flatMap Stroke.entered

variable {m m' m'' : Moment} {tape tape' strokes : List Stroke}

namespace ByCalls

theorem trans (h : ByCalls m tape m') (h' : ByCalls m' tape' m'') :
    ByCalls m (tape ++ tape') m'' := by
  obtain ⟨calls, past, p, entered⟩ := h
  obtain ⟨calls', past', p', entered'⟩ := h'
  refine ⟨calls ++ calls', past ++ past', Timekeeper.play_append p p', ?_⟩
  rw [List.flatMap_append, ← entered, ← entered', enteredIn, List.flatMap_append]
  rfl

/-- One call leads there, and what others do to the queue meanwhile. -/
theorem one {call : TimerCall} {event : TimerEvent} {l : Timekeeper}
    (p : m.timekeeper.perform call = some (event, l)) (timers : l.timers = m'.session.timers)
    (fired : l.fired = m'.timekeeper.fired)
    (entered : event.entered = strokes.flatMap Stroke.entered) : ByCalls m strokes m' := by
  refine ⟨_, _, Timekeeper.play_call p timers fired, ?_⟩
  rw [← entered]
  exact List.append_nil _

/-- No call is made: at most the queue is another one. -/
theorem none (timers : m'.session.timers = m.session.timers)
    (fired : m'.doing.fired = m.doing.fired) : ByCalls m [] m' := by
  refine ⟨[.meanwhile m'.timekeeper.clock m'.timekeeper.lanes], [.waited], ?_, rfl⟩
  simp only [Timekeeper.play, Timekeeper.perform, timekeeper, timers, fired]
  rfl

end ByCalls

/-- One step of a session makes at most one call. -/
theorem Beat.byCalls (n : Beat m strokes m') (h : m.timekeeper.Sound) : ByCalls m strokes m' := by
  cases n with
  | calm _ calm => exact .none calm.timers calm.fired
  | @accepted s t door pair delay id recurring accepted doing =>
    obtain ⟨isOpen, rfl, entered⟩ := Session.schedule_entered accepted
    obtain ⟨lanes, p⟩ := Timekeeper.perform_schedule (k := timekeeper ⟨s, doing⟩) isOpen pair delay
      recurring
    exact .one p entered.symm rfl rfl
  | @cancelled s t door id cancelled doing =>
    have live := ((Session.cancel_eq_true s door id).1 (congrArg Prod.fst cancelled)).2
    obtain ⟨timer, found⟩ := Option.isSome_iff_exists.1 live
    obtain ⟨rfl, -⟩ := Timers.begin_of_find? found
    obtain ⟨left, -, -⟩ := Session.cancel_found (congrArg Prod.fst cancelled) found
    rw [cancelled] at left
    obtain ⟨lanes, p⟩ := Timekeeper.perform_cancel (k := timekeeper ⟨s, doing⟩) found
    exact .one p left.symm rfl rfl
  | stale => exact .none rfl rfl
  | @fired s timer lanes running next found free =>
    exact .one (Timekeeper.perform_begin (k := timekeeper ⟨s, .nothing⟩) found rfl) rfl rfl rfl
  | @missed s timer lanes running next found held =>
    exact .one (Timekeeper.perform_begin (k := timekeeper ⟨s, .nothing⟩) found rfl) rfl rfl rfl
  | @rearmed s timer on =>
    rcases Timekeeper.perform_finish (k := timekeeper ⟨s, .firing timer⟩) rfl h.running with
      ⟨-, lanes, p⟩ | ⟨off, -⟩
    · exact .one p rfl rfl rfl
    · exact absurd on off
  | @retired s timer off =>
    rcases Timekeeper.perform_finish (k := timekeeper ⟨s, .firing timer⟩) rfl h.running with
      ⟨on, -⟩ | ⟨-, p⟩
    · exact absurd on off
    · exact .one p rfl rfl rfl
  | @last s query lanes running next closing =>
    obtain ⟨_, -, cleared⟩ := Session.clear_eq { s with lanes }
    refine @ByCalls.one _ _ _ .clear _ _ rfl ?_ rfl rfl
    simp only [cleared]
    rfl

/-- The course of a session is its calls, one after the other. -/
theorem Tape.byCalls (c : Tape m tape m') (h : m.timekeeper.Sound) : ByCalls m tape m' := by
  induction c with
  | none => exact .none rfl rfl
  | more _ n ih =>
    obtain ⟨_, _, p, -⟩ := id ih
    exact ih.trans (n.byCalls (Timekeeper.play_sound h p))

/-- Whatever a session does with its table, it does one call after the other, and no firing begins
while another one is out: the table is one in use, with what is on the tape entered in it. -/
theorem Taped.byCalls (h : m.Taped tape) : ∃ clock lanes calls past,
    (Timekeeper.fresh clock lanes).play calls = some (past, m.timekeeper) ∧
      enteredIn past = tape.flatMap Stroke.entered := by
  obtain ⟨origin, spawned, c⟩ := h
  obtain ⟨settings, locale, program, modules, rfl⟩ := spawned_eq spawned
  obtain ⟨calls, past, p, entered⟩ := c.byCalls (Timekeeper.fresh_sound _ _)
  exact ⟨_, _, calls, past, p, entered⟩

end Moment
end ScriptHost
