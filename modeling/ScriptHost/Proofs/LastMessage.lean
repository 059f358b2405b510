import ScriptHost.Proofs.LastWork
import ScriptHost.Proofs.Turnover

/-!
# The last message

The loop handles the last message in three strides: the tables of timers and listeners are emptied
into the line behind what is in it already, the jobs that wait run, and the line is swept. The jobs
run in a session that has closed, so they find the tables empty and leave them empty; and since
every pair has one owner, no pair comes into the line twice. So the sweep releases exactly the pairs
that were in the three tables when the message came, in their order.

## Main definitions

* `Session.dueAtEnd` — the pairs that are to be released.
* `Session.Over` — nothing is left, and nothing comes any more.

## Main statements

* `Session.terminate_ends` — the three strides.
* `Session.Over.stepAll` — what is over stays over.
* `Moment.Arises.releases_in_order` — both, for every session in which the last message is next.
* `Moment.releases_nothing_locked` — without the execution lock nothing runs and nothing is
  released.
-/

namespace ScriptHost

theorem Custody.buryAll_eq {c : Custody} {pairs : List Pair} (nodup : (c.buried ++ pairs).Nodup) :
    c.buryAll pairs = { c with buried := c.buried ++ pairs } := by
  induction pairs generalizing c with
  | nil => simp [buryAll]
  | cons pair rest ih =>
    have fresh : c.isBuried pair = false := by
      have apart := (List.nodup_append.1 nodup).2.2
      have absent : pair ∉ c.buried := fun mem => apart pair mem pair (List.mem_cons_self ..) rfl
      simpa [isBuried] using absent
    have buried : c.bury pair = { c with buried := c.buried ++ [pair] } := by simp [bury, fresh]
    have rest := @ih (c.bury pair) (by simpa [buried] using nodup)
    rw [buried] at rest
    rw [show c.buryAll (pair :: _) = (c.bury pair).buryAll _ from rfl, buried, rest]
    simp

namespace Session

variable {s t u : Session}

/-- The pairs that are to be released when the last message comes. -/
def dueAtEnd (s : Session) : List Pair :=
  s.custody.buried ++ s.timers.live.map Timer.pair ++ s.listeners.all

/-! ## What is over -/

/-- The loop has ended and has left nothing behind: no timer, no listener, no pair in line, no job,
and no message, neither one that waits nor one that is armed; and none is accepted any more. -/
structure Over (s : Session) : Prop where
  ended : s.loop = .ended
  terminated : s.phase = .terminated
  timers : s.statistics.liveTimers = 0
  listeners : s.statistics.listeners = 0
  graveyard : s.statistics.graveyard = 0
  jobs : s.statistics.pendingJobs = 0
  urgent : s.lanes.urgent = []
  ordinary : s.lanes.ordinary = []
  alarms : s.lanes.alarms = []
  closed : s.lanes.closed = true
  deserted : s.lanes.deserted = true

namespace Over

theorem shut (h : s.Over) : s.Closed := ⟨by rw [h.terminated]; rfl, h.closed⟩

theorem atRest (h : s.Over) : s.AtRest :=
  ⟨h.ended, h.terminated, h.deserted, .inr (List.length_eq_zero_iff.1 h.jobs)⟩

theorem lingers (h : s.Over) (l : s.Lingers t) : t.Over := by
  rw [l.same]
  exact { h with }

/-- Whatever the host does, what is over stays over. -/
theorem stepAll (h : s.Over) (bound : Nat) (steps : List HostStep) :
    ∃ reports t, s.stepAll (bound + 1) steps = some (reports, t) ∧ t.Over := by
  obtain ⟨reports, t, played, lingers⟩ := h.atRest.stepAll bound steps
  exact ⟨reports, t, played, h.lingers lingers⟩

end Over

/-! ## The three strides -/

/-- The tables are emptied into the line. -/
theorem clear_due (idle : s.timers.running = none) (nodup : s.dueAtEnd.Nodup) :
    ∃ alarms, s.clear = { s with
      phase := .shuttingDown
      timers := { s.timers with live := [] }
      listeners := .empty
      lanes.alarms := alarms
      custody.buried := s.dueAtEnd } := by
  obtain ⟨alarms, -, eq⟩ := clear_eq s
  have cleared : s.timers.clear = (s.timers.live, { s.timers with live := [] }) := by
    simp [Timers.clear, idle]
  rw [cleared] at eq
  rw [dueAtEnd, List.append_assoc] at nodup
  refine ⟨alarms, ?_⟩
  rw [eq, buryAll, Custody.buryAll_eq (by exact nodup), dueAtEnd, List.append_assoc]

/-- The jobs that are left run, one after the other, whatever they try. -/
theorem drain_rest (closed : s.Closed) (free : s.lock = .free) (bound : Nat) :
    ∃ t entries events, (if s.ticks.jobs.isEmpty then some s else s.drain (bound + 2) .loop) =
        some t ∧
      t.log = entries ++ s.log ∧ t.journal = events ++ s.journal ∧
      Account .loop s.ticks.jobs entries events ∧
      t.lock = .free ∧ t.ticks.jobs = [] ∧ t.custody = s.custody ∧ t.timers = s.timers ∧
      t.listeners = s.listeners ∧ t.lanes = s.lanes := by
  by_cases none : s.ticks.jobs = []
  · refine ⟨s, [], [], by simp [none], rfl, rfl, ?_, free, none, rfl, rfl, rfl, rfl⟩
    rw [none]
    exact .none
  · obtain ⟨t, drained, works⟩ := @drain_works .loop s closed free none bound
    obtain ⟨entries, events, log, journal, account⟩ := works.account
    refine ⟨{ t with lock := .free, ticks := .empty }, entries, events, ?_, log, journal, account,
      rfl, rfl, works.tables⟩
    simpa [none] using drained

/-- The line is swept, whatever comes of the single releases. -/
theorem finish_sweeps (free : s.lock = .free) (nodup : s.custody.buried.Nodup)
    (owned : s.custody.buried ⊆ s.custody.live) (query : Option Nat) :
    ∃ t, s.finish query = some t ∧
      t.log = (s.custody.buried.map Entry.dispose).reverse ++ s.log ∧
      t.journal = .swept s.custody.buried :: .lastSweep :: s.journal ∧
      t.custody.buried = [] ∧ t.timers = s.timers ∧ t.listeners = s.listeners ∧
      t.ticks = s.ticks ∧ t.phase = .terminated ∧ t.loop = .ended ∧ t.lanes = s.lanes.desert := by
  obtain ⟨released, failures, swept, all⟩ :=
    sweepGraveyard_eq { s.record .lastSweep with lock := ⟨some .loop⟩ }
  have released : released = s.custody.buried := all nodup owned
  rw [finish_eq, withEngine_free (by exact free), swept, released]
  refine ⟨_, rfl, ?_⟩
  cases query <;> exact ⟨rfl, rfl, rfl, rfl, rfl, rfl, rfl, rfl, rfl⟩

/-- The last message ends: the jobs that wait have run, what was due has been released, and all is
over. -/
theorem terminate_ends (closed : s.lanes.closed = true) (free : s.lock = .free)
    (idle : s.timers.running = none) (nodup : s.dueAtEnd.Nodup)
    (owned : s.dueAtEnd ⊆ s.custody.live) (query : Option Nat) (bound : Nat) :
    ∃ t entries events, s.terminate (bound + 2) query = some t ∧
      t.log = (s.dueAtEnd.map Entry.dispose).reverse ++ (entries ++ s.log) ∧
      t.journal = .swept s.dueAtEnd :: .lastSweep :: (events ++ s.journal) ∧
      Account .loop s.ticks.jobs entries events ∧ t.Over := by
  obtain ⟨alarms, cleared⟩ := clear_due idle nodup
  generalize hc : s.clear = c at cleared
  have shut : c.Closed := by
    rw [cleared]
    exact ⟨rfl, closed⟩
  obtain ⟨u, entries, events, drained, log, journal, account, lock, jobs, custody, timers,
    listeners, lanes⟩ := drain_rest shut (by rw [cleared]; exact free) bound
  rw [cleared] at log journal account custody timers listeners lanes
  have line : u.custody.buried = s.dueAtEnd := by rw [custody]
  have live : u.custody.live = s.custody.live := by rw [custody]
  obtain ⟨t, finished, log', journal', swept, timers', listeners', ticks, phase, loop, lanes'⟩ :=
    finish_sweeps lock (by rw [line]; exact nodup) (by rw [line, live]; exact owned) query
  refine ⟨t, entries, events, ?_, ?_, ?_, account, ?_⟩
  · rw [terminate_eq, hc, drained]
    exact finished
  · rw [log', line, log]
  · rw [journal', line, journal]
  · refine ⟨loop, phase, ?_, ?_, ?_, ?_, ?_, ?_, ?_, ?_, ?_⟩
    · rw [statistics, timers', timers]
      rfl
    · rw [statistics, listeners', listeners]
      rfl
    · rw [statistics, swept]
      rfl
    · rw [statistics, ticks, jobs]
      rfl
    · rw [lanes']
      rfl
    · rw [lanes']
      rfl
    · rw [lanes']
      rfl
    · rw [lanes', lanes]
      exact closed
    · rw [lanes']
      rfl

end Session

/-! ## The course of a session -/

namespace Moment

open Session (Spawned TurnsOver)

variable {s : Session}

/-- Between two messages nothing fires, and what is in the tables and in line is in custody, once.
-/
theorem Arises.due (h : Arises ⟨s, .nothing⟩) :
    s.timers.running = none ∧ s.dueAtEnd.Nodup ∧ s.dueAtEnd ⊆ s.custody.live := by
  have balanced := h.occurs.balanced.balanced
  have owned : ∀ pair, s.dueAtEnd.count pair ≤ s.custody.live.count pair := by
    intro pair
    have owned := balanced.owned pair
    simp only [Ledger.owners, Session.ledger, Session.dueAtEnd, List.count_append] at owned ⊢
    omega
  refine ⟨balanced.running, List.nodup_iff_count_le_one.2 fun pair => ?_, fun pair mem => ?_⟩
  · have once := List.nodup_iff_count_le_one.1 balanced.nodup pair
    exact (owned pair).trans once
  · have some := List.count_pos_iff.2 mem
    have owned := owned pair
    exact List.count_pos_iff.1 (by omega)

/-- When the loop comes to the last message and nobody has taken the execution lock and kept it, the
handling ends; first the jobs that wait run in order, and whatever callback is invoked meanwhile is
invoked by one of them; then exactly the pairs in line, those of the live timers by number, and
those that listen, event by event, are released, each once, whatever comes of the others. Then the
session is over, and it stays so whatever helpers and the host do. -/
theorem Arises.releases_in_order {query : Option Nat} {lanes : Lanes Message}
    (h : Arises ⟨s, .nothing⟩) (next : s.lanes.next? = some (.shutdown query, lanes))
    (free : s.lock = .free) :
    (∃ origin history, Spawned origin ∧ TurnsOver origin history s) ∧
    ∀ {origin history}, Spawned origin → TurnsOver origin history s →
      (s.timers.live.map Timer.id).Pairwise (· < ·) ∧
      let due := Turnover.line history ++ s.timers.live.map Timer.pair ++
        Turnover.listening history
      due.Nodup ∧ ∀ bound, ∃ t entries events,
        ({ s with lanes } : Session).handle (bound + 2) (.shutdown query) = some t ∧
        t.log = (due.map Entry.dispose).reverse ++ (entries ++ s.log) ∧
        t.journal = .swept due :: .lastSweep :: (events ++ s.journal) ∧
        Account .loop s.ticks.jobs entries events ∧ t.Over ∧
        ∀ clock steps, ∃ u reports v, t.runHelpers (bound + 1) = some u ∧ u.Over ∧
          ({ u with clock } : Session).stepAll (bound + 1) steps = some (reports, v) ∧ v.Over := by
  refine ⟨h.turnover, fun {origin history} spawned turned => ?_⟩
  have tabled := turned.tabled_spawned spawned
  refine ⟨tabled.increasing.sublist tabled.timers, ?_⟩
  obtain ⟨idle, nodup, owned⟩ := h.due
  have due : s.dueAtEnd = Turnover.line history ++ s.timers.live.map Timer.pair ++
      Turnover.listening history := by
    rw [Session.dueAtEnd, tabled.line, Listeners.all, tabled.listeners]
    rfl
  have shutting : s.phase = .shuttingDown := h.closing next rfl
  have closed : s.lanes.closed = true := by
    have closed : s.lanes.closed = !s.phase.isLive := h.upkeep.2.1.closed
    rw [closed, shutting]
    rfl
  have taken : lanes.closed = s.lanes.closed := by rw [Lanes.next?_rest next]
  rw [← due]
  refine ⟨nodup, fun bound => ?_⟩
  obtain ⟨t, entries, events, ended, log, journal, account, atEnd⟩ :=
    @Session.terminate_ends { s with lanes } (taken.trans closed) free idle nodup owned query bound
  refine ⟨t, entries, events, ended, log, journal, account, atEnd, fun clock steps => ?_⟩
  obtain ⟨u, helped, lingers⟩ := atEnd.atRest.runHelpers bound
  have left := atEnd.lingers lingers
  have reset : ({ u with clock } : Session).Over := { left with }
  obtain ⟨reports, v, played, last⟩ := reset.stepAll bound steps
  exact ⟨u, reports, v, helped, left, played, last⟩

/-- A session with a timer, with listeners of two events, with a pair in line, and with a job that
waits, at the moment at which shutdown is asked for. -/
def laden : Session :=
  let actions : List Action := [.on .handle "b" ⟨1, 1⟩, .on .handle "a" ⟨2, 2⟩,
    .on .handle "b" ⟨3, 3⟩, .on .handle "c" ⟨4, 4⟩, .schedule .handle ⟨5, 5⟩ 10 true,
    .off .handle "c", .tick .context false "j" [.on .handle "a" ⟨6, 6⟩]]
  ((Session.play .nowhere .host actions Session.readied).2.beginShutdown none).2

/-- The call that the last message answers, if it is the last message. -/
def shutdown? : Message → Option (Option Nat)
  | .shutdown query => some query
  | _ => none

theorem eq_of_shutdown? {m : Message} {query : Option Nat} (h : shutdown? m = some query) :
    m = .shutdown query := by
  cases m with
  | shutdown other => exact congrArg Message.shutdown (Option.some.inj h)
  | _ => cases h

theorem releases_in_order_laden :
    Arises ⟨laden, .nothing⟩ ∧ laden.lock = .free ∧ ∃ lanes,
      laden.lanes.next? = some (.shutdown none, lanes) ∧ ∃ t,
        ({ laden with lanes } : Session).handle 2 (.shutdown none) = some t ∧ t.Over ∧
        jobsBegun t.log = ["j"] ∧
        disposals t.log = [⟨4, 4⟩, ⟨5, 5⟩, ⟨1, 1⟩, ⟨3, 3⟩, ⟨2, 2⟩] := by
  have readied : Arises ⟨Session.readied, .nothing⟩ := ⟨_, Session.readied_comesAfter⟩
  have leads : Leads ⟨Session.readied, .nothing⟩ ⟨laden, .nothing⟩ :=
    ((Leads.refl _).code (Session.play_deeds EngineAccess.all_nowhere _ _ _)).code
      (@Session.Deeds.shutdown .host _ none)
  have arises := readied.leads leads
  have free : laden.lock = .free := by decide +kernel
  obtain ⟨⟨m, lanes⟩, next, found⟩ := (Option.any_eq_true _ _).1 (by decide +kernel :
    laden.lanes.next?.any (fun entry => decide (shutdown? entry.1 = some none) &&
      (({ laden with lanes := entry.2 } : Session).handle 2 (.shutdown none)).any fun t =>
        decide (jobsBegun t.log = ["j"] ∧
          disposals t.log = [⟨4, 4⟩, ⟨5, 5⟩, ⟨1, 1⟩, ⟨3, 3⟩, ⟨2, 2⟩])) = true)
  obtain ⟨last, found⟩ := Bool.and_eq_true_iff.1 found
  obtain rfl := eq_of_shutdown? (of_decide_eq_true last)
  obtain ⟨⟨origin, history, spawned, turned⟩, releases⟩ := arises.releases_in_order next free
  obtain ⟨-, -, ends⟩ := releases spawned turned
  obtain ⟨t, entries, events, handled, -, -, -, atEnd, -⟩ := ends 0
  rw [handled] at found
  exact ⟨arises, free, _, next, t, handled, atEnd, of_decide_eq_true found⟩

/-- An observer has taken the execution lock and kept it. A pair listens and a job waits, and when
the last message has been handled the job has not run and the pair has not been released: one of the
tables has been emptied, and the pair is in line for a sweep that does not come. -/
theorem releases_nothing_locked : ∃ s t : Session, ∃ query lanes,
    Arises ⟨s, .nothing⟩ ∧ s.lanes.next? = some (.shutdown query, lanes) ∧
      ({ s with lanes } : Session).handle 2 (.shutdown query) = some t ∧
      s.listeners.all = [⟨1, 2⟩] ∧ s.ticks.jobs.map Work.tag = ["j"] ∧
      t.loop = .ended ∧ disposals t.log = [] ∧ jobsBegun t.log = [] ∧
      t.statistics.graveyard = 1 ∧ t.statistics.pendingJobs = 1 := by
  obtain ⟨s, start, found⟩ := (Option.any_eq_true _ _).1 (by decide +kernel :
    (Session.leaking.start 50).any (fun s =>
      (s.stepAll 50 [.act (.on .handle "e" ⟨1, 2⟩), .act (.tick .context false "j" [])]).any
        fun played => let s := (played.2.beginShutdown none).2
          s.lanes.next?.any fun entry => (shutdown? entry.1).any fun query =>
            (({ s with lanes := entry.2 } : Session).handle 2 (.shutdown query)).any fun t =>
              decide (s.listeners.all = [⟨1, 2⟩] ∧ s.ticks.jobs.map Work.tag = ["j"] ∧
                t.loop = .ended ∧ disposals t.log = [] ∧ jobsBegun t.log = [] ∧
                t.statistics.graveyard = 1 ∧ t.statistics.pendingJobs = 1)) = true)
  obtain ⟨⟨reports, u⟩, played, found⟩ := (Option.any_eq_true _ _).1 found
  obtain ⟨⟨m, lanes⟩, next, found⟩ := (Option.any_eq_true _ _).1 found
  obtain ⟨query, last, found⟩ := (Option.any_eq_true _ _).1 found
  obtain rfl := eq_of_shutdown? last
  obtain ⟨t, handled, found⟩ := (Option.any_eq_true _ _).1 found
  have fresh : Session.Fresh Session.leaking :=
    Session.earlySteps_fresh _ (Session.plain_fresh _)
  have leads : Leads ⟨Session.leaking, .nothing⟩ ⟨u, .nothing⟩ :=
    (fresh.course_tapes start played).leads
  have arises := fresh.arises.leads (leads.code (@Session.Deeds.shutdown .host _ none))
  exact ⟨_, t, _, _, arises, next, handled, of_decide_eq_true found⟩

end Moment
end ScriptHost
