import ScriptHost.Proofs.Closing
import ScriptHost.Proofs.Recorded

/-!
# Jobs in a session that shuts down

When the last message comes, next-tick jobs may still wait. They run, one after the other, but the
session has closed: every operation is refused, so all that they leave are entries in the log, and
all that they can make run is the engine, which they have at hand. In particular they put nothing
into the tables, take no lock that is kept, and enqueue no further job.

## Main definitions

* `Entry.isOfJobs`, `Event.isOfJobs` — what jobs leave in a session that has closed.
* `Account` — the jobs that have run, read off what they have left.
* `Session.Works` — jobs have run, and nothing else has changed.

## Main statements

* `Session.play_works` — what actions do in a session that has closed.
* `Session.drain_works` — a drain runs the jobs that wait as one batch, and is done.
-/

namespace ScriptHost

/-- What jobs on a thread leave in the log: that they begin, calls to the engine, observers that are
told at once, replies, and calls of the transport by workers that they set free. -/
def Entry.isOfJobs (thread : Thread) : Entry → Bool
  | .job _ other | .invoke _ _ other | .observer _ other => other = thread
  | .script .. | .did .. | .transport _ => true
  | _ => false

/-- What jobs leave in the journal: that they begin, invocations that they make themselves, requests
that workers take when jobs set them free, and completions that are refused. -/
def Event.isOfJobs : Event → Bool
  | .executed _ | .called .. | .sent _ | .dropped _ => true
  | _ => false

/-- No job and no invocation comes too late. -/
theorem Journal.late {events : Journal} (late : ∀ e ∈ events, e.isLate = true) :
    events.executed = [] ∧ events.called = [] := by
  induction events with
  | nil => exact ⟨rfl, rfl⟩
  | cons e rest ih =>
    obtain ⟨first, others⟩ := List.forall_mem_cons.1 late
    have none := ih others
    cases e <;> first | exact none | cases first

/-- The callbacks that entries of the log say were invoked, the last one first. -/
def callbacksOf (log : List Entry) : List UInt64 :=
  log.filterMap fun
    | .invoke pair _ _ => some pair.callback
    | _ => none

/-- These jobs have run on a thread, and have left these entries and events; whatever callback has
been invoked has been invoked by them. -/
structure Account (thread : Thread) (jobs : List Work) (entries : List Entry) (events : Journal) :
    Prop where
  logged : ∀ e ∈ entries, e.isOfJobs thread = true
  recorded : ∀ e ∈ events, e.isOfJobs = true
  begun : jobsBegun entries = jobs.map Work.tag
  executed : events.executed = jobs
  invoked : callbacksOf entries = events.called.map Prod.fst

namespace Account

variable {thread : Thread} {jobs jobs' : List Work} {entries entries' : List Entry}
  {events events' : Journal}

theorem none : Account thread [] [] [] := ⟨nofun, nofun, rfl, rfl, rfl⟩

theorem append (h : Account thread jobs entries events)
    (h' : Account thread jobs' entries' events') :
    Account thread (jobs ++ jobs') (entries' ++ entries) (events' ++ events) where
  logged e mem := (List.mem_append.1 mem).elim (h'.logged e) (h.logged e)
  recorded e mem := (List.mem_append.1 mem).elim (h'.recorded e) (h.recorded e)
  begun := by
    have begun := h.begun
    have begun' := h'.begun
    simp only [jobsBegun] at begun begun' ⊢
    rw [List.reverse_append, List.filterMap_append, begun, begun', List.map_append]
  executed := by rw [Journal.executed_append, h.executed, h'.executed]
  invoked := by
    have invoked := h.invoked
    have invoked' := h'.invoked
    simp only [callbacksOf] at invoked invoked' ⊢
    rw [List.filterMap_append, invoked, invoked', Journal.called_append, List.map_append]

end Account

namespace Session

variable {thread : Thread} {jobs jobs' : List Work} {s t u : Session}

/-- Nothing is accepted any more. -/
structure Closed (s : Session) : Prop where
  shut : s.phase.isLive = false
  closed : s.lanes.closed = true

/-- Jobs have run on a thread: the log and the journal tell of it. Besides, observers may have come
and gone, results may have been fetched, completions may have been released and refused, workers may
have gone on to other requests, and callbacks may have been invoked; nothing else has changed. -/
structure Works (thread : Thread) (jobs : List Work) (s t : Session) : Prop where
  same : t = { s with
    readiness := t.readiness
    keys := t.keys
    errands := t.errands
    held := t.held
    traffic.inFlight := t.traffic.inFlight
    invocations := t.invocations
    journal := t.journal
    log := t.log }
  account : ∃ entries events, t.log = entries ++ s.log ∧ t.journal = events ++ s.journal ∧
    Account thread jobs entries events

namespace Works

/-- The journal and the log are as they were. -/
theorem quiet (same : t = { s with
      readiness := t.readiness
      keys := t.keys
      errands := t.errands
      held := t.held
      traffic.inFlight := t.traffic.inFlight
      invocations := t.invocations }) : Works thread [] s t := by
  have journal := congrArg Session.journal same
  have log := congrArg Session.log same
  exact ⟨by rw [journal, log]; exact same, [], [], log, journal, .none⟩

theorem refl (s : Session) : Works thread [] s s := quiet rfl

theorem trans (h : Works thread jobs s t) (h' : Works thread jobs' t u) :
    Works thread (jobs ++ jobs') s u := by
  refine ⟨?_, ?_⟩
  · have same := h'.same
    rw [h.same] at same
    exact same
  · obtain ⟨entries, events, log, journal, account⟩ := h.account
    obtain ⟨entries', events', log', journal', account'⟩ := h'.account
    exact ⟨entries' ++ entries, events' ++ events, by rw [log', log, List.append_assoc],
      by rw [journal', journal, List.append_assoc], account.append account'⟩

theorem note (thread : Thread) (s : Session) {e : Entry} (ofJobs : e.isOfJobs thread = true)
    (begun : jobsBegun [e] = []) (invoked : callbacksOf [e] = []) : Works thread [] s (s.note e) :=
  ⟨rfl, [e], [], rfl, rfl, by simpa using ofJobs, nofun, begun, rfl, invoked⟩

/-- What comes too late is no work of any job. -/
theorem belated (h : s.Belated t) : Works thread [] s t := by
  obtain ⟨events, late, journal⟩ := h.late
  obtain ⟨entries, sent, log⟩ := h.sent
  refine ⟨by rw [h.same], entries, events, log, journal, fun e mem => ?_, fun e mem => ?_, ?_, ?_,
    ?_⟩
  · have transport := sent e mem
    cases e <;> first | rfl | cases transport
  · have late := late e mem
    cases e <;> first | rfl | cases late
  · refine List.filterMap_eq_nil_iff.2 fun e mem => ?_
    have transport := sent e (List.mem_reverse.1 mem)
    cases e <;> first | rfl | cases transport
  · exact (Journal.late late).1
  · have invoked : callbacksOf entries = [] := by
      refine List.filterMap_eq_nil_iff.2 fun e mem => ?_
      have transport := sent e mem
      cases e <;> first | rfl | cases transport
    rw [invoked, (Journal.late late).2, List.map_nil]

theorem closed (h : Works thread jobs s t) (closed : s.Closed) : t.Closed := by
  rw [h.same]
  exact ⟨closed.shut, closed.closed⟩

theorem tables (h : Works thread jobs s t) :
    t.custody = s.custody ∧ t.timers = s.timers ∧ t.listeners = s.listeners ∧
      t.lanes = s.lanes := by
  rw [h.same]
  exact ⟨rfl, rfl, rfl, rfl⟩

end Works

/-! ## Actions -/

/-- Calls to the engine, where it is at hand, leave what jobs leave. -/
def AccessWorks (thread : Thread) : EngineAccess → Prop :=
  EngineAccess.All fun engine => ∀ call s, Closed s → Works thread [] s (engine thread call s).2

theorem callEngine_works {access : EngineAccess} (h : AccessWorks thread access) (call : EngineCall)
    (closed : s.Closed) : Works thread [] s (callEngine access thread call s).2 := by
  unfold callEngine
  split
  · exact .refl s
  next engine given =>
    have called := h.1 engine given call s closed
    split <;> next heq => rw [heq] at called; exact called

theorem release_works (closed : s.Closed) (key : String) :
    Works thread [] s (s.release key).2 :=
  .belated (release_belated (by simp [Lanes.accepts, closed.closed]) key)

theorem scriptResult_works (s : Session) (key : String) :
    Works thread [] s (s.scriptResult key).2 := by
  unfold scriptResult
  split
  · exact .refl s
  split
  · exact .refl s
  · exact .quiet rfl

mutual

/-- Every operation is refused. -/
theorem perform_works {access : EngineAccess} (h : AccessWorks thread access) :
    (a : Action) → {s : Session} → s.Closed → Works thread [] s (perform access thread a s).2
  | .observe tag actions, s, closed => by
    have noted := Works.note thread s (e := .observer tag thread) (by simp [Entry.isOfJobs]) rfl rfl
    have told := noted.trans (play_works h.outside actions (noted.closed closed))
    unfold perform
    cases s.readiness.ready with
    | false => exact .quiet rfl
    | true => exact told.trans (.quiet rfl)
  | .unobserve _, s, _ => .quiet rfl
  | .release key, _, closed => release_works closed key
  | .scriptResult key, s, _ => scriptResult_works s key
  | .callScript source name, _, closed => callEngine_works h (.script source name) closed
  | .callBack pair arguments, _, closed => callEngine_works h (.invoke pair arguments) closed
  | .phase _, s, _ | .locale _, s, _ | .isTimerLive _, s, _ | .readiness, s, _
  | .awaitReady, s, _ | .interval, s, _ | .statistics, s, _ | .fail _, s, _
  | .panic, s, _ => .refl s
  | .schedule .., _, closed | .cancel .., _, closed | .tick .., _, closed
  | .request .., _, closed | .on .., _, closed | .off .., _, closed | .emit .., _, closed
  | .emitFlag .., _, closed | .register _, _, closed | .post .., _, closed | .pause, _, closed
  | .unpause, _, closed | .sweep, _, closed | .guarded _, _, closed | .leakLock, _, closed
  | .script .., _, closed | .require _, _, closed | .shutdown, _, closed
  | .beginScript .., _, closed => by
    rw [(refusesAll closed.shut).operations rfl]
    exact .refl _

theorem play_works {access : EngineAccess} (h : AccessWorks thread access) :
    (actions : List Action) → {s : Session} → s.Closed →
      Works thread [] s (play access thread actions s).2
  | [], s, _ => .refl s
  | a :: rest, s, closed => by
    have first := perform_works h a closed
    unfold play
    split
    · next reply t heq =>
      rw [heq] at first
      have noted := first.trans (.note thread t (e := .did a.name reply) rfl rfl rfl)
      exact noted.trans (play_works h rest (noted.closed closed))
    · next heq => rw [heq] at first; exact first
    · next heq => rw [heq] at first; exact first

end

/-! ## The engine -/

theorem playScripted_works (actions : List Action) (closed : s.Closed) :
    Works thread [] s (playScripted thread actions s).2 := by
  have played : Works thread [] s (play .nowhere thread actions s).2 :=
    play_works EngineAccess.all_nowhere actions closed
  unfold playScripted
  split <;> next heq => rw [heq] at played; exact played

theorem runScript_works (source name : String) (closed : s.Closed) :
    Works thread [] s (runScript thread source name s).2 := by
  have noted := Works.note thread s (e := .script name source) rfl rfl rfl
  have closed := noted.closed closed
  rw [runScript_eq]
  exact noted.trans (playScripted_works _ closed)

/-- An invocation that code makes itself is on record. -/
theorem called_works (pair : Pair) (arguments : List Json.Value) (closed : s.Closed) :
    Works thread [] s ((s.record (.called pair.callback (s.invoked pair.callback))).invoke thread
      pair arguments).2 := by
  have called : Works thread [] s
      { (s.record (.called pair.callback (s.invoked pair.callback))).note
          (.invoke pair arguments thread) with
        invocations := (pair.callback, s.invoked pair.callback + 1) ::
          s.invocations.filter (·.1 != pair.callback) } :=
    ⟨rfl, [_], [_], rfl, rfl, by simp [Entry.isOfJobs], by simp [Event.isOfJobs], rfl, rfl, rfl⟩
  exact called.trans (playScripted_works _ (called.closed closed))

theorem engineAccess_works (thread : Thread) : AccessWorks thread engineAccess := by
  refine EngineAccess.all_engineAccess fun call s closed => ?_
  cases call with
  | script source name => exact runScript_works source name closed
  | invoke pair arguments => exact called_works pair arguments closed

/-! ## Jobs -/

theorem runJob_works (thread : Thread) (job : Work) (closed : s.Closed) :
    Works thread [job] s (s.runJob thread job) := by
  have begun : Works thread [job] s ((s.record (.executed job)).note (.job job.tag thread)) :=
    ⟨rfl, [_], [_], rfl, rfl, by simp [Entry.isOfJobs], by simp [Event.isOfJobs], rfl, rfl, rfl⟩
  exact begun.trans (play_works (engineAccess_works thread) job.actions (begun.closed closed))

theorem runJobs_works (thread : Thread) (jobs : List Work) (closed : s.Closed) :
    Works thread jobs s (jobs.foldl (fun s job => s.runJob thread job) s) := by
  induction jobs generalizing s with
  | nil => exact .refl s
  | cons job rest ih =>
    have first := runJob_works thread job closed
    exact first.trans (ih (first.closed closed))

theorem drainFrom_batch (free : s.lock = .free) (waiting : s.ticks.jobs ≠ [])
    (bound executed : Nat) :
    s.drainFrom (bound + 1) executed thread =
      (s.ticks.jobs.foldl (fun (s : Session) job => s.runJob thread job)
        { s with lock := ⟨some thread⟩, ticks := ⟨[], true⟩ }).unlock.drainFrom bound
          (executed + s.ticks.jobs.length) thread := by
  have some : s.ticks.jobs.isEmpty = false := by simpa using waiting
  simp [drainFrom, TickQueue.look, TickQueue.take, free, Lock.acquire, Lock.free, some]

theorem drainFrom_done (none : s.ticks.jobs = []) (bound executed : Nat) :
    s.drainFrom (bound + 1) executed thread =
      some (.emptied executed, { s with ticks := .empty }) := by
  simp [drainFrom, TickQueue.look, TickQueue.empty, none]

/-- In a session that has closed a drain runs the jobs that wait as one batch, and is done. -/
theorem drain_works (closed : s.Closed) (free : s.lock = .free) (waiting : s.ticks.jobs ≠ [])
    (bound : Nat) :
    ∃ t, s.drain (bound + 2) thread = some { t with lock := .free, ticks := .empty } ∧
      Works thread s.ticks.jobs { s with lock := ⟨some thread⟩, ticks := ⟨[], true⟩ } t := by
  have ran := @runJobs_works { s with lock := ⟨some thread⟩, ticks := ⟨[], true⟩ } thread
    s.ticks.jobs ⟨closed.shut, closed.closed⟩
  generalize batch : s.ticks.jobs.foldl (fun (s : Session) job => s.runJob thread job)
    { s with lock := ⟨some thread⟩, ticks := ⟨[], true⟩ } = t at ran
  refine ⟨t, ?_, ran⟩
  -- The jobs have enqueued no further one, so the second look finds none.
  have none : t.unlock.ticks.jobs = [] := congrArg (·.ticks.jobs) ran.same
  rw [drain, drainFrom_batch free waiting, batch, drainFrom_done none]
  rfl

end Session
end ScriptHost
