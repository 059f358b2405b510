import ScriptHost.Proofs.Mending
import ScriptHost.Proofs.Operations

/-!
# Code that is carried along

The operations on a session carry code along and never look into it: jobs, tasks and observers lie
in tables and in messages. So an operation does to the mended session, with the mended code, what it
does to the session, and answers the same.

## Main statements

* `Session.post_mend`, `Session.schedule_mend`, `Session.enqueue_mend`, … — one for each operation:
  it commutes with mending.
-/

namespace ScriptHost

namespace Custody

variable (c : Custody) (failures : Nat)

/-- Whoever is buried, failed releases are not looked at. -/
theorem bury_failures (pair : Pair) :
    ({ c with failures } : Custody).bury pair = { c.bury pair with failures } := by
  have same : ({ c with failures } : Custody).isBuried pair = c.isBuried pair := rfl
  unfold bury
  rw [same]
  split <;> rfl

theorem buryAll_failures (pairs : List Pair) :
    ({ c with failures } : Custody).buryAll pairs = { c.buryAll pairs with failures } := by
  unfold buryAll
  induction pairs generalizing c with
  | nil => rfl
  | cons pair rest ih => rw [List.foldl_cons, bury_failures, ih, List.foldl_cons]

end Custody

namespace Session

variable (chosen : Invocations) (s : Session)

theorem isLive_mend : (s.mend chosen).isLive = s.isLive := rfl

theorem admits_mend (door : Door) : (s.mend chosen).admits door = s.admits door := rfl

theorem post_mend (m : Message) :
    (s.mend chosen).post m.mend = Prod.map id (mend chosen) (s.post m) := by
  have posted := s.lanes.post_map Message.mend m
  unfold post
  rw [mend_lanes, posted]
  rfl

theorem arm_mend (delay : Nat) (m : Message) :
    (s.mend chosen).arm delay m.mend = Prod.map id (mend chosen) (s.arm delay m) := by
  have armed := s.lanes.arm_map Message.mend (s.clock + delay) m
  unfold arm
  rw [mend_lanes, mend_clock, armed]
  rfl

theorem withdraw_mend (ticket : Option Nat) :
    (s.mend chosen).withdraw ticket = (s.withdraw ticket).mend chosen := by
  cases ticket with
  | none => rfl
  | some ticket =>
    have withdrawn := s.lanes.withdraw_map Message.mend ticket
    simp only [withdraw]
    rw [mend_lanes, withdrawn]
    rfl

theorem bury_mend (p : Pair) : (s.mend chosen).bury p = (s.bury p).mend chosen :=
  congrArg (fun custody => { s.mend chosen with custody }) (s.custody.bury_failures 0 p)

theorem buryAll_mend (pairs : List Pair) :
    (s.mend chosen).buryAll pairs = (s.buryAll pairs).mend chosen :=
  congrArg (fun custody => { s.mend chosen with custody }) (s.custody.buryAll_failures 0 pairs)

/-! ## The periodic sweep -/

theorem adopt?_mend (pairs : List Pair) :
    (s.mend chosen).adopt? pairs = (s.adopt? pairs).map (mend chosen) := by
  have can : (s.mend chosen).custody.canAdopt pairs = s.custody.canAdopt pairs := rfl
  simp only [adopt?, Custody.adopt?, can]
  split <;> rfl

theorem sweepIsArmed_mend : (s.mend chosen).sweepIsArmed = s.sweepIsArmed := by
  unfold sweepIsArmed
  rw [mend_sweepTicket]
  split
  · rfl
  · exact s.lanes.isArmed_map Message.mend _

theorem armSweep_mend (periodic : Bool) :
    (s.mend chosen).armSweep periodic = (s.armSweep periodic).mend chosen := by
  have armed : (s.mend chosen).arm s.settings.cleanupInterval .sweep =
      Prod.map id (mend chosen) (s.arm s.settings.cleanupInterval .sweep) :=
    s.arm_mend chosen s.settings.cleanupInterval .sweep
  unfold armSweep
  rw [sweepIsArmed_mend]
  split
  · rfl
  · rw [mend_phase, mend_settings]
    split
    · rfl
    · rw [armed]
      rfl

theorem withdrawSweep_mend : (s.mend chosen).withdrawSweep = s.withdrawSweep.mend chosen := by
  unfold withdrawSweep
  rw [mend_sweepTicket, withdraw_mend]
  rfl

theorem pause_mend : (s.mend chosen).pause = Prod.map id (mend chosen) s.pause := by
  unfold pause
  rw [mend_phase]
  split
  · have paused := ({ s with phase := .paused } : Session).withdrawSweep_mend chosen
    exact congrArg (Prod.mk true) paused
  · rfl

theorem unpause_mend : (s.mend chosen).unpause = Prod.map id (mend chosen) s.unpause := by
  unfold unpause
  rw [mend_phase]
  split
  · have ready := ({ s with phase := .ready } : Session).armSweep_mend chosen true
    exact congrArg (Prod.mk true) ready
  · rfl

theorem sweepNow_mend : (s.mend chosen).sweepNow = Prod.map id (mend chosen) s.sweepNow := by
  unfold sweepNow
  rw [isLive_mend]
  split
  · exact s.post_mend chosen .sweep
  · rfl

/-! ## Timers -/

theorem schedule_mend (door : Door) (pair : Pair) (delay : Nat) (recurring : Bool) :
    (s.mend chosen).schedule door pair delay recurring =
      Prod.map id (mend chosen) (s.schedule door pair delay recurring) := by
  unfold schedule
  rw [admits_mend, adopt?_mend]
  split
  · rfl
  cases s.adopt? [pair] with
  | none => rfl
  | some t =>
    have armed : (t.mend chosen).arm delay (.fire t.timers.nextId) =
        Prod.map id (mend chosen) (t.arm delay (.fire t.timers.nextId)) :=
      t.arm_mend chosen delay (.fire t.timers.nextId)
    simp only [Option.map_some, mend_timers, armed]
    generalize t.arm delay (.fire t.timers.nextId) = armed
    generalize hr : armed.2.timers.schedule pair delay recurring armed.1 = entered
    simp only [Prod.map, id, mend_timers, hr]
    split
    · exact congrArg (Prod.mk _) (bury_mend chosen { armed.2 with timers := entered.2 } pair)
    · rfl

theorem cancel_mend (door : Door) (timer : Nat) :
    (s.mend chosen).cancel door timer = Prod.map id (mend chosen) (s.cancel door timer) := by
  unfold cancel
  rw [admits_mend, mend_timers]
  split
  · rfl
  rcases s.timers.cancel timer with ⟨found, timers⟩
  have withdrawn (gone : Timer) := ({ s with timers } : Session).withdraw_mend chosen gone.ticket
  cases found with
  | unknown => rfl
  | bury gone =>
    refine congrArg (Prod.mk true) ?_
    show armSweep (bury (withdraw (mend chosen { s with timers }) _) _) _ = _
    rw [withdrawn, bury_mend, armSweep_mend]
  | deferred gone =>
    refine congrArg (Prod.mk true) ?_
    show armSweep (withdraw (mend chosen { s with timers }) _) _ = _
    rw [withdrawn, armSweep_mend]

/-! ## Next-tick jobs -/

theorem postUrgent_mend (m : Message) :
    (s.mend chosen).postUrgent m.mend = Prod.map id (mend chosen) (s.postUrgent m) := by
  have posted := s.lanes.postUrgent_map Message.mend m
  unfold postUrgent
  rw [mend_lanes, posted]
  rfl

theorem startDrain_mend (owning noThreads : Bool) :
    (s.mend chosen).startDrain owning noThreads = (s.startDrain owning noThreads).mend chosen := by
  unfold startDrain
  split
  · rfl
  · exact congrArg Prod.snd (s.postUrgent_mend chosen .drain)

theorem enqueue_mend (door : Door) (thread : Thread) (noThreads : Bool) (job : Work) :
    (s.mend chosen).enqueue door thread noThreads job.mend =
      Prod.map id (mend chosen) (s.enqueue door thread noThreads job) := by
  have queued : (s.ticks.map Work.mend).enqueue job.mend =
      Prod.map id (TickQueue.map Work.mend) (s.ticks.enqueue job) := by
    simp [TickQueue.enqueue, TickQueue.isIdle, TickQueue.map]
  unfold enqueue
  rw [admits_mend, mend_ticks, queued]
  split
  · rfl
  generalize s.ticks.enqueue job = queued
  simp only [Prod.map, id]
  split
  · refine congrArg (Prod.mk _) ?_
    exact startDrain_mend chosen
      (({ s with ticks := queued.2 } : Session).record (.accepted job)) _ noThreads
  · rfl

/-! ## Requests -/

theorem complete_mend (call : Call) (completion : Completion) :
    (s.mend chosen).complete call completion =
      Prod.map id (mend chosen) (s.complete call completion) := by
  have posted : (s.mend chosen).post (.complete call completion) =
      Prod.map id (mend chosen) (s.post (.complete call completion)) :=
    s.post_mend chosen (.complete call completion)
  unfold complete
  rw [posted]
  rcases s.post (.complete call completion) with ⟨taken, t⟩
  cases taken <;> rfl

theorem conclude_mend (call : Call) (completion : Completion) :
    (s.mend chosen).conclude call completion = (s.conclude call completion).mend chosen := by
  unfold conclude
  rw [complete_mend]
  rcases s.complete call completion with ⟨taken, t⟩
  cases taken <;> rfl

theorem hasWorker_mend : (s.mend chosen).hasWorker = s.hasWorker := rfl

theorem execute_mend (errand : Errand) :
    (s.mend chosen).execute errand = (s.execute errand).mend chosen := by
  cases transport : s.program.hasTransport with
  | false =>
    have transport' : (s.mend chosen).program.hasTransport = false := transport
    rw [execute_of_not_transport transport, execute_of_not_transport transport', ← conclude_mend]
    rfl
  | true =>
    have transport' : (s.mend chosen).program.hasTransport = true := transport
    rw [execute_of_transport transport, execute_of_transport transport']
    cases errand.order.hold with
    | none =>
      dsimp only
      rw [← conclude_mend]
      rfl
    | some key => rfl

theorem assign_mend (errand : Errand) :
    (s.mend chosen).assign errand = (s.assign errand).mend chosen := by
  unfold assign
  rw [hasWorker_mend, execute_mend]
  split <;> rfl

theorem dispatch_mend (errand : Errand) :
    (s.mend chosen).dispatch errand = (s.dispatch errand).mend chosen :=
  assign_mend chosen
    (({ s with traffic := { s.traffic with
      inFlight := s.traffic.inFlight + 1
      dispatched := s.traffic.dispatched + 1 } } : Session).record (.issued errand.call)) errand

theorem employ_mend : (s.mend chosen).employ = s.employ.mend chosen := by
  have assigned (errands : List Errand) (t : Session) :
      errands.foldl assign (t.mend chosen) = (errands.foldl assign t).mend chosen := by
    induction errands generalizing t with
    | nil => rfl
    | cons errand rest ih => rw [List.foldl_cons, assign_mend, ih, List.foldl_cons]
  exact assigned s.errands { s with errands := [] }

theorem startRequest_mend (noThreads : Bool) (order : Order) :
    (s.mend chosen).startRequest noThreads order =
      Prod.map id (mend chosen) (s.startRequest noThreads order) := by
  have resolve : (s.mend chosen).program.resolve = s.program.resolve := rfl
  unfold startRequest
  dsimp only
  rw [resolve]
  cases order.request.prepareWith s.program.resolve with
  | error _ =>
    have completed (call : Call) (traffic : Traffic) :
        ({ s.mend chosen with traffic } : Session).complete call .clientFailure =
          Prod.map id (mend chosen) (({ s with traffic } : Session).complete call .clientFailure) :=
      complete_mend chosen { s with traffic } call .clientFailure
    dsimp only
    rw [mend_traffic, completed]
    generalize ({ s with traffic := _ } : Session).complete _ _ = done
    rcases done with ⟨taken, t⟩
    cases taken <;> rfl
  | ok prepared =>
    cases noThreads with
    | true => rfl
    | false =>
      exact congrArg (Prod.mk _) (dispatch_mend chosen
        { s with traffic := { s.traffic with nextId := s.traffic.nextId + 1 } }
        ⟨_, prepared, order⟩)

theorem issue_mend (door : Door) (noThreads : Bool) (order : Order) :
    (s.mend chosen).issue door noThreads order =
      Prod.map id (mend chosen) (s.issue door noThreads order) := by
  unfold issue
  dsimp only
  rw [admits_mend, adopt?_mend]
  split
  · rfl
  cases s.adopt? [⟨order.onSuccess, order.receiver⟩, ⟨order.onError, order.receiver⟩] with
  | none => rfl
  | some t =>
    simp only [Option.map_some, startRequest_mend]
    generalize t.startRequest noThreads order = started
    simp only [Prod.map, id]
    split
    · exact congrArg (Prod.mk _) (buryAll_mend chosen started.2 _)
    · rfl

theorem release_mend (key : String) :
    (s.mend chosen).release key = Prod.map id (mend chosen) (s.release key) := by
  have concluded (due : List (String × Call × Completion)) (t : Session) :
      due.foldl (fun s entry => s.conclude entry.2.1 entry.2.2) (t.mend chosen) =
        (due.foldl (fun s entry => s.conclude entry.2.1 entry.2.2) t).mend chosen := by
    induction due generalizing t with
    | nil => rfl
    | cons entry rest ih => rw [List.foldl_cons, conclude_mend, ih, List.foldl_cons]
  refine congrArg (Prod.mk _) ?_
  rw [← employ_mend]
  exact congrArg employ (concluded _ { s with held := s.held.filter (·.1 != key) })

/-! ## Events and other messages -/

theorem listen_mend (door : Door) (event : String) (pair : Pair) :
    (s.mend chosen).listen door event pair =
      Prod.map id (mend chosen) (s.listen door event pair) := by
  unfold listen
  rw [admits_mend, adopt?_mend]
  split
  · rfl
  cases s.adopt? [pair] with
  | none => rfl
  | some t => rfl

theorem unlisten_mend (door : Door) (event : String) :
    (s.mend chosen).unlisten door event = Prod.map id (mend chosen) (s.unlisten door event) := by
  have buried := buryAll_mend chosen { s with listeners := s.listeners.off event }
    (s.listeners.of event)
  unfold unlisten
  rw [admits_mend]
  split
  · rfl
  dsimp only
  rw [mend_listeners]
  rw [show buryAll { s.mend chosen with listeners := s.listeners.off event } _ = _ from buried]
  split
  · rfl
  · exact congrArg (Prod.mk _) (armSweep_mend chosen _ false)

theorem emit_mend (event : String) (value : Json.Value) :
    (s.mend chosen).emit event value = Prod.map id (mend chosen) (s.emit event value) := by
  unfold emit
  rw [isLive_mend]
  split
  · exact s.post_mend chosen (.emit event value)
  · rfl

theorem registerModule_mend (name : String) :
    (s.mend chosen).registerModule name = Prod.map id (mend chosen) (s.registerModule name) := by
  unfold registerModule
  rw [isLive_mend]
  split
  · rfl
  rw [mend_backlog]
  split
  · exact s.post_mend chosen (.register name)
  · rfl

theorem postWork_mend (delay : Nat) (work : Work) :
    (s.mend chosen).postWork delay work.mend =
      Prod.map id (mend chosen) (s.postWork delay work) := by
  have armed : (s.mend chosen).arm delay (.task work.mend) =
      Prod.map id (mend chosen) (s.arm delay (.task work)) := s.arm_mend chosen delay (.task work)
  unfold postWork
  rw [isLive_mend]
  split
  · rfl
  split
  · exact s.post_mend chosen (.task work)
  · rw [armed]
    rfl

/-! ## Messages that are answered -/

theorem ask_mend {message : Nat → Message} (h : ∀ query, (message query).mend = message query) :
    (s.mend chosen).ask message = Prod.map id (mend chosen) (s.ask message) := by
  have posted : (s.mend chosen).post (message s.nextQuery) =
      Prod.map id (mend chosen) (s.post (message s.nextQuery)) := by
    rw [← s.post_mend chosen, h]
  unfold ask
  rw [isLive_mend]
  split
  · rfl
  dsimp only
  rw [mend_nextQuery, posted]
  rcases s.post (message s.nextQuery) with ⟨taken, t⟩
  cases taken <;> rfl

theorem askScript_mend (source name : String) :
    (s.mend chosen).askScript source name =
      Prod.map id (mend chosen) (s.askScript source name) :=
  s.ask_mend chosen fun _ => rfl

theorem askRequire_mend (path : String) :
    (s.mend chosen).askRequire path = Prod.map id (mend chosen) (s.askRequire path) :=
  s.ask_mend chosen fun _ => rfl

theorem beginShutdown_mend (query : Option Nat) :
    (s.mend chosen).beginShutdown query =
      Prod.map id (mend chosen) (s.beginShutdown query) := by
  have withdrawn := withdrawSweep_mend chosen { s with phase := .shuttingDown }
  unfold beginShutdown
  rw [isLive_mend]
  split
  · rfl
  dsimp only
  rw [show withdrawSweep { s.mend chosen with phase := .shuttingDown } = _ from withdrawn]
  generalize withdrawSweep { s with phase := .shuttingDown } = t
  have posted : (t.lanes.map Message.mend).postLast (.shutdown query) =
      Prod.map id (Lanes.map Message.mend) (t.lanes.postLast (.shutdown query)) :=
    t.lanes.postLast_map Message.mend (.shutdown query)
  rw [mend_lanes, posted]
  rfl

theorem askShutdown_mend :
    (s.mend chosen).askShutdown = Prod.map id (mend chosen) s.askShutdown := by
  unfold askShutdown
  dsimp only
  rw [mend_nextQuery, beginShutdown_mend]
  rcases s.beginShutdown (some s.nextQuery) with ⟨begun, t⟩
  cases begun <;> rfl

theorem beginScript_mend (key source name : String) :
    (s.mend chosen).beginScript key source name =
      Prod.map Reply.blur (mend chosen) (s.beginScript key source name) := by
  unfold beginScript
  rw [askScript_mend]
  rcases s.askScript source name with ⟨asked, t⟩
  cases asked <;> rfl

theorem answerOf_mend (query : Nat) : (s.mend chosen).answerOf query = (s.answerOf query).blur := by
  have known : (s.mend chosen).answerOf query = s.answerOf query := rfl
  rw [known]
  unfold answerOf
  split
  · rfl
  · rfl
  · split <;> rfl

theorem scriptResult_mend (key : String) :
    (s.mend chosen).scriptResult key = Prod.map Reply.blur (mend chosen) (s.scriptResult key) := by
  unfold scriptResult
  rw [mend_keys]
  split
  · rfl
  next query _ =>
  have known : (s.mend chosen).answerOf query = s.answerOf query := rfl
  have blurred := s.answerOf_mend chosen query
  rw [known] at blurred ⊢
  split
  · rfl
  · exact congrArg (Prod.mk · _) blurred

/-! ## Counters -/

theorem statistics_mend : (s.mend chosen).statistics = s.statistics.blur := by
  simp [statistics, Statistics.blur, TickQueue.map, mend]

/-! ## The execution lock -/

theorem takeLock_mend (thread : Thread) :
    takeLock thread (s.mend chosen) =
      ((takeLock thread s).mapError Reply.blur).map (mend chosen) := by
  unfold takeLock
  rw [isLive_mend]
  split
  · rfl
  rw [mend_lock]
  split <;> rfl

end Session
end ScriptHost
