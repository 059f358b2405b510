import ScriptHost.Proofs.Operations

/-!
# Properties that operations keep

What code does to a session comes down to a few edits: something is counted or written down, a
message is posted or armed, something is put into a table or taken from it. A property that the
edits of an operation keep is kept by the operation. A statement about all operations is proved edit
by edit, then, and the operations are taken apart here only.

## Main definitions

* `Session.KeptByCustody` — the edits by which pairs come and go.
* `Session.KeptByCompletions`, `Session.KeptByWorkers`, `Session.KeptByRequests` — those of
  requests.
* `Session.KeptBySweeps` — those of the periodic sweep.
* `Session.KeptByListening`, `Session.KeptByTables` — those of listeners, and of timers with them.
* `Session.KeptByEnqueuing` — those of next-tick jobs.
* `Session.KeptByEdits` — all of them.

## Main statements

* `Session.KeptByRequests.issue`, `Session.KeptByTables.cancel`, … — what the edits keep is kept by
  the operations.
* `Session.KeptByEdits.deeds` — and by whatever code does.
-/

namespace ScriptHost
namespace Session

variable {s t : Session}

/-! ## Requests -/

/-- A property that is kept when pairs come into custody, and when they are put in line. -/
structure KeptByCustody (P : Session → Prop) : Prop where
  registered : ∀ {s : Session} pairs, P s → P ({ s with
    custody.live := s.custody.live ++ pairs }.record (.registered pairs))
  buried : ∀ {s} pairs, P s → P (s.buryAll pairs)

/-- A property that completions keep: it does not depend on how many requests are in flight or which
of them are held back. -/
structure KeptByCompletions (P : Session → Prop) : Prop where
  counted : ∀ {s} traffic, P s → P { s with traffic := traffic }
  held : ∀ {s} held, P s → P { s with held := held }
  posted : ∀ {s} call completion, P s → P (s.post (.complete call completion)).2
  dropped : ∀ {s} call, P s → P (s.record (.dropped call))

/-- A property that workers keep: it does not depend on which requests go to the transport and which
of them wait. -/
structure KeptByWorkers (P : Session → Prop) : Prop extends KeptByCompletions P where
  errands : ∀ {s} errands, P s → P { s with errands := errands }
  transported : ∀ {s} prepared, P s → P (s.note (.transport prepared))
  sent : ∀ {s} call, P s → P (s.record (.sent call))

/-- A property that requests keep from the beginning, with the pairs that come into custody for
them. -/
structure KeptByRequests (P : Session → Prop) : Prop extends KeptByWorkers P, KeptByCustody P where
  issued : ∀ {s} call, P s → P (s.record (.issued call))

theorem KeptByCustody.adopt {P : Session → Prop} (k : KeptByCustody P) {pairs : List Pair}
    (adopted : s.adopt? pairs = some t) (h : P s) : P t := by
  obtain ⟨-, rfl⟩ := adopt?_eq_some.1 adopted
  exact k.registered pairs h

namespace KeptByCompletions

variable {P : Session → Prop} (k : KeptByCompletions P)
include k

theorem complete (call : Call) (completion : Completion) (h : P s) :
    P (s.complete call completion).2 := by
  have posted := k.posted call completion h
  unfold Session.complete
  split
  · next heq => rwa [heq] at posted
  · next heq =>
    rw [heq] at posted
    exact k.counted _ posted

theorem conclude (call : Call) (completion : Completion) (h : P s) :
    P (s.conclude call completion) := by
  have completed := k.complete call completion h
  unfold Session.conclude
  split
  · next heq => rwa [heq] at completed
  · next heq =>
    rw [heq] at completed
    exact k.dropped call completed

end KeptByCompletions

namespace KeptByWorkers

variable {P : Session → Prop} (k : KeptByWorkers P)
include k

theorem execute (errand : Errand) (h : P s) : P (s.execute errand) := by
  cases transport : s.program.hasTransport with
  | false =>
    rw [execute_of_not_transport transport]
    exact k.conclude errand.call _ (k.sent errand.call h)
  | true =>
    have called := k.sent errand.call (k.transported errand.prepared h)
    rw [execute_of_transport transport]
    cases errand.order.hold with
    | some key => exact k.held _ called
    | none => exact k.conclude errand.call _ called

theorem assign (errand : Errand) (h : P s) : P (s.assign errand) := by
  rcases assign_cases s errand with ⟨-, eq⟩ | ⟨-, eq⟩ <;> rw [eq]
  · exact k.execute errand h
  · exact k.errands _ h

theorem employ (h : P s) : P s.employ :=
  List.foldlRecOn s.errands Session.assign (k.errands [] h) fun _ kept errand _ =>
    k.assign errand kept

theorem release (key : String) (h : P s) : P (s.release key).2 :=
  k.employ (List.foldlRecOn (s.held.filter (·.1 == key)) _ (k.held _ h) fun _ kept entry _ =>
    k.conclude entry.2.1 entry.2.2 kept)

end KeptByWorkers

namespace KeptByRequests

variable {P : Session → Prop} (k : KeptByRequests P)
include k

theorem dispatch (errand : Errand) (h : P s) : P (s.dispatch errand) :=
  k.assign errand (k.issued errand.call (k.counted _ h))

theorem startRequest (noThreads : Bool) (order : Order) (h : P s) :
    P (s.startRequest noThreads order).2 := by
  unfold Session.startRequest
  dsimp only
  split
  · -- A malformed request is answered before it is on record.
    have completed := k.complete (order.call s.traffic.nextId) .clientFailure
      (k.counted { s.traffic with
        nextId := s.traffic.nextId + 1
        inFlight := s.traffic.inFlight + 1
        rejected := s.traffic.rejected + 1 } h)
    split
    · next heq =>
      rw [heq] at completed
      exact k.issued _ completed
    · next heq => rwa [heq] at completed
  · split
    · exact k.counted _ h
    · exact k.dispatch _ (k.counted _ h)

theorem issue (door : Door) (noThreads : Bool) (order : Order) (h : P s) :
    P (s.issue door noThreads order).2 := by
  rcases issue_cases s door noThreads order with eq | ⟨t, -, adopted, eq⟩ <;> rw [eq]
  · exact h
  · have started := k.startRequest noThreads order (k.adopt adopted h)
    split
    · exact k.buried _ started
    · exact started

end KeptByRequests

/-! ## The periodic sweep -/

/-- A property that the periodic sweep keeps: it does not depend on the sweep that is armed or on
the phase. -/
structure KeptBySweeps (P : Session → Prop) : Prop where
  sweepArmed : ∀ {s} delay, P s → P (s.arm delay .sweep).2
  withdrawn : ∀ {s} ticket, P s → P (s.withdraw ticket)
  ticketed : ∀ {s} ticket, P s → P { s with sweepTicket := ticket }
  entered : ∀ {s} phase, P s → P { s with phase := phase }

namespace KeptBySweeps

variable {P : Session → Prop} (k : KeptBySweeps P)
include k

theorem armSweep (periodic : Bool) (h : P s) : P (s.armSweep periodic) := by
  rcases armSweep_cases s periodic with eq | eq | ⟨-, eq⟩ <;> rw [eq]
  · exact h
  · exact k.ticketed none h
  · exact k.ticketed _ (k.sweepArmed _ h)

theorem withdrawSweep (h : P s) : P s.withdrawSweep := k.ticketed none (k.withdrawn _ h)

theorem pause (h : P s) : P s.pause.2 := by
  rcases pause_cases s with eq | ⟨-, eq⟩ <;> rw [eq]
  · exact h
  · exact k.withdrawSweep (k.entered .paused h)

theorem unpause (h : P s) : P s.unpause.2 := by
  rcases unpause_cases s with eq | ⟨-, eq⟩ <;> rw [eq]
  · exact h
  · exact k.armSweep true (k.entered .ready h)

/-- The shutdown calls the sweep off and closes the queue, behind the last message unless nobody
takes it any more. -/
theorem beginShutdown {query : Option Nat}
    (last : ∀ {t : Session}, P t → P { t with
      lanes.ordinary := t.lanes.ordinary ++ [.shutdown query]
      lanes.closed := true })
    (shut : ∀ {t : Session}, P t → P { t with lanes.closed := true }) (h : P s) :
    P (s.beginShutdown query).2 := by
  have withdrawn := k.withdrawSweep (k.entered .shuttingDown h)
  rcases beginShutdown_cases s query with eq | ⟨-, ⟨-, eq⟩ | ⟨-, eq⟩⟩ <;> rw [eq]
  · exact h
  · exact last withdrawn
  · exact shut withdrawn

end KeptBySweeps

/-! ## Listeners and timers -/

/-- A property that does not depend on who listens. -/
structure KeptByListening (P : Session → Prop) : Prop extends KeptByCustody P, KeptBySweeps P where
  listeners : ∀ {s} listeners, P s → P { s with listeners := listeners }

/-- A property that depends neither on listeners nor on timers. -/
structure KeptByTables (P : Session → Prop) : Prop extends KeptByListening P where
  firingArmed : ∀ {s} delay id, P s → P (s.arm delay (.fire id)).2
  timers : ∀ {s} timers, P s → P { s with timers := timers }

namespace KeptByListening

variable {P : Session → Prop} (k : KeptByListening P)
include k

theorem listen (door : Door) (event : String) (pair : Pair) (h : P s) :
    P (s.listen door event pair).2 := by
  rcases listen_cases s door event pair with eq | ⟨t, -, adopted, eq⟩ <;> rw [eq]
  · exact h
  · exact k.listeners _ (k.adopt adopted h)

theorem unlisten (door : Door) (event : String) (h : P s) : P (s.unlisten door event).2 := by
  have buried := k.buried (s.listeners.of event) (k.listeners (s.listeners.off event) h)
  rcases unlisten_cases s door event with eq | eq | eq <;> rw [eq]
  · exact h
  · exact buried
  · exact k.armSweep false buried

end KeptByListening

namespace KeptByTables

variable {P : Session → Prop} (k : KeptByTables P)
include k

theorem schedule (door : Door) (pair : Pair) (delay : Nat) (recurring : Bool) (h : P s) :
    P (s.schedule door pair delay recurring).2 := by
  rcases schedule_cases s door pair delay recurring with eq | ⟨t, -, adopted, eq⟩ <;> rw [eq]
  · exact h
  · exact k.timers _ (k.firingArmed delay _ (k.adopt adopted h))

theorem cancel (door : Door) (id : Nat) (h : P s) : P (s.cancel door id).2 := by
  rcases cancel_cases s door id with eq | ⟨timer, -, cases⟩
  · rw [eq]
    exact h
  have withdrawn := k.withdrawn timer.ticket (k.timers (s.timers.remove id) h)
  rcases cases with ⟨-, eq⟩ | ⟨-, eq⟩ <;> rw [eq]
  · exact k.armSweep false withdrawn
  · exact k.armSweep false (k.buried [timer.pair] withdrawn)

end KeptByTables

/-! ## Next-tick jobs -/

/-- A property that enqueuing a job keeps, whoever is to drain it. -/
structure KeptByEnqueuing (P : Session → Prop) : Prop where
  ticks : ∀ {s} ticks, P s → P { s with ticks := ticks }
  helpers : ∀ {s} helpers, P s → P { s with helpers := helpers }
  accepted : ∀ {s} job, P s → P (s.record (.accepted job))
  urged : ∀ {s}, P s → P (s.postUrgent .drain).2

theorem KeptByEnqueuing.enqueue {P : Session → Prop} (k : KeptByEnqueuing P) (door : Door)
    (thread : Thread) (noThreads : Bool) (job : Work) (h : P s) :
    P (s.enqueue door thread noThreads job).2 := by
  have accepted := k.accepted job (k.ticks { s.ticks with jobs := s.ticks.jobs ++ [job] } h)
  rcases enqueue_cases s door thread noThreads job with eq | ⟨-, ⟨-, eq⟩ | ⟨-, eq | eq⟩⟩ <;> rw [eq]
  · exact h
  · exact accepted
  · exact k.helpers _ accepted
  · exact k.urged accepted

/-! ## Deeds -/

/-- A property that all edits keep. -/
structure KeptByEdits (P : Session → Prop) : Prop extends
    KeptByTables P, KeptByRequests P, KeptByEnqueuing P where
  aside : ∀ {s t}, Aside s t → P s → P t
  plain : ∀ {s m}, m.isPlain = true → P s → P (s.post m).2
  taskArmed : ∀ {s} delay work, P s → P (s.arm delay (.task work)).2
  shut : ∀ {s} query, P s → P (s.beginShutdown query).2
  locked : ∀ {s} lock, P s → P { s with lock := lock }
  called : ∀ {s} callback before, P s → P (s.record (.called callback before))

/-- What all edits keep is kept by whatever code does. -/
theorem KeptByEdits.deeds {P : Session → Prop} (k : KeptByEdits P) {thread : Thread}
    (d : Deeds thread s t) (h : P s) : P t := by
  induction d with
  | none s => exact h
  | trans _ _ ih ih' => exact ih' (ih h)
  | aside aside => exact k.aside aside h
  | post s plain => exact k.plain plain h
  | arm s delay work => exact k.taskArmed delay work h
  | schedule s door pair delay recurring => exact k.schedule door pair delay recurring h
  | cancel s door id => exact k.cancel door id h
  | enqueue s door noThreads job => exact k.enqueue door thread noThreads job h
  | issue s door noThreads order => exact k.issue door noThreads order h
  | release s key => exact k.release key h
  | listen s door event pair => exact k.listen door event pair h
  | unlisten s door event => exact k.unlisten door event h
  | pause s => exact k.pause h
  | unpause s => exact k.unpause h
  | shutdown s query => exact k.shut query h
  | guarded take _ ih =>
    obtain ⟨-, -, rfl⟩ := takeLock_eq_ok.1 take
    exact k.locked .free (ih (k.locked _ h))
  | leak take =>
    obtain ⟨-, -, rfl⟩ := takeLock_eq_ok.1 take
    exact k.locked _ h
  | called s callback before => exact k.called callback before h

end Session
end ScriptHost
