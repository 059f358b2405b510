import ScriptHost.Proofs.Course
import ScriptHost.Proofs.Ledger
import ScriptHost.Proofs.Queue

/-!
# Who owns the pairs of a session

## Main definitions

* `Session.ledger` — the pairs in custody and their owners.
* `Session.Owned` — the ledger is balanced; `Session.Owing` — it is if some more requests count as
  being on their way.

## Main statements

* `Session.Deeds.owned` — code keeps the ledger balanced.
* `Session.Reached.owned` — so does the loop.
-/

namespace ScriptHost

open Ledger (Balanced)

/-- The request that a message completes. -/
def Message.call? : Message → Option Call
  | .complete call _ => some call
  | _ => none

namespace Session

variable {s t : Session}

/-- The requests whose completions are in a queue. -/
def callsIn (lanes : Lanes Message) : List Call := lanes.messages.filterMap Message.call?

/-- The pairs in custody and what owns them. -/
def ledger (s : Session) : Ledger where
  live := s.custody.live
  buried := s.custody.buried
  timers := s.timers
  listeners := s.listeners
  outstanding := s.journal.outstanding
  dropped := s.journal.dropped
  underway := s.errands.map Errand.call ++ s.held.map (·.2.1) ++ callsIn s.lanes
  inFlight := s.traffic.inFlight
  registered := s.journal.registered
  swept := s.journal.swept
  refused := s.journal.refused
  disposed := disposals s.log

/-- Every pair in custody has one owner, and some pairs are still in custody. -/
structure Owned (fired : Option Timer) (hand base : List Pair) (s : Session) : Prop where
  balanced : s.ledger.Balanced fired hand
  based : base ⊆ s.custody.live

section
variable {fired : Option Timer} {hand base : List Pair}

/-! ## The queue and the log -/

theorem callsIn_le {lanes : Lanes Message} {m : Message} (quiet : m.call? = none)
    (perm : lanes.messages.Perm (m :: s.lanes.messages)) (c : Call) :
    (callsIn lanes).count c ≤ (callsIn s.lanes).count c := by
  have same := (perm.filterMap Message.call?).count_eq c
  rw [List.filterMap_cons_none quiet] at same
  exact Nat.le_of_eq same

theorem callsIn_complete (l : Lanes Message) (call : Call) (completion : Completion) :
    (callsIn { l with ordinary := l.ordinary ++ [.complete call completion] }).Perm
      (call :: callsIn l) :=
  (Lanes.messages_post l (.complete call completion)).filterMap Message.call?

/-- Messages may come and go, as long as no completion comes. -/
theorem Owned.lanes (h : Owned fired hand base s) {lanes : Lanes Message}
    (le : ∀ c, (callsIn lanes).count c ≤ (callsIn s.lanes).count c) :
    Owned fired hand base { s with lanes := lanes } := by
  refine ⟨h.balanced.underway fun c => ?_, h.based⟩
  have le := le c
  simp only [ledger, List.count_append]
  omega

theorem Owned.post (h : Owned fired hand base s) {m : Message} (quiet : m.call? = none) :
    Owned fired hand base (s.post m).2 := by
  rcases post_cases s m with eq | ⟨-, eq⟩ <;> rw [eq]
  · exact h
  · exact h.lanes (callsIn_le quiet (Lanes.messages_post ..))

theorem Owned.postUrgent (h : Owned fired hand base s) {m : Message} (quiet : m.call? = none) :
    Owned fired hand base (s.postUrgent m).2 := by
  rcases postUrgent_cases s m with eq | ⟨-, eq⟩ <;> rw [eq]
  · exact h
  · exact h.lanes (callsIn_le quiet (Lanes.messages_postUrgent ..))

theorem Owned.arm (h : Owned fired hand base s) (delay : Nat) {m : Message}
    (quiet : m.call? = none) : Owned fired hand base (s.arm delay m).2 := by
  rcases arm_cases s delay m with eq | ⟨-, eq⟩ <;> rw [eq]
  · exact h
  · exact h.lanes (callsIn_le quiet (Lanes.messages_arm ..))

theorem Owned.alarms (h : Owned fired hand base s) {alarms : List (Alarm Message)}
    (sub : alarms.Sublist s.lanes.alarms) :
    Owned fired hand base { s with lanes.alarms := alarms } :=
  h.lanes fun c => ((Lanes.messages_alarms sub).filterMap Message.call?).count_le c

theorem Owned.withdraw (h : Owned fired hand base s) (ticket : Option Nat) :
    Owned fired hand base (s.withdraw ticket) := by
  rw [withdraw_eq]
  exact h.alarms List.filter_sublist

theorem owned_sweeps : KeptBySweeps (Owned fired hand base) where
  sweepArmed delay h := h.arm delay rfl
  withdrawn ticket h := h.withdraw ticket
  ticketed _ h := ⟨h.balanced, h.based⟩
  entered _ h := ⟨h.balanced, h.based⟩

theorem owned_enqueuing : KeptByEnqueuing (Owned fired hand base) where
  ticks _ h := ⟨h.balanced, h.based⟩
  helpers _ h := ⟨h.balanced, h.based⟩
  accepted _ h := ⟨h.balanced, h.based⟩
  urged h := h.postUrgent rfl

theorem disposals_append {entries : List Entry} (code : ∀ e ∈ entries, e.byCode = true)
    (log : List Entry) : disposals (entries ++ log) = disposals log := by
  have none : disposals entries = [] := by
    refine List.filterMap_eq_nil_iff.2 fun e mem => ?_
    have code := code e (List.mem_reverse.1 mem)
    cases e with
    | dispose pair => cases code
    | _ => rfl
  simp only [disposals, List.reverse_append, List.filterMap_append] at none ⊢
  rw [none, List.append_nil]

theorem Owned.noted (h : Owned fired hand base s) {entries : List Entry}
    (code : ∀ e ∈ entries, e.byCode = true) :
    Owned fired hand base { s with log := entries ++ s.log } :=
  ⟨{ h.balanced with disposed := (disposals_append code s.log).trans h.balanced.disposed },
    h.based⟩

/-! ## Moves -/

theorem Owned.adopt {pairs : List Pair} (h : Owned fired hand base s)
    (adopted : s.adopt? pairs = some t) : Owned fired (pairs ++ hand) base t := by
  obtain ⟨can, rfl⟩ := adopt?_eq_some.1 adopted
  simp only [Custody.canAdopt, Bool.and_eq_true, decide_eq_true_eq, List.all_eq_true,
    Bool.not_eq_true', Custody.isLive, List.contains_eq_mem, decide_eq_false_iff_not] at can
  exact ⟨h.balanced.adopt can.1 can.2, fun _ mem => List.mem_append_left _ (h.based mem)⟩

theorem Owned.bury {pair : Pair} (h : Owned fired (pair :: hand) base s) :
    Owned fired hand base (s.bury pair) := by
  have fresh : s.custody.isBuried pair = false := by
    have fresh : pair ∉ s.custody.buried := h.balanced.not_buried (List.mem_cons_self ..)
    simpa [Custody.isBuried] using fresh
  simp only [Session.bury, Custody.bury, fresh, Bool.false_eq_true, if_false]
  exact ⟨h.balanced.bury, h.based⟩

theorem Owned.buryAll {pairs : List Pair} (h : Owned fired (pairs ++ hand) base s) :
    Owned fired hand base (s.buryAll pairs) := by
  induction pairs generalizing s with
  | nil => exact h
  | cons pair rest ih => exact ih h.bury

theorem Owned.schedule (h : Owned fired hand base s) (door : Door) (pair : Pair) (delay : Nat)
    (recurring : Bool) : Owned fired hand base (s.schedule door pair delay recurring).2 := by
  rcases schedule_cases s door pair delay recurring with eq | ⟨t, -, adopted, eq⟩ <;> rw [eq]
  · exact h
  · have armed := (h.adopt adopted).arm delay (m := .fire t.timers.nextId) rfl
    have timers : (t.arm delay (.fire t.timers.nextId)).2.timers = t.timers := rfl
    have entered := armed.balanced.schedule delay recurring t.lanes.nextTicket
    exact ⟨entered, armed.based⟩

theorem Owned.cancel (h : Owned fired hand base s) (door : Door) (id : Nat) :
    Owned fired hand base (s.cancel door id).2 := by
  rcases cancel_cases s door id with eq | ⟨timer, found, ⟨running, eq⟩ | ⟨resting, eq⟩⟩ <;> rw [eq]
  · exact h
  · obtain ⟨mem, rfl⟩ := Ledger.find?_mem found
    have removed : Owned fired hand base { s with timers := s.timers.remove timer.id } :=
      ⟨h.balanced.cancel_firing mem running, h.based⟩
    exact owned_sweeps.armSweep false (removed.withdraw timer.ticket)
  · obtain ⟨mem, rfl⟩ := Ledger.find?_mem found
    have removed : Owned fired (timer.pair :: hand) base
        { s with timers := s.timers.remove timer.id } :=
      ⟨h.balanced.cancel mem resting, h.based⟩
    exact owned_sweeps.armSweep false (removed.withdraw timer.ticket).bury

theorem Owned.listen (h : Owned fired hand base s) (door : Door) (event : String) (pair : Pair) :
    Owned fired hand base (s.listen door event pair).2 := by
  rcases listen_cases s door event pair with eq | ⟨t, -, adopted, eq⟩ <;> rw [eq]
  · exact h
  · have adopted := h.adopt adopted
    exact ⟨adopted.balanced.listen event, adopted.based⟩

theorem Owned.unlisten (h : Owned fired hand base s) (door : Door) (event : String) :
    Owned fired hand base (s.unlisten door event).2 := by
  have removed : Owned fired (s.listeners.of event ++ hand) base
      { s with listeners := s.listeners.off event } :=
    ⟨h.balanced.unlisten event, h.based⟩
  rcases unlisten_cases s door event with eq | eq | eq <;> rw [eq]
  · exact h
  · exact removed.buryAll
  · exact owned_sweeps.armSweep false removed.buryAll

/-! ## Requests -/

/-- The ledger is balanced if some more requests count as being on their way. -/
structure Owing (fired : Option Timer) (hand base : List Pair) (calls : List Call) (s : Session) :
    Prop where
  balanced : ({ s.ledger with underway := calls ++ s.ledger.underway } : Ledger).Balanced fired hand
  based : base ⊆ s.custody.live

theorem Owing.owned (h : Owing fired hand base [] s) : Owned fired hand base s :=
  ⟨h.balanced, h.based⟩

theorem Owing.underway {calls calls' : List Call} (h : Owing fired hand base calls s)
    (le : ∀ c, calls'.count c + t.ledger.underway.count c ≤
      calls.count c + s.ledger.underway.count c)
    (same : { t.ledger with underway := [] } = { s.ledger with underway := [] })
    (custody : t.custody.live = s.custody.live) : Owing fired hand base calls' t := by
  have fewer (c : Call) : (calls' ++ t.ledger.underway).count c ≤
      (calls ++ s.ledger.underway).count c := by
    have le := le c
    simp only [List.count_append]
    omega
  have balanced := h.balanced.underway fewer
  refine ⟨?_, custody ▸ h.based⟩
  have moved := congrArg (fun b : Ledger => { b with underway := calls' ++ t.ledger.underway }) same
  exact moved ▸ balanced

/-- A completion reaches the queue, or its request waits in vain; others are still to follow. -/
theorem Owing.conclude {call : Call} {calls : List Call}
    (h : Owing fired hand base (call :: calls) s) (completion : Completion) :
    Owing fired hand base calls (s.conclude call completion) := by
  rcases conclude_cases s call completion with ⟨-, eq⟩ | ⟨-, eq⟩ <;> rw [eq]
  · refine h.underway (fun c => ?_) rfl rfl
    have posted := (callsIn_complete s.lanes call completion).count_eq c
    simp only [ledger, List.count_append, List.count_cons] at posted ⊢
    omega
  · exact ⟨h.balanced.drop (.refl _), h.based⟩

/-- A worker takes a request; its completion is held back, or concludes it at once. -/
theorem Owing.execute {errand : Errand} {calls : List Call}
    (h : Owing fired hand base (errand.call :: calls) s) :
    Owing fired hand base calls (s.execute errand) := by
  obtain ⟨entries, called, eq⟩ := execute_cases s errand
  have disposed := disposals_append
    (fun e mem => Entry.byCode_of_isTransport (called e mem)) s.log
  have sent : Owing fired hand base (errand.call :: calls)
      (({ s with log := entries ++ s.log } : Session).record (.sent errand.call)) :=
    ⟨{ h.balanced with disposed := disposed.trans h.balanced.disposed }, h.based⟩
  rcases eq with ⟨key, eq⟩ | eq <;> rw [eq]
  · refine sent.underway (fun c => ?_) rfl rfl
    simp only [ledger, List.map_append, List.map_cons, List.map_nil, List.count_append,
      List.count_cons, List.count_nil, record]
    omega
  · exact sent.conclude _

theorem Owing.assign {errand : Errand} {calls : List Call}
    (h : Owing fired hand base (errand.call :: calls) s) :
    Owing fired hand base calls (s.assign errand) := by
  rcases assign_cases s errand with ⟨-, eq⟩ | ⟨-, eq⟩ <;> rw [eq]
  · exact h.execute
  · refine h.underway (fun c => ?_) rfl rfl
    simp only [ledger, List.map_append, List.map_cons, List.map_nil, List.count_append,
      List.count_cons, List.count_nil]
    omega

/-- One after the other, what counts as being on its way is seen to. -/
theorem Owing.all {α : Type} {f : Session → α → Session} {call : α → Call}
    (one : ∀ {s a calls}, Owing fired hand base (call a :: calls) s →
      Owing fired hand base calls (f s a)) {l : List α}
    (h : Owing fired hand base (l.map call) s) : Owned fired hand base (l.foldl f s) := by
  induction l generalizing s with
  | nil => exact h.owned
  | cons a rest ih => exact ih (one h)

/-- The requests that wait for a worker are seen to anew. -/
theorem Owned.waiting (h : Owned fired hand base s) :
    Owing fired hand base (s.errands.map Errand.call) { s with errands := [] } :=
  (⟨h.balanced, h.based⟩ : Owing fired hand base [] s).underway (fun c => by
    simp only [ledger, List.count_append, List.map_nil, List.count_nil]
    omega) rfl rfl

theorem Owned.employ (h : Owned fired hand base s) : Owned fired hand base s.employ :=
  h.waiting.all Owing.assign

theorem Owned.dispatch (errand : Errand) (h : Owned fired (errand.call.pairs ++ hand) base s) :
    Owned fired hand base (s.dispatch errand) := by
  have issued : Owing fired hand base [errand.call] (({ s with
      traffic := { s.traffic with
        inFlight := s.traffic.inFlight + 1
        dispatched := s.traffic.dispatched + 1 } } : Session).record (.issued errand.call)) :=
    ⟨h.balanced.issue, h.based⟩
  exact issued.assign.owned

/-- A request that is turned away leaves its pairs at hand. -/
theorem Owned.startRequest {noThreads : Bool} {order : Order}
    (h : Owned fired ([⟨order.onSuccess, order.receiver⟩, ⟨order.onError, order.receiver⟩] ++ hand)
      base s) :
    Owned fired (if (s.startRequest noThreads order).1.isNone then
      [⟨order.onSuccess, order.receiver⟩, ⟨order.onError, order.receiver⟩] ++ hand else hand) base
        (s.startRequest noThreads order).2 := by
  let call := order.call s.traffic.nextId
  have numbered : Owned fired (call.pairs ++ hand) base
      { s with traffic.nextId := s.traffic.nextId + 1 } := ⟨h.balanced, h.based⟩
  rcases startRequest_cases s noThreads order with
    ⟨rejected, eq⟩ | ⟨rejected, eq⟩ | ⟨prepared, eq⟩ <;> rw [eq]
  · exact ⟨h.balanced, h.based⟩
  · refine ⟨numbered.balanced.issue.underway fun c => ?_, h.based⟩
    have posted := (callsIn_complete s.lanes call .clientFailure).count_eq c
    simp only [ledger, List.count_append, List.count_cons, record, call] at posted ⊢
    omega
  · exact Owned.dispatch ⟨call, prepared, order⟩ numbered

theorem Owned.issue (h : Owned fired hand base s) (door : Door) (noThreads : Bool) (order : Order) :
    Owned fired hand base (s.issue door noThreads order).2 := by
  rcases issue_cases s door noThreads order with eq | ⟨t, -, adopted, eq⟩
  · rw [eq]
    exact h
  · have started := @Owned.startRequest t _ _ _ noThreads order (h.adopt adopted)
    generalize t.startRequest noThreads order = r at started eq
    rw [eq]
    split
    · next turned => exact buryAll (by simpa [turned] using started)
    · next turned => simpa [turned] using started

/-- What is held back under a key is due. -/
theorem Owned.due (h : Owned fired hand base s) (key : String) :
    Owing fired hand base ((s.held.filter (·.1 == key)).map (·.2.1))
      { s with held := s.held.filter (·.1 != key) } := by
  refine (⟨h.balanced, h.based⟩ : Owing fired hand base [] s).underway (fun c => ?_) rfl rfl
  -- What is due and what stays held back are together what was held back.
  have split := ((List.filter_append_perm (·.1 == key) s.held).map (·.2.1)).count_eq c
  simp only [ledger, List.map_append, List.count_append, List.count_nil, bne] at split ⊢
  omega

theorem Owned.release (h : Owned fired hand base s) (key : String) :
    Owned fired hand base (s.release key).2 :=
  ((h.due key).all fun h => h.conclude _).employ

/-- Requests that wait for a worker may be given up. -/
theorem Owned.forsake (h : Owned fired hand base s) : Owned fired hand base s.forsake :=
  ⟨h.balanced.underway fun c => by simp [ledger, Session.forsake], h.based⟩

/-! ## Deeds -/

/-- Code keeps the ledger balanced, and no pair leaves custody by it. -/
theorem Deeds.owned {thread : Thread} (d : Deeds thread s t) (h : Owned fired hand base s) :
    Owned fired hand base t := by
  induction d with
  | none s => exact h
  | trans _ _ ih ih' => exact ih' (ih h)
  | aside aside =>
    obtain ⟨_, _, _, _, _, _, entries, code, -, rfl⟩ := aside
    have noted := h.noted fun e mem => Entry.byCode_of_isAside (code e mem)
    exact ⟨noted.balanced, noted.based⟩
  | @post s m plain =>
    refine h.post ?_
    cases m with
    | complete call completion => cases plain
    | _ => rfl
  | arm s delay work => exact h.arm delay rfl
  | schedule s door pair delay recurring => exact h.schedule door pair delay recurring
  | cancel s door id => exact h.cancel door id
  | enqueue s door noThreads job => exact owned_enqueuing.enqueue door thread noThreads job h
  | issue s door noThreads order => exact h.issue door noThreads order
  | release s key => exact h.release key
  | listen s door event pair => exact h.listen door event pair
  | unlisten s door event => exact h.unlisten door event
  | pause s => exact owned_sweeps.pause h
  | unpause s => exact owned_sweeps.unpause h
  | shutdown s query =>
    refine owned_sweeps.beginShutdown (fun h => ?_) (fun h => ⟨h.balanced, h.based⟩) h
    have posted := h.lanes (callsIn_le (m := .shutdown query) rfl (Lanes.messages_post ..))
    exact ⟨posted.balanced, posted.based⟩
  | guarded take _ ih =>
    obtain ⟨-, -, rfl⟩ := takeLock_eq_ok.1 take
    have inner := ih ⟨h.balanced, h.based⟩
    exact ⟨inner.balanced, inner.based⟩
  | leak take =>
    obtain ⟨-, -, rfl⟩ := takeLock_eq_ok.1 take
    exact ⟨h.balanced, h.based⟩
  | called s callback before => exact ⟨h.balanced, h.based⟩

end

end Session
end ScriptHost
