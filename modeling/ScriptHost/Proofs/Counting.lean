import ScriptHost.Proofs.Deliveries
import ScriptHost.Proofs.InStep

/-!
# Counting requests

A session counts the requests that are in flight, those that were handed to the workers, and those
that were malformed. As long as nothing has panicked while the engine was brought up, the counters
agree at every moment with what is on record: a request is in flight from when it is issued until
its completion comes to the loop or is refused, and each request that is issued is counted once,
either as dispatched or as rejected.

A request is counted as dispatched when it is handed over, and not when a worker takes it. Where the
number of workers is limited the counter runs ahead of the calls of the transport by the requests
that wait for a worker or were given up with the last handle.

## Main definitions

* `Journal.issued`, `Journal.delivered`, `Journal.inFlight` — the requests on record.
* `Journal.Consistent` — what is delivered or dropped was outstanding.
* `Traffic.Agrees` — numbers and counters agree with a journal; `Session.Counted` — so they do in a
  session.
* `Session.Heard` — somebody takes the messages of a session that accepts work.
* `Session.CountsRequests` — what the counters of a session come to.

## Main statements

* `Journal.Consistent.inFlight_perm` — what is outstanding is in flight.
* `Session.Deeds.counted` — whatever code does, the counters agree with the journal.
* `Session.issue_turnedAway` — a request that gets no number is not counted.
* `Moment.Later.reckoned` — the counters agree with the journal whatever the loop does.
* `Moment.Occurs.requests_counted` — what the counters come to at any moment.
* `Session.dispatched_waiting` — a request can be counted as dispatched while it waits.

## Design notes

Counters are natural numbers and subtraction stops at zero, so a counter that was to go below zero
would be ahead of the journal from then on: that the two never part is what excludes it.

The queue of a session that accepts work takes completions, unless bring-up has panicked: then the
session may still be in bring-up with nobody to take messages. A malformed request gets as far as
being counted there, and then no number.
-/

namespace ScriptHost

/-! ## The journal -/

namespace Journal

/-- The requests whose completion has come to the loop, the newest first. -/
def delivered (j : Journal) : List Call := j.filterMap Event.delivered?

/-- The requests whose completion has neither come to the loop nor been refused. -/
def inFlight (j : Journal) : List Call :=
  j.issued.filter fun call => call ∉ j.delivered ∧ call ∉ j.dropped

/-- Requests were outstanding when they were delivered or dropped. -/
def Consistent : Journal → Prop
  | [] => True
  | .delivered call :: j => call ∈ outstanding j ∧ Consistent j
  | .dropped call :: j => call ∈ outstanding j ∧ Consistent j
  | _ :: j => Consistent j

namespace Consistent

variable {j : Journal}

/-- Each request that has been issued is outstanding, delivered or dropped. -/
theorem perm (h : j.Consistent) :
    (j.outstanding ++ (j.delivered ++ j.dropped)).Perm j.issued := by
  -- Issuing adds a request on both sides; delivering or dropping it takes it over from those that
  -- are outstanding.
  induction j with
  | nil => exact .refl _
  | cons e j ih =>
    cases e with
    | issued call => exact (ih h).cons call
    | delivered call =>
      obtain ⟨mem, h⟩ := h
      have taken := (List.perm_cons_erase mem).symm.append_right (delivered j ++ dropped j)
      exact (List.perm_middle.trans taken).trans (ih h)
    | dropped call =>
      obtain ⟨mem, h⟩ := h
      have taken := (List.perm_cons_erase mem).symm.append_right (delivered j ++ dropped j)
      have last : (delivered j ++ call :: dropped j).Perm (call :: (delivered j ++ dropped j)) :=
        List.perm_middle
      exact ((last.append_left _).trans (List.perm_middle.trans taken)).trans (ih h)
    | _ => exact ih h

/-- If no request is issued twice, those that are outstanding are in flight. -/
theorem inFlight_perm (h : j.Consistent) (nodup : j.issued.Nodup) :
    j.inFlight.Perm j.outstanding := by
  obtain ⟨-, -, apart⟩ := List.nodup_append.1 (h.perm.nodup_iff.2 nodup)
  have here : (j.outstanding.filter fun call => call ∉ j.delivered ∧ call ∉ j.dropped) =
      j.outstanding := by
    refine List.filter_eq_self.2 fun call mem => decide_eq_true ⟨fun gone => ?_, fun gone => ?_⟩
    · exact apart call mem call (List.mem_append_left _ gone) rfl
    · exact apart call mem call (List.mem_append_right _ gone) rfl
  have gone : ((j.delivered ++ j.dropped).filter
      fun call => call ∉ j.delivered ∧ call ∉ j.dropped) = [] := by
    refine List.filter_eq_nil_iff.2 fun call mem left => ?_
    obtain ⟨undelivered, kept⟩ := of_decide_eq_true left
    exact (List.mem_append.1 mem).elim undelivered kept
  have split := h.perm.symm.filter fun call => decide (call ∉ j.delivered ∧ call ∉ j.dropped)
  rwa [List.filter_append, here, gone, List.append_nil] at split

end Consistent
end Journal

/-- Each request that has been issued is counted: as dispatched if it could be prepared, and
otherwise as rejected. -/
structure Traffic.Agrees (traffic : Traffic) (preparable : List Call) (j : Journal) : Prop where
  consistent : j.Consistent
  dispatched : traffic.dispatched = preparable.length
  shared : traffic.dispatched + traffic.rejected = j.issued.length

/-- The events that tell of a request on its way. -/
def Event.ofRequest : Event → Bool
  | .issued _ | .delivered _ | .dropped _ => true
  | _ => false

namespace Traffic.Agrees

variable {traffic : Traffic} {preparable : List Call} {j : Journal}

/-- What else is put on record bears on no counter. -/
theorem beside (h : traffic.Agrees preparable j) {e : Event} (other : e.ofRequest = false) :
    traffic.Agrees preparable (e :: j) := by
  cases e with
  | issued call => cases other
  | delivered call => cases other
  | dropped call => cases other
  | _ => exact ⟨h.consistent, h.dispatched, h.shared⟩

/-- A request that is outstanding is delivered or dropped. -/
theorem settled (h : traffic.Agrees preparable j) {call : Call}
    (outstanding : call ∈ j.outstanding) (inFlight : Nat) {e : Event}
    (how : e = .delivered call ∨ e = .dropped call) :
    { traffic with inFlight := inFlight }.Agrees preparable (e :: j) := by
  rcases how with rfl | rfl <;> exact ⟨⟨outstanding, h.consistent⟩, h.dispatched, h.shared⟩

end Traffic.Agrees

namespace Session

variable {s t : Session} {thread : Thread} {fired : Option Timer} {hand base : List Pair}

/-- The counters agree with the journal. -/
def Counted (s : Session) : Prop := s.traffic.Agrees s.preparable s.journal

/-! ## Sessions that accept work -/

/-- Somebody takes the messages of a session that accepts work. -/
def Heard (s : Session) : Prop := s.isLive = true → s.lanes.deserted = false

theorem Heard.accepts (h : s.Heard) (live : s.isLive = true) : s.lanes.accepts = true := by
  simp [Lanes.accepts, lanes_open_of_isLive live, h live]

theorem Heard.same (h : s.Heard) (stage : t.stage = s.stage) : t.Heard := by
  intro live
  refine (congrArg Stage.deserted stage).trans (h ?_)
  rw [← live]
  exact (congrArg Stage.isLive stage).symm

theorem Deeds.heard (d : Deeds thread s t) (h : s.Heard) : t.Heard := fun live =>
  (congrArg Stage.deserted d.fixed_eq).trans (h (d.live live))

/-! ## One request -/

/-- A request that is issued is counted, whether it has been dropped by now or not. -/
theorem Issued.counted {order : Order} {id : Nat} (issued : s.Issued order id t) (h : s.Counted) :
    t.Counted := by
  have program := prepared?_eq issued.program
  have shared := h.shared
  cases ok : order.request.prepareWith s.program.resolve with
  | error f =>
    obtain ⟨⟨pairs, journal⟩, -, dispatched, rejected, -⟩ := issued.malformed f ok
    have malformed : s.prepared? (order.call id) = none := congrArg Except.toOption ok
    have same : t.preparable = s.preparable := by
      rw [preparable, issued.recorded, program]
      exact List.filter_cons_of_neg (by simp [malformed])
    refine ⟨journal ▸ h.consistent, ?_, ?_⟩
    · rw [same, dispatched]
      exact h.dispatched
    · rw [issued.recorded, List.length_cons]
      omega
  | ok p =>
    have some : s.prepared? (order.call id) = some p := congrArg Except.toOption ok
    have more : t.preparable = order.call id :: s.preparable := by
      rw [preparable, issued.recorded, program]
      exact List.filter_cons_of_pos (by simp [some])
    have counts : t.journal.Consistent ∧ t.traffic.dispatched = s.traffic.dispatched + 1 ∧
        t.traffic.rejected = s.traffic.rejected := by
      obtain ⟨custody, pairs, ⟨-, executed⟩ | ⟨-, eq⟩⟩ := issued.prepared p ok
      · refine ⟨?_, executed.counters⟩
        rcases executed.sent with journal | journal <;> rw [journal]
        · exact h.consistent
        · exact ⟨List.mem_cons_self, h.consistent⟩
      · rw [eq]
        exact ⟨h.consistent, rfl, rfl⟩
    obtain ⟨consistent, dispatched, rejected⟩ := counts
    refine ⟨consistent, ?_, ?_⟩
    · rw [more, dispatched, List.length_cons, h.dispatched]
    · rw [issued.recorded, List.length_cons]
      omega

/-- A request has been turned away: at most its number is lost, and no counter has changed. -/
structure TurnedAway (s t : Session) : Prop where
  traffic : ∃ nextId, s.traffic.nextId ≤ nextId ∧ t.traffic = { s.traffic with nextId := nextId }
  journal : t.journal = s.journal ∨ ∃ pairs, t.journal = .registered pairs :: s.journal
  program : t.program = s.program

theorem issue_turnedAway (heard : s.Heard) {door : Door} {noThreads : Bool} {order : Order}
    (turned : (s.issue door noThreads order).1 = none) :
    TurnedAway s (s.issue door noThreads order).2 := by
  unfold issue at turned ⊢
  dsimp only at turned ⊢
  split
  · exact ⟨⟨_, Nat.le_refl _, rfl⟩, .inl rfl, rfl⟩
  next admitted =>
  rw [if_neg admitted] at turned
  split
  · exact ⟨⟨_, Nat.le_refl _, rfl⟩, .inl rfl, rfl⟩
  next t adopted =>
  rw [adopted] at turned
  have live : s.isLive = true := isLive_of_admits (by simpa using admitted)
  have accepts := heard.accepts live
  obtain ⟨-, rfl⟩ := adopt?_eq_some.1 adopted
  -- The queue takes the failure of a malformed request, so only a lack of threads is left.
  unfold startRequest at turned ⊢
  cases ok : order.request.prepareWith s.program.resolve with
  | error f => simp [ok, complete, post, record, Lanes.post_of_accepts accepts] at turned
  | ok prepared =>
    cases noThreads with
    | true =>
      simp only [record, ok, if_true]
      exact ⟨⟨_, Nat.le_succ _, rfl⟩, .inr ⟨_, rfl⟩, rfl⟩
    | false => simp [ok, record] at turned

theorem TurnedAway.counted (turned : TurnedAway s t) (h : s.Counted) : t.Counted := by
  obtain ⟨nextId, le, traffic⟩ := turned.traffic
  have program := prepared?_eq turned.program
  rw [Counted, preparable, program, traffic]
  rcases turned.journal with journal | ⟨pairs, journal⟩ <;> rw [journal]
  · exact ⟨h.consistent, h.dispatched, h.shared⟩
  · exact ⟨h.consistent, h.dispatched, h.shared⟩

theorem Counted.issue (h : s.Counted) (heard : s.Heard) (door : Door) (noThreads : Bool)
    (order : Order) : (s.issue door noThreads order).2.Counted := by
  cases given : (s.issue door noThreads order).1 with
  | none => exact (issue_turnedAway heard given).counted h
  | some id => exact (issue_issued given).counted h

/-! ## Operations -/

theorem Counted.withdraw (h : s.Counted) (ticket : Option Nat) : (s.withdraw ticket).Counted := by
  rw [withdraw_eq]
  exact h

theorem counted_tables : KeptByTables Counted where
  registered _ h := h.beside rfl
  buried _ h := h
  sweepArmed _ h := h
  withdrawn ticket h := h.withdraw ticket
  ticketed _ h := h
  entered _ h := h
  listeners _ h := h
  firingArmed _ _ h := h
  timers _ h := h

theorem counted_enqueuing : KeptByEnqueuing Counted where
  ticks _ h := h
  helpers _ h := h
  accepted _ h := h.beside rfl
  urged h := h

theorem Counted.conclude (h : s.Counted) {call : Call} (outstanding : call ∈ s.journal.outstanding)
    (completion : Completion) : (s.conclude call completion).Counted := by
  rcases conclude_cases s call completion with ⟨-, eq⟩ | ⟨-, eq⟩ <;> rw [eq]
  · exact h
  · exact h.settled outstanding _ (.inr rfl)

/-- A request that is on its way is outstanding. -/
theorem Owing.outstanding {call : Call} {calls : List Call}
    (owing : Owing fired hand base (call :: calls) s) : call ∈ s.journal.outstanding :=
  (owing.balanced.settle (.refl _)).1

theorem Counted.execute {errand : Errand} {calls : List Call} (h : s.Counted)
    (owing : Owing fired hand base (errand.call :: calls) s) : (s.execute errand).Counted := by
  have called : (s.calling errand).Counted := h.beside rfl
  rcases s.execute_ends errand with ⟨key, -, -, eq⟩ | ⟨-, eq⟩ <;> rw [eq]
  · exact called
  · exact called.conclude owing.outstanding _

theorem Counted.assign {errand : Errand} {calls : List Call} (h : s.Counted)
    (owing : Owing fired hand base (errand.call :: calls) s) : (s.assign errand).Counted := by
  rcases assign_cases s errand with ⟨-, eq⟩ | ⟨-, eq⟩ <;> rw [eq]
  · exact h.execute owing
  · exact h

/-- One after the other, requests that are on their way are seen to. -/
theorem Counted.all {α : Type} {f : Session → α → Session} {call : α → Call} (h : s.Counted)
    (owed : ∀ {s a calls}, Owing fired hand base (call a :: calls) s →
      Owing fired hand base calls (f s a))
    (one : ∀ {s a calls}, s.Counted → Owing fired hand base (call a :: calls) s →
      (f s a).Counted)
    {l : List α} (owing : Owing fired hand base (l.map call) s) : (l.foldl f s).Counted := by
  induction l generalizing s with
  | nil => exact h
  | cons a rest ih => exact ih (one h owing) (owed owing)

/-- The requests that wait for a worker are outstanding. -/
theorem Counted.employ (h : s.Counted) (owned : Owned fired hand base s) : s.employ.Counted := by
  have cleared : { s with errands := [] }.Counted := h
  exact cleared.all Owing.assign Counted.assign owned.waiting

/-- What is held back belongs to requests that are outstanding. -/
theorem Counted.release (h : s.Counted) (owned : Owned fired hand base s) (key : String) :
    (s.release key).2.Counted := by
  let conclude (s : Session) (entry : String × Call × Completion) : Session :=
    s.conclude entry.2.1 entry.2.2
  have owed {s : Session} {entry : String × Call × Completion} {calls : List Call}
      (owing : Owing fired hand base (entry.2.1 :: calls) s) :
      Owing fired hand base calls (conclude s entry) := owing.conclude _
  have due := owned.due key
  have kept : { s with held := s.held.filter (·.1 != key) }.Counted := h
  have concluded := kept.all owed (fun h owing => h.conclude owing.outstanding _) due
  exact concluded.employ (due.all owed)

/-! ## Deeds -/

/-- Whatever code does, the counters agree with the journal. -/
theorem Deeds.counted (d : Deeds thread s t) (heard : s.Heard) (owned : Owned fired hand base s)
    (h : s.Counted) : t.Counted := by
  induction d with
  | none s => exact h
  | trans d _ ih ih' => exact ih' (d.heard heard) (d.owned owned) (ih heard owned h)
  | aside aside =>
    obtain ⟨_, _, _, _, _, _, _, -, -, rfl⟩ := aside
    exact h
  | post s _ => exact h
  | arm s delay work => exact h
  | schedule s door pair delay recurring =>
    exact counted_tables.schedule door pair delay recurring h
  | cancel s door id => exact counted_tables.cancel door id h
  | enqueue s door noThreads job => exact counted_enqueuing.enqueue door thread noThreads job h
  | issue s door noThreads order => exact h.issue heard door noThreads order
  | release s key => exact h.release owned key
  | listen s door event pair => exact counted_tables.listen door event pair h
  | unlisten s door event => exact counted_tables.unlisten door event h
  | pause s => exact counted_tables.pause h
  | unpause s => exact counted_tables.unpause h
  | shutdown s query => exact counted_tables.beginShutdown (fun h => h) (fun h => h) h
  | guarded take _ ih =>
    obtain ⟨-, -, rfl⟩ := takeLock_eq_ok.1 take
    exact ih heard ⟨owned.balanced, owned.based⟩ h
  | leak take =>
    obtain ⟨-, -, rfl⟩ := takeLock_eq_ok.1 take
    exact h
  | called s callback before => exact h.beside rfl

end Session

namespace Moment

open Session (Counted Heard Owned Spawned)

variable {m m' : Moment} {k : History Message}

/-- The counters agree with the journal, unless bring-up has panicked. -/
structure Reckoned (m : Moment) : Prop where
  /-- Only a loop that was entered handles the last message. -/
  entered : m.doing.isLast = true → m.session.loop ≠ .crashed
  heard : m.session.loop ≠ .crashed → m.session.Heard
  counted : m.session.loop ≠ .crashed → m.session.Counted

/-! ## From one moment to another -/

theorem Act.heard (a : Act m m') (h : m.session.Heard) : m'.session.loop ≠ .crashed →
    m'.session.Heard := by
  intro survived
  cases a with
  | code d => exact d.heard h
  | announced initializing =>
    exact fun live => h (by simpa [Session.isLive, initializing, Phase.isLive] using live)
  | @rearmed s timer =>
    have rearmed : { s with timers := s.timers.rearmed timer.id s.lanes.nextTicket }.Heard := h
    exact rearmed.same (Session.stage_arm _ _ _)
  | swept s =>
    obtain ⟨_, _, eq, -⟩ := s.sweepGraveyard_eq
    rw [eq]
    exact h
  | sweepArmed s => exact h.same (s.stage_armSweep true)
  | cleared s =>
    obtain ⟨_, -, eq⟩ := s.clear_eq
    intro live
    simp [eq, Session.isLive, Session.buryAll, Phase.isLive] at live
  | ended => exact fun live => by simp [Session.isLive, Phase.isLive] at live
  | @entered s =>
    have posted : (s.postUrgent .ready).2.Heard := by
      unfold Session.postUrgent Lanes.postUrgent
      dsimp only
      split
      · exact h
      · exact h
    exact posted.same (t := (s.postUrgent .ready).2.armSweep true) (Session.stage_armSweep _ true)
  | abandoned => exact fun live => by simp [Session.abandon, Session.isLive, Phase.isLive] at live
  | crashed => exact absurd rfl survived
  | _ => exact h

theorem Act.counted (a : Act m m') (balanced : m.Balanced) (heard : m.session.Heard)
    (h : m.session.Counted) : m'.session.Counted := by
  cases a with
  | code d => exact d.counted heard balanced h
  | begun => exact h.beside rfl
  | swept s =>
    obtain ⟨_, _, eq, -⟩ := s.sweepGraveyard_eq
    rw [eq]
    exact h.beside rfl
  | sweepArmed s => exact Session.counted_tables.armSweep true h
  | cleared s =>
    obtain ⟨_, -, eq⟩ := s.clear_eq
    rw [eq]
    exact h
  | lastSweep => exact h.beside rfl
  | @entered s => exact Session.counted_tables.armSweep (s := (s.postUrgent .ready).2) true h
  | _ => exact h

theorem Next.reckoned (n : Next m k m') (balanced : m.Balanced) (h : m.Reckoned) :
    m'.Reckoned := by
  cases n with
  | act a =>
    -- Nothing leads away from a crash.
    have before : m'.session.loop ≠ .crashed → m.session.loop ≠ .crashed := by
      intro survived
      rcases a.loop_cases with ⟨same, -⟩ | ⟨last, -⟩ | ⟨starting, -⟩
      · exact same ▸ survived
      · exact h.entered last
      · rw [starting]
        exact nofun
    refine ⟨fun last => ?_, fun survived => a.heard (h.heard (before survived)) survived,
      fun survived => ?_⟩
    · rcases a.loop_cases with ⟨same, -, still⟩ | ⟨-, -, other⟩ | ⟨-, -, other, -⟩
      · exact same ▸ h.entered (still ▸ last)
      · cases other.symm.trans last
      · cases other.symm.trans last
    · exact a.counted balanced (h.heard (before survived)) (h.counted (before survived))
  | @took s msg lanes running next =>
    have survived : s.loop ≠ .crashed := by rw [running]; exact nofun
    refine ⟨fun _ => survived, fun _ => ?_, h.counted⟩
    rw [Lanes.next?_rest next]
    exact h.heard survived
  | @received s call completion lanes running next =>
    have survived : s.loop ≠ .crashed := by rw [running]; exact nofun
    refine ⟨nofun, fun _ => ?_, fun _ => ?_⟩
    · rw [Lanes.next?_rest next]
      exact h.heard survived
    -- A completion that comes to the loop was under way, so its request is outstanding.
    · have owned : Owned none [] [] s := balanced
      have outstanding := (owned.balanced.settle (Session.underway_next next)).1
      exact (h.counted survived).settled outstanding _ (.inl rfl)
  | due s => exact ⟨nofun, h.heard, h.counted⟩
  | passed => exact ⟨nofun, h.heard, h.counted⟩

theorem spawned_reckoned {origin : Session} (spawned : Spawned origin) :
    Reckoned ⟨origin, .nothing⟩ := by
  obtain ⟨_, _, _, _, _, made⟩ := spawned
  rw [Session.spawn_eq_ok made]
  refine ⟨fun last => absurd last Bool.false_ne_true, fun _ _ => rfl, fun _ => ?_⟩
  exact ⟨trivial, rfl, rfl⟩

theorem Later.reckoned (l : Later m m') (balanced : m.Balanced) (h : m.Reckoned) :
    m'.Reckoned := by
  obtain ⟨k, c⟩ := l
  induction c with
  | none => exact h
  | more c n ih => exact n.reckoned (Later.balanced ⟨_, c⟩ balanced) ih

end Moment

/-! ## The counters -/

namespace Session

variable {s t : Session}

/-- What the counters of a session come to, and what issuing a request does to them. -/
structure CountsRequests (s : Session) : Prop where
  flying : s.statistics.inFlight = s.journal.inFlight.length
  /-- The counter has never stopped at zero. -/
  whole : s.statistics.inFlight + s.journal.delivered.length + s.journal.dropped.length =
    s.journal.issued.length
  /-- Completions have come for requests that were issued, one for each. -/
  settled : (s.journal.delivered ++ s.journal.dropped).Subperm s.journal.issued
  /-- Completions are still to come for requests in flight, one for each, so when one comes the
  counter is above zero. -/
  awaited : (s.awaited.map Prod.fst).Subperm s.journal.inFlight
  increasing : (s.journal.issued.map Call.id).Pairwise (· > ·)
  shared : s.statistics.dispatched + s.statistics.rejected = s.journal.issued.length
  /-- The requests that could be prepared have been handed to the workers. -/
  dispatched : s.statistics.dispatched = s.preparable.length
  /-- For some of them a worker has called the transport, and the others wait, unless they were
  given up with the last handle. -/
  divided : s.journal.sent.length + s.postponed.length ≤ s.statistics.dispatched ∧
    (s.settings.workerThreads = none ∨ s.dropped = false →
      s.statistics.dispatched = s.journal.sent.length + s.postponed.length)
  /-- None waits while a worker is free. -/
  busy : s.postponed ≠ [] → s.hasWorker = false
  /-- Without a limit on the workers the transport has been called for each of them. -/
  unlimited : s.settings.workerThreads = none → s.statistics.dispatched = s.journal.sent.length
  /-- The calls of the transport are in the log, if there is a transport. -/
  called : s.program.hasTransport = true →
    (s.log.filterMap Entry.sent?).length = s.journal.sent.length
  /-- A number that is given out is larger than all before, and its request is issued. -/
  given : ∀ {door noThreads order id}, (s.issue door noThreads order).1 = some id →
    (∀ call ∈ s.journal.issued, call.id < id) ∧
      (s.issue door noThreads order).2.journal.issued = order.call id :: s.journal.issued
  /-- A request that is turned away changes no counter, and nothing is issued. -/
  turned : ∀ {door noThreads order}, (s.issue door noThreads order).1 = none →
    let t := (s.issue door noThreads order).2
    (t.statistics.inFlight = s.statistics.inFlight ∧
        t.statistics.dispatched = s.statistics.dispatched ∧
        t.statistics.rejected = s.statistics.rejected) ∧
      t.journal.issued = s.journal.issued

theorem awaited_calls (s : Session) : s.awaited.map Prod.fst = s.ledger.underway := by
  have carried : (Option.map Prod.fst ∘ Message.completed?) = Message.call? := by
    funext m
    cases m <;> rfl
  rw [awaited, List.map_append, List.map_append, List.map_map, List.map_map, completionsIn,
    List.map_filterMap]
  exact congrArg (fun f => _ ++ s.lanes.messages.filterMap f) carried

/-- The transport, if there is one, has been called once for each request that was taken. -/
theorem InTurn.length_called (h : s.InTurn) (transport : s.program.hasTransport = true) :
    (s.log.filterMap Entry.sent?).length = s.journal.sent.length := by
  rw [h.called, if_pos transport, List.filterMap_length_eq_length]
  intro call taken
  exact (List.mem_filter.1 (h.inOrder.subset (List.mem_append_right _ taken))).2

theorem InTurn.length_le (h : s.InTurn) :
    s.journal.sent.length + s.postponed.length ≤ s.preparable.length := by
  have le := h.inOrder.length_le
  rw [List.length_append, List.length_reverse] at le
  omega

theorem InTurn.length_eq (h : s.InTurn)
    (kept : s.settings.workerThreads = none ∨ s.dropped = false) :
    s.preparable.length = s.journal.sent.length + s.postponed.length := by
  rw [← h.whole kept, List.length_append, List.length_reverse, Nat.add_comm]

/-- Without a limit on the workers no request waits. -/
theorem Sent.postponed_eq_nil (h : s.Sent) (unlimited : s.settings.workerThreads = none) :
    s.postponed = [] := by
  by_contra waits
  have busy := h.busy fun none => waits (by rw [postponed, none, List.map_nil])
  simp [hasWorker, unlimited] at busy

theorem Counted.countsRequests (h : s.Counted) (heard : s.Heard) (sent : s.Sent)
    {fired : Option Timer} {hand : List Pair} (balanced : s.ledger.Balanced fired hand) :
    s.CountsRequests := by
  have nodup : s.journal.issued.Nodup :=
    List.Nodup.of_map Call.id (sent.increasing.imp fun more => Nat.ne_of_gt more)
  have perm := h.consistent.inFlight_perm nodup
  have flying : s.traffic.inFlight = s.journal.outstanding.length := balanced.flying
  have parts := h.consistent.perm.length_eq
  have underway : s.ledger.underway.Subperm s.journal.outstanding :=
    List.subperm_ext_iff.2 fun call _ => balanced.calls call
  refine
    { flying := flying.trans perm.length_eq.symm
      whole := ?_
      settled := ?_
      awaited := ?_
      increasing := sent.increasing
      shared := h.shared
      dispatched := h.dispatched
      divided := ⟨sent.length_le.trans (Nat.le_of_eq h.dispatched.symm),
        fun kept => h.dispatched.trans (sent.length_eq kept)⟩
      busy := fun waits => sent.busy fun none => waits (by rw [postponed, none, List.map_nil])
      unlimited := fun unlimited => ?_
      called := sent.length_called
      given := fun given => ?_
      turned := fun turned => ?_ }
  · rw [List.length_append, List.length_append] at parts
    show s.traffic.inFlight + _ + _ = _
    omega
  · exact (List.sublist_append_right ..).subperm.trans h.consistent.perm.subperm
  · rw [awaited_calls]
    exact underway.trans perm.symm.subperm
  · have whole := sent.length_eq (.inl unlimited)
    rw [sent.postponed_eq_nil unlimited] at whole
    exact h.dispatched.trans whole
  · have issued := issue_issued given
    refine ⟨fun call mem => ?_, issued.recorded⟩
    rw [issued.number.1]
    exact sent.below call mem
  · obtain ⟨⟨nextId, -, traffic⟩, journal, -⟩ := issue_turnedAway heard turned
    refine ⟨?_, ?_⟩
    · simp [statistics, traffic]
    · rcases journal with journal | ⟨pairs, journal⟩ <;> rw [journal]
      rfl

end Session

namespace Moment

variable {m : Moment}

/-- At every moment of a session the counters of its requests agree with what is on record, as long
as nothing has panicked while the engine was brought up: those are in flight whose completion has
neither come to the loop nor been refused, the others have been settled once, and each request that
got a number has either been handed to the workers or was rejected. Those that were handed over have
been taken, or they wait for a worker, or they were given up. Numbers increase. -/
theorem Occurs.requests_counted (occurs : m.Occurs) (survived : m.session.loop ≠ .crashed) :
    m.session.CountsRequests := by
  have balanced := occurs.balanced
  obtain ⟨origin, spawned, h, course⟩ := occurs
  obtain ⟨-, sent⟩ := course.numbered spawned
  have fresh : Occurs ⟨origin, .nothing⟩ := ⟨origin, spawned, .refl _⟩
  have reckoned := Later.reckoned ⟨h, course⟩ fresh.balanced (spawned_reckoned spawned)
  exact (reckoned.counted survived).countsRequests (reckoned.heard survived) sent balanced.balanced

end Moment

namespace Session

/-- A request whose address cannot be read. -/
def garbled : Order :=
  { greeting with request := ⟨"nowhere", none, "GET", false⟩, onSuccess := 3, onError := 4 }

/-- The answer to one request is held back; the failure of another one has come to the loop. -/
theorem requests_counted_sending : ∃ s, Reached (plain sending) .loop s ∧ s.CountsRequests ∧
    s.journal.issued = [garbled.call 2, greeting.call 1] ∧
    s.journal.delivered = [garbled.call 2] ∧ s.statistics.inFlight = 1 ∧
    s.statistics.dispatched = 1 ∧ s.statistics.rejected = 1 := by
  obtain ⟨s, r, found⟩ := @Fresh.scenario (plain sending) 50
    [.act (.request .handle false { greeting with hold := some "k" }),
      .act (.request .handle false garbled), .run 0]
    (fun s => decide (s.loop = .running ∧
      s.journal.issued = [garbled.call 2, greeting.call 1] ∧
      s.journal.delivered = [garbled.call 2] ∧ s.statistics.inFlight = 1 ∧
      s.statistics.dispatched = 1 ∧ s.statistics.rejected = 1))
    (plain_fresh _) (by decide +kernel)
  obtain ⟨running, counters⟩ := of_decide_eq_true found
  have survived : s.loop ≠ .crashed := by
    rw [running]
    exact nofun
  exact ⟨s, r, (r.occurs (plain_fresh _)).requests_counted survived, counters⟩

/-- While the only worker waits for an answer, another request is counted as dispatched though the
transport has not been called for it. -/
theorem dispatched_waiting : ∃ s, Reached (alone sending) .loop s ∧ s.loop = .running ∧
    s.journal.issued = [greeting.call 2, pending.call 1] ∧ s.journal.sent = [pending.call 1] ∧
    (s.log.filterMap Entry.sent?).length = 1 ∧ s.statistics.dispatched = 2 := by
  obtain ⟨s, r, found⟩ := @Fresh.scenario (alone sending) 50
    [.act (.request .handle false pending), .act (.request .handle false greeting)]
    (fun s => decide (s.loop = .running ∧
      s.journal.issued = [greeting.call 2, pending.call 1] ∧ s.journal.sent = [pending.call 1] ∧
      (s.log.filterMap Entry.sent?).length = 1 ∧ s.statistics.dispatched = 2))
    (alone_fresh _) (by decide +kernel)
  exact ⟨s, r, of_decide_eq_true found⟩

end Session
end ScriptHost
