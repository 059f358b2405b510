import ScriptHost.Proofs.Discipline
import ScriptHost.Proofs.NextTick
import ScriptHost.Proofs.OwnWork
import ScriptHost.Proofs.Requests

/-!
# Delivered requests

For each request that is issued one completion comes of the transport, or of its being malformed.
If it is posted before the queue closes, one of the two callbacks of the request is invoked for it,
once and on the owning thread, and then both pairs are in line for the next sweep. Completions are
delivered in the order in which they are posted, and what is posted too late is not delivered.

## Main definitions

* `History.completions`, `History.deliveries` — the completions that have been posted, and those
  that have come to the loop.
* `Session.Told` — a completion has been delivered to a callback.
* `Moment.Fate` — what becomes of one request.

## Main statements

* `Session.Owned.told` — a completion that comes to the loop is delivered to a callback.
* `Moment.Course.served` — completions come from requests, one for each.
* `Moment.request_delivery` — what becomes of a request that is issued.

## Design notes

The engine is at hand for jobs, tasks and bodies that hold the lock, and they may invoke any
callback directly. What is counted is what the loop does for a request: while it handles a
completion no code has the engine at hand, so there is one invocation and no other.
-/

namespace ScriptHost

namespace History

/-- The completions that have been posted, in that order. -/
def completions (h : History Message) : List (Call × Completion) :=
  h.joined.filterMap fun x => x.message.completed?

/-- The completions that have come to the loop, in that order. -/
def deliveries (h : History Message) : List (Call × Completion) :=
  h.handled.filterMap fun x => x.2.completed?

variable (h k : History Message)

@[simp] theorem completions_append :
    (h ++ k : History Message).completions = h.completions ++ k.completions := by
  simp [completions]

@[simp] theorem deliveries_append :
    (h ++ k : History Message).deliveries = h.deliveries ++ k.deliveries := by
  simp [deliveries]

end History

/-- What has been handled in order has carried the same completions. -/
theorem completed_of_handledAt {front : List (Arrival Message)} {handled : List (Nat × Message)}
    (same : List.Forall₂ Arrival.HandledAt front handled) :
    front.filterMap (fun x => x.message.completed?) =
      handled.filterMap fun x => x.2.completed? := by
  induction same with
  | nil => rfl
  | cons matched _ ih => rw [List.filterMap_cons, List.filterMap_cons, matched.1, ih]

theorem Message.completed?_of_isTimely {m : Message} (timely : m.isTimely = true) :
    m.completed? = none := by
  cases m with
  | complete call completion => cases timely
  | _ => rfl

theorem Message.eq_of_completed? {m : Message} {call : Call} {completion : Completion}
    (carries : m.completed? = some (call, completion)) : m = .complete call completion := by
  cases m with
  | complete other completion' =>
    cases carries
    rfl
  | _ => cases carries

/-- The request whose completion has come to the loop. -/
def Event.delivered? : Event → Option Call
  | .delivered call => some call
  | _ => none

namespace Session

variable {s t : Session} {call : Call} {completion : Completion}

/-! ## One delivery -/

/-- A completion has been delivered: one callback of its request has been invoked on the owning
thread, with payload, status and flag, and nothing else has been invoked meanwhile. Then both pairs
are in line. -/
structure Told (call : Call) (completion : Completion) (s t : Session) : Prop where
  invoked : ∃ entries,
    t.log = entries ++ .invoke (if completion.success then call.successPair else call.errorPair)
      [.ofText? completion.payload, .ofNat completion.status.toNat, .bool call.request.processData]
      .loop :: s.log ∧ ∀ e ∈ entries, e.isInvoke = false
  buried : ∀ pair ∈ call.pairs, pair ∈ t.custody.buried

/-- What callbacks leave in the log are no invocations. -/
theorem quietHabits (told : Bool) (thread : Thread) :
    Habits (fun e => e.isInvoke = false) told thread where
  sent e sent := by
    cases e with
    | transport request => rfl
    | _ => cases sent
  replied _ _ := rfl
  observed _ _ := rfl

/-- A callback that is invoked invokes no other. -/
theorem invoke_log (s : Session) (thread : Thread) (pair : Pair) (arguments : List Json.Value) :
    Logged (fun e => e.isInvoke = false) (.invoke pair arguments thread :: s.log)
      (s.invoke thread pair arguments).2.log := by
  let before := s.invoked pair.callback
  let noted : Session := { s.note (.invoke pair arguments thread) with
    invocations := (pair.callback, before + 1) :: s.invocations.filter (·.1 != pair.callback) }
  exact (playScripted_leaves (quietHabits s.readiness.ready thread)
    (s.program.callbackActions pair.callback before) noted rfl).2

theorem invokeLive_log {pair : Pair} (live : s.custody.isLive pair = true) (thread : Thread)
    (arguments : List Json.Value) :
    Logged (fun e => e.isInvoke = false) (.invoke pair arguments thread :: s.log)
      (s.invokeLive thread pair arguments).2.log := by
  simp only [invokeLive, live, if_true]
  exact s.invoke_log thread pair arguments

theorem mem_buried_bury (c : Custody) (pair : Pair) : pair ∈ (c.bury pair).buried := by
  unfold Custody.bury
  split
  · next buried => simpa [Custody.isBuried] using buried
  · simp

theorem mem_buried_buryAll {c : Custody} {pairs : List Pair} :
    ∀ pair, pair ∈ pairs ∨ pair ∈ c.buried → pair ∈ (c.buryAll pairs).buried := by
  induction pairs generalizing c with
  | nil => simp [Custody.buryAll]
  | cons first rest ih =>
    intro pair mem
    refine ih pair ?_
    rcases mem with mem | mem
    · rcases List.mem_cons.1 mem with rfl | mem
      · exact .inr (mem_buried_bury c pair)
      · exact .inl mem
    · refine .inr ?_
      unfold Custody.bury
      split
      · exact mem
      · exact List.mem_append_left _ mem

/-- A completion that comes to the loop while nobody else holds the execution lock is delivered. -/
theorem Owned.told {lanes : Lanes Message} (h : Owned none [] [] s) (free : s.lock = .free)
    (next : s.lanes.next? = some (.complete call completion, lanes)) (bound : Nat) :
    ∃ t, { s with lanes }.handle bound (.complete call completion) = some t ∧
      Told call completion s t := by
  have going : s.isKeptOut = false := by simp [isKeptOut, free, Lock.free]
  refine ⟨_, (deliver_eq { s with lanes } call completion).trans (if_neg ?_), ?_,
    fun pair mem => ?_⟩
  · simpa [isKeptOut] using going
  · have live : (call.delivery (some completion)).1 ∈ s.custody.live :=
      (h.received next).balanced.hand_live (delivery_mem call completion)
    have isLive : s.custody.isLive (call.delivery (some completion)).1 = true := by
      simpa [Custody.isLive] using live
    let u : Session := ({ s with lanes } : Session).arrived call
    have free : u.lock = .free := free
    show ∃ entries, (u.engaged fun s => (s.invokeLive .loop _ _).2).log = _ ∧ _
    rw [engaged_free free]
    obtain ⟨entries, quiet, log⟩ := @invokeLive_log { u with lock := ⟨some .loop⟩ } _ isLive .loop
      (call.delivery (some completion)).2
    exact ⟨entries, log, quiet⟩
  · exact mem_buried_buryAll pair (.inl mem)

end Session

theorem Session.Spawned.blank {s : Session} (spawned : s.Spawned) : s.awaited = [] ∧ s.Sent := by
  obtain ⟨_, _, settings, program, modules, made⟩ := spawned
  rw [Session.spawn_eq_ok made]
  refine ⟨rfl, ⟨⟨.nil, nofun, ?_, nofun, .slnil, fun _ => rfl, nofun⟩, fun some => absurd rfl some⟩⟩
  show [] = if program.hasTransport then [] else []
  exact (ite_self _).symm

namespace Moment

open Session (Changed Owned Served Spawned awaited completionsIn)

variable {h k : History Message} {m m' n : Moment}

/-! ## From one moment to another -/

theorem Act.served (a : Act m m') : Served m.session [] m'.session := by
  cases a with
  | code d => exact d.served
  | @rearmed s timer =>
    have rearmed : Served s [] { s with
        timers := s.timers.rearmed timer.id s.lanes.nextTicket } :=
      .same rfl (.refl _)
    exact rearmed.behind (Session.served_arm _ _ rfl)
  | swept s =>
    obtain ⟨released, _, eq, -⟩ := s.sweepGraveyard_eq
    rw [eq]
    have quiet : (released.map Entry.dispose).reverse.filterMap Entry.sent? = [] := by
      refine List.filterMap_eq_nil_iff.2 fun e mem => ?_
      obtain ⟨pair, -, rfl⟩ := List.mem_map.1 (List.mem_reverse.1 mem)
      rfl
    refine .same ?_ (.refl _)
    show { s.dealings with
      called := ((released.map Entry.dispose).reverse ++ s.log).filterMap Entry.sent? } = s.dealings
    rw [List.filterMap_append, quiet]
    rfl
  | sweepArmed s => exact (Session.served_tables s).armSweep true (.refl s)
  | cleared s =>
    obtain ⟨alarms, sub, eq⟩ := s.clear_eq
    rw [eq]
    exact .same rfl (Session.completionsIn_alarms sub)
  | @dropped s gone =>
    have fewer : s.forsake.awaited.Subperm s.awaited := by
      unfold Session.awaited
      rw [List.append_assoc, List.append_assoc]
      exact (List.sublist_append_right ..).subperm
    exact ⟨Nat.le_refl _, ⟨[], by simpa using fewer, List.nodup_nil, nofun⟩, rfl,
      List.Subset.refl _, List.Subset.refl _, fun h => h.forsake, fun _ => nofun⟩
  | ended s => exact .same rfl List.nil_subperm
  | @entered s =>
    have urged := Session.served_postUrgent s (m := .ready) rfl
    have armed := (Session.served_tables s).armSweep true urged
    exact armed.behind (.same rfl (.refl _))
  | abandoned => exact .same rfl List.nil_subperm
  | crashed => exact .same rfl List.nil_subperm
  | _ => exact .same rfl (.refl _)

theorem Next.served (n : Next m k m') : Served m.session k.deliveries m'.session := by
  cases n with
  | act a c =>
    have none : k.deliveries = [] := by rw [History.deliveries, c.lanes.taken.1, List.filterMap_nil]
    rw [none]
    exact a.served
  | @took s msg lanes _ next other =>
    have quiet := Message.completed?_of_call? other
    have none : History.deliveries [s.lanes.taking s.clock msg] = [] := by
      unfold Lanes.taking
      split <;> simp [History.deliveries, History.handled, Happening.handled?, quiet]
    rw [none]
    refine Session.served_lanes ?_
    have taken := (Lanes.messages_next next).filterMap Message.completed?
    rw [List.filterMap_cons_none quiet] at taken
    exact taken.symm.subperm
  | @received s call completion lanes _ next =>
    have taken : (completionsIn s.lanes).Perm ((call, completion) :: completionsIn lanes) :=
      (Lanes.messages_next next).filterMap Message.completed?
    have one : (History.deliveries [s.lanes.taking s.clock (.complete call completion)]).Sublist
        [(call, completion)] := by
      unfold Lanes.taking
      split
      · exact .refl _
      · exact List.nil_sublist _
    have left : Served s [] { s with lanes } :=
      Session.served_lanes ((List.sublist_cons_self ..).subperm.trans taken.symm.subperm)
    have counted : Served { s with lanes } [] (({ s with lanes } : Session).arrived call) :=
      .same rfl (.refl _)
    refine ⟨Nat.le_refl _, ⟨[], ?_, List.nodup_nil, List.forall_mem_nil _⟩, rfl,
      List.Subset.refl _, List.Subset.refl _, (left.behind counted).sent, fun h c mem ok => ?_⟩
    · rw [List.append_nil]
      refine ((one.subperm.append (.refl _))).trans ?_
      exact ((taken.append_left _).trans List.perm_middle).symm.subperm
    · obtain rfl := List.mem_singleton.1 (one.subset mem)
      exact h.answered _ (List.mem_append_right _ (taken.mem_iff.2 List.mem_cons_self)) ok
  | due s =>
    have none : History.deliveries [.due (s.lanes.alarms.takeWhile (·.due ≤ s.clock))] = [] := rfl
    rw [none]
    exact Session.served_lanes ((Lanes.messages_deliverDue ..).filterMap _).subperm
  | passed => exact .same rfl (.refl _)

/-- Completions come from requests, one for each. -/
theorem Course.served (c : Course m k m') : Served m.session k.deliveries m'.session := by
  induction c with
  | none => exact .refl _
  | more _ n ih =>
    rw [History.deliveries_append]
    exact ih.trans n.served

/-- From the beginning on, requests have been numbered one by one. -/
theorem Course.numbered {origin : Session} (spawned : Spawned origin)
    (c : Course ⟨origin, .nothing⟩ h m) :
    (∀ x ∈ h.deliveries ++ m.session.awaited, x.1.id < m.session.traffic.nextId) ∧
      m.session.Sent := by
  obtain ⟨blank, unsent⟩ := spawned.blank
  have served := c.served
  obtain ⟨new, among, -, range⟩ := served.completions
  refine ⟨fun x mem => ?_, served.sent unsent⟩
  have mem := among.subset mem
  rw [blank, List.nil_append] at mem
  exact (range x mem).2

/-! ## What has been posted and what has been delivered -/

theorem Entered.timely (g : Entered h m) {a : Alarm Message} (mem : a ∈ h.delayed) :
    a.message.completed? = none := by
  obtain ⟨clock, after⟩ := g.after.1
  have armed := after.inTime.armed a (List.mem_append_left _ mem)
  exact Message.completed?_of_isTimely (g.standing.proper _ (History.armed_mem armed))

/-- Completions are delivered in the order in which they have been posted. Those that have not come
to the loop are in line, and there are none when it is idle or has ended. -/
theorem Entered.completions (g : Entered h m) :
    ∃ waiting, h.completions = h.deliveries ++ waiting ∧
      waiting.Sublist (completionsIn m.session.lanes) ∧
      (m.session.loop = .running →
        waiting = m.session.lanes.ordinary.filterMap Message.completed?) ∧
      (m.session.loop = .ended → waiting = []) := by
  have discipline := g.discipline
  rcases g.loop with running | ended
  · obtain ⟨front, back, joined, handledAt, waits⟩ := discipline.inOrder
    have waits := waits running
    refine ⟨m.session.lanes.ordinary.filterMap Message.completed?, ?_, ?_, fun _ => rfl,
      fun ended => ?_⟩
    · rw [History.completions, History.deliveries, joined, List.filterMap_append,
        completed_of_handledAt handledAt, waits, List.filterMap_map]
      rfl
    · exact ((List.sublist_append_right ..).trans (List.sublist_append_left ..)).filterMap _
    · cases running.symm.trans ended
  · obtain ⟨front, last, back, joined, handledAt, armed, -⟩ := discipline.ended ended
    refine ⟨[], ?_, List.nil_sublist _, fun running => ?_, fun _ => rfl⟩
    rotate_left
    · cases running.symm.trans ended
    -- What has come behind the last message had been armed, so it is no completion.
    have none : back.filterMap (fun x => x.message.completed?) = [] := by
      refine List.filterMap_eq_nil_iff.2 fun x mem => ?_
      obtain ⟨a, some⟩ := Option.isSome_iff_exists.1 (armed x mem)
      have joinedTo : x ∈ h.joined := by simp [joined, mem]
      have delayed : a ∈ h.delayed := List.mem_filterMap.2 ⟨x, joinedTo, some⟩
      cases x with
      | delayed b =>
        obtain rfl : b = a := Option.some.inj some
        exact g.timely delayed
      | _ => cases some
    have split : h.joined = (front ++ [.last last]) ++ back := by simp [joined]
    rw [List.append_nil, History.completions, History.deliveries, split, List.filterMap_append,
      completed_of_handledAt handledAt, none, List.append_nil]

theorem closed_of_next {l l' : Lanes Message} {msg : Message} (next : l.next? = some (msg, l')) :
    l'.closed = l.closed := by
  rw [Lanes.next?_rest next]

theorem completions_taking (l : Lanes Message) (clock : Nat) (msg : Message) :
    History.completions [l.taking clock msg] = [] := by
  unfold Lanes.taking
  split <;> rfl

/-- A queue that is closed accepts no more completions. -/
theorem Course.late (c : Course m k m') (g : Entered h m) (closed : m.session.lanes.closed = true) :
    m'.session.lanes.closed = true ∧ k.completions = [] := by
  induction c with
  | none => exact ⟨closed, rfl⟩
  | @more m' m'' k j c n ih =>
    obtain ⟨closed, none⟩ := ih
    have g' := (c.more n).entered g
    rw [History.completions_append, none, List.nil_append]
    cases n with
    | act a d =>
      obtain ⟨closed, -, joined, -⟩ := d.lanes.of_closed closed 0
      exact ⟨closed, by rw [History.completions, joined, List.filterMap_nil]⟩
    | took _ next => exact ⟨(closed_of_next next).trans closed, completions_taking ..⟩
    | received _ next => exact ⟨(closed_of_next next).trans closed, completions_taking ..⟩
    | due s =>
      refine ⟨closed, List.filterMap_eq_nil_iff.2 fun x mem => ?_⟩
      -- What comes due had been armed before.
      obtain ⟨a, due, rfl⟩ : ∃ a ∈ s.lanes.alarms.takeWhile (·.due ≤ s.clock), .delayed a = x := by
        simpa [History.joined, Happening.arrivals] using mem
      refine g'.timely ?_
      rw [History.delayed_append, History.delayed_append, History.delayed_due]
      exact List.mem_append_right _ (List.mem_append_right _ due)
    | passed => exact ⟨closed, rfl⟩

/-! ## What becomes of a request -/

/-- What becomes of a request whose outcome is known. -/
structure Fate (call : Call) (outcome : Completion) (h : History Message) (n : Moment) : Prop where
  /-- The request has its number to itself. -/
  number : call.id < n.session.traffic.nextId
  /-- Requests are taken by workers in the order in which they were issued. The transport, if there
  is one, has been called for those that were taken, and none waits while a worker is free. -/
  sent : n.session.Sent
  /-- The transport is never called for a malformed request. -/
  malformed : n.session.prepared? call = none →
    call ∉ n.session.journal.sent ∧ call ∉ n.session.postponed
  /-- It has been called once for a request that could be prepared, or the request waits because all
  workers are busy, or it has been given up with the last handle. -/
  started : n.session.prepared? call ≠ none →
    n.session.journal.sent.count call = 1 ∧ call ∉ n.session.postponed ∨
      call ∉ n.session.journal.sent ∧ call ∈ n.session.postponed ∧ n.session.hasWorker = false ∨
      call ∉ n.session.journal.sent ∧ call ∉ n.session.postponed ∧
        n.session.settings.workerThreads ≠ none ∧ n.session.dropped = true
  /-- It has been called for a request that could be prepared if its outcome has been posted. -/
  answered : n.session.prepared? call ≠ none →
    h.completions.filter (·.1.id = call.id) ≠ [] → n.session.journal.sent.count call = 1
  /-- Its outcome has been posted once, or not yet, and no other completion for it. -/
  posted : h.completions.filter (·.1.id = call.id) = [] ∨
    h.completions.filter (·.1.id = call.id) = [(call, outcome)]
  /-- Completions have been delivered in the order in which they were posted; the others wait. -/
  inOrder : ∃ waiting, h.completions = h.deliveries ++ waiting ∧
    (n.session.loop = .running →
      waiting = n.session.lanes.ordinary.filterMap Message.completed?)
  /-- When the loop is idle or has ended, the outcome has been delivered once if it was posted, and
  not at all if it was not. -/
  delivered : (n.session.loop = .running ∧ n.session.lanes.next? = none ∨
      n.session.loop = .ended) →
    h.deliveries.filter (·.1.id = call.id) = h.completions.filter (·.1.id = call.id)
  /-- What has not been posted when the queue is closed is never delivered. -/
  late : n.session.lanes.closed = true → h.completions.filter (·.1.id = call.id) = [] →
    ∀ {k n'}, Course n k n' → (h ++ k : History Message).deliveries.filter (·.1.id = call.id) = []
  /-- A completion that is next is delivered to a callback, as long as nobody has kept the execution
  lock. -/
  told : ∀ {other completion lanes}, n.doing = .nothing → n.session.loop = .running →
    n.session.lanes.next? = some (.complete other completion, lanes) →
    History.deliveries [n.session.lanes.taking n.session.clock (.complete other completion)] =
      [(other, completion)] ∧
    (n.session.lock = .free → ∀ bound,
      ∃ t, { n.session with lanes }.handle bound (.complete other completion) = some t ∧
        Session.Told other completion n.session t)

theorem eq_of_subperm_singleton {α : Type} {l : List α} {a : α} (among : l.Subperm [a]) :
    l = [] ∨ l = [a] := by
  obtain ⟨l', perm, sub⟩ := among
  rcases List.sublist_singleton.1 sub with rfl | rfl
  · exact .inl perm.nil_eq.symm
  · exact .inr (List.perm_singleton.1 perm.symm)

/-- Completions are taken from the ordinary lane. -/
theorem Entered.taking (g : Entered h m) (idle : m.doing = .nothing)
    (running : m.session.loop = .running) {call : Call} {completion : Completion}
    {lanes : Lanes Message}
    (next : m.session.lanes.next? = some (.complete call completion, lanes)) :
    History.deliveries [m.session.lanes.taking m.session.clock (.complete call completion)] =
      [(call, completion)] := by
  have unfinished := g.standing.before (.inr running) (by rw [idle]; rfl)
  -- Only urgent messages come to the urgent lane.
  have patient : Message.complete call completion ∉ m.session.lanes.urgent := by
    intro mem
    have waits := unfinished.after.urgently.waits unfinished.taken
    have urged : Message.complete call completion ∈ h.urged := by simp [waits, mem]
    cases g.standing.proper _ (History.urged_mem urged)
  have none := (Lanes.next?_turn next patient).1
  simp [Lanes.taking, none, History.deliveries, History.handled, Happening.handled?,
    Message.completed?]

/-- An idle loop has delivered every completion it has ever been sent, and so has one that has
ended. -/
theorem Entered.settled (g : Entered h m)
    (settled : m.session.loop = .running ∧ m.session.lanes.next? = none ∨
      m.session.loop = .ended) : h.completions = h.deliveries := by
  obtain ⟨waiting, split, -, inLine, ended⟩ := g.completions
  rcases settled with ⟨running, idle⟩ | gone
  · have none : waiting = [] := by
      rw [inLine running, Lanes.ordinary_eq_nil_of_next? idle, List.filterMap_nil]
    rw [split, none, List.append_nil]
  · rw [split, ended gone, List.append_nil]

/-- Of a request that has been issued, its outcome is the only completion. -/
theorem Course.alone {origin : Session} {order : Order} {id : Nat} {s : Session}
    (spawned : Spawned origin) (before : Course ⟨origin, .nothing⟩ h m)
    (issued : m.session.Issued order id s) (after : Course ⟨s, m.doing⟩ k n) :
    ((h.deliveries ++ k.deliveries ++ n.session.awaited).filter (·.1.id = id)).Subperm
      [(order.call id, m.session.outcomeOf order)] := by
  obtain ⟨below, -⟩ := before.numbered spawned
  obtain ⟨same, next⟩ := issued.number
  obtain ⟨new, among, -, range⟩ := after.served.completions
  have among : (h.deliveries ++ k.deliveries ++ n.session.awaited).Subperm
      ((h.deliveries ++ m.session.awaited) ++ [(order.call id, m.session.outcomeOf order)] ++
        new) := by
    have first := (List.subperm_append_right new).2 issued.awaited
    have whole := (List.subperm_append_left h.deliveries).2 (among.trans first)
    simpa only [List.append_assoc] using whole
  -- What was awaited before has other numbers, and so has what has been issued since.
  have earlier : (h.deliveries ++ m.session.awaited).filter (·.1.id = id) = [] := by
    refine List.filter_eq_nil_iff.2 fun x mem => ?_
    have less := below x mem
    simp only [decide_eq_true_eq]
    omega
  have later : new.filter (·.1.id = id) = [] := by
    refine List.filter_eq_nil_iff.2 fun x mem => ?_
    have more := (range x mem).1
    simp only [decide_eq_true_eq]
    simp only at more
    omega
  have rest : ((h.deliveries ++ m.session.awaited) ++
      [(order.call id, m.session.outcomeOf order)] ++ new).filter (·.1.id = id) =
        [(order.call id, m.session.outcomeOf order)] := by
    rw [List.filter_append, List.filter_append, earlier, later]
    simp [Order.call]
  exact rest ▸ among.filter _

/-- Whatever becomes of a request that is issued at one moment, at a later one that has come to be
by such a history. -/
theorem request_delivery {origin : Session} {e : History Message} {door : Door} {noThreads : Bool}
    {order : Order} {id : Nat} (spawned : Spawned origin) (before : Course ⟨origin, .nothing⟩ h m)
    (given : (m.session.issue door noThreads order).1 = some id)
    (step : Changed m.session e (m.session.issue door noThreads order).2)
    (after : Course ⟨(m.session.issue door noThreads order).2, m.doing⟩ k n)
    (past : Past (h ++ e ++ k) n) :
    m.session.Issued order id (m.session.issue door noThreads order).2 ∧
      Fate (order.call id) (m.session.outcomeOf order) (h ++ e ++ k) n := by
  have issued := Session.issue_issued given
  refine ⟨issued, ?_⟩
  have g := past.entered
  have act : Act m ⟨(m.session.issue door noThreads order).2, m.doing⟩ :=
    .code (Session.Deeds.issue m.session door noThreads order : Session.Deeds .loop _ _) m.doing
  have course := (before.more (.act act step)).trans after
  obtain ⟨waiting, split, among, inLine, -⟩ := g.completions
  have quiet : e.deliveries = [] := by rw [History.deliveries, step.lanes.taken.1]; rfl
  have alone := before.alone spawned issued after
  have whole : ((h ++ e ++ k : History Message).completions.filter (·.1.id = id)).Subperm
      [(order.call id, m.session.outcomeOf order)] := by
    refine List.Subperm.trans ?_ alone
    rw [split, History.deliveries_append, History.deliveries_append, quiet, List.append_nil]
    refine List.Sublist.subperm ?_
    refine List.Sublist.filter _ (List.Sublist.append_left (among.trans ?_) _)
    exact List.sublist_append_right ..
  have sent := (course.numbered spawned).2
  have known : order.call id ∈ n.session.journal.issued :=
    after.served.issued (issued.recorded ▸ List.mem_cons_self)
  exact
    { number := by
        have more := after.served.numbers
        rw [issued.number.2] at more
        exact more
      sent := sent
      malformed := sent.malformed
      started := sent.fate known
      answered := fun ok posted => by
        have own := (eq_of_subperm_singleton whole).resolve_left posted
        have mem : (order.call id, m.session.outcomeOf order) ∈
            (h ++ e ++ k : History Message).completions :=
          List.mem_of_mem_filter (own ▸ List.mem_singleton_self _)
        refine List.count_eq_one_of_mem (List.nodup_append.1 sent.nodup).2.1 ?_
        rw [split] at mem
        rcases List.mem_append.1 mem with mem | mem
        · have program := Session.prepared?_eq course.served.program
          exact course.served.answered spawned.blank.2 _ mem (program ▸ ok)
        · exact sent.answered _ (List.mem_append_right _ (among.subset mem)) ok
      posted := eq_of_subperm_singleton whole
      inOrder := ⟨waiting, split, inLine⟩
      delivered := fun settled => by rw [g.settled settled]
      late := fun closed unposted {l n'} later => by
        obtain ⟨-, none⟩ := later.late g closed
        obtain ⟨waiting', split', -⟩ := (later.entered g).completions
        rw [History.completions_append, none, List.append_nil] at split'
        rw [split', List.filter_append] at unposted
        exact (List.append_eq_nil_iff.1 unposted).1
      told := fun idle running next => by
        refine ⟨g.taking idle running next, fun free bound => ?_⟩
        have owned : n.Balanced := Occurs.balanced ⟨origin, spawned, _, course⟩
        rw [Balanced, idle] at owned
        exact Session.Owned.told owned free next bound }

end Moment

namespace Session

open Moment (Course Fate Past)

/-- An engine with a transport. -/
def sending : Program := { (default : Program) with hasTransport := true }

/-- A request that is answered at once. -/
def greeting : Order where
  request := ⟨"http://h/", none, "GET", false⟩
  onSuccess := 1
  onError := 2
  receiver := 9
  answer := .completes ⟨some "hello", 200, true⟩
  hold := none

/-- The request is issued in an idle session. Its completion is next, and it is delivered. -/
theorem request_delivery_sending :
    ∃ (h : History Message) (s t : Session), Past h ⟨s, .nothing⟩ ∧
      Fate (greeting.call 1) ⟨some "hello", 200, true⟩ h ⟨s, .nothing⟩ ∧
      Told (greeting.call 1) ⟨some "hello", 200, true⟩ s t := by
  have up : (plain sending).bringUp.loop = .running := by decide +kernel
  obtain ⟨s, r, found⟩ := @Fresh.scenario (plain sending) 50 []
    (fun s =>
      let t := (s.issue .handle false greeting).2
      decide ((s.issue .handle false greeting).1 = some 1 ∧
        s.outcomeOf greeting = ⟨some "hello", 200, true⟩ ∧ t.loop = .running ∧ t.lock = .free ∧
        t.lanes.urgent.length = 0 ∧ t.lanes.ordinary.map Message.completed? =
          [some (greeting.call 1, ⟨some "hello", 200, true⟩)]))
    (plain_fresh _) (by decide +kernel)
  obtain ⟨given, outcome, running, free, urgent, ordinary⟩ := of_decide_eq_true found
  obtain ⟨h, origin, between, early, late, spawned, rfl, before, entered, after⟩ :=
    r.past (plain_fresh _) up
  obtain ⟨e, step⟩ :=
    (moved_edits s).issue .handle false greeting (.refl s)
  have act : Moment.Act ⟨s, .nothing⟩ ⟨(s.issue .handle false greeting).2, .nothing⟩ :=
    .code (Deeds.issue s .handle false greeting : Deeds .host _ _) .nothing
  have past : Past (early ++ late ++ e ++ []) ⟨(s.issue .handle false greeting).2, .nothing⟩ :=
    ⟨origin, between, early, late ++ e, spawned, by simp, before, entered,
      after.more (.act act step)⟩
  have fate := (Moment.request_delivery spawned (before.trans after) given step (.none _) past).2
  rw [outcome] at fate
  obtain ⟨lanes, next⟩ : ∃ lanes, (s.issue .handle false greeting).2.lanes.next? =
      some (.complete (greeting.call 1) ⟨some "hello", 200, true⟩, lanes) := by
    obtain ⟨m, line, carries⟩ := List.map_eq_singleton_iff.1 ordinary
    have m_eq := Message.eq_of_completed? carries
    exact ⟨_, by rw [Lanes.next?, List.eq_nil_of_length_eq_zero urgent, line, m_eq]⟩
  obtain ⟨t, -, told⟩ := (fate.told rfl running next).2 free 1
  exact ⟨_, _, t, past, fate, told⟩

/-- A session with a single worker. -/
def alone (program : Program) : Session :=
  { plain program with settings := { Settings.default with workerThreads := some 1 } }

theorem alone_fresh (program : Program) : Fresh (alone program) :=
  @Fresh.spawned (fun _ => false) ⟨none, none, none⟩
    { Settings.default with workerThreads := some 1 } program [] _ rfl

/-- Another request, whose answer is held back. -/
def pending : Order := { greeting with onSuccess := 3, onError := 4, hold := some "k" }

/-- A request that comes behind it. -/
def postponing : Order := { greeting with onSuccess := 5, onError := 6 }

/-- The first observer keeps the lock, and there is a single worker. -/
def lonely : Session := ((alone sending).earlySteps [.act (.observe "o" [.leakLock])]).2.2

/-- With an observer that keeps the lock, the completion of a request comes to an idle loop whose
queue is open, but no callback is ever invoked. While the only worker waits for the answer to
another request, the transport is not called for the next one. -/
theorem request_untold :
    ∃ s, Reached lonely .loop s ∧ s.loop = .running ∧ s.lanes.closed = false ∧
      s.lanes.next?.isNone = true ∧ s.journal.filterMap Event.delivered? = [greeting.call 1] ∧
      s.log.any Entry.isInvoke = false ∧
      s.journal.issued = [postponing.call 3, pending.call 2, greeting.call 1] ∧
      s.prepared? (postponing.call 3) ≠ none ∧ postponing.call 3 ∉ s.journal.sent := by
  obtain ⟨s, r, found⟩ := @Fresh.scenario lonely 50
    [.act (.request .handle false greeting), .run 0, .act (.request .handle false pending),
      .act (.request .handle false postponing)]
    (fun s => decide (s.loop = .running ∧ s.lanes.closed = false ∧ s.lanes.next?.isNone = true ∧
      s.journal.filterMap Event.delivered? = [greeting.call 1] ∧ s.log.any Entry.isInvoke = false ∧
      s.journal.issued = [postponing.call 3, pending.call 2, greeting.call 1] ∧
      s.prepared? (postponing.call 3) ≠ none ∧ postponing.call 3 ∉ s.journal.sent))
    (earlySteps_fresh _ (alone_fresh _)) (by decide +kernel)
  exact ⟨s, r, of_decide_eq_true found⟩

end Session
end ScriptHost
