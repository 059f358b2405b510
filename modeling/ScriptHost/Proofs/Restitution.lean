import ScriptHost.Proofs.Cancellation

/-!
# What a table of timers hands back

The pair of a timer is handed back by the call that cancels it, by the end of its firing, or when
the table is cleared, and each of these has to know whether another one has done so or will. Here a
table is used in any way at all, as long as no firing begins while another one is out. Every timer
that has been entered is then either kept, because it is live or fires, or it has been handed back,
once.

## Main definitions

* `TimerCall`, `TimerEvent` — a call on a table, and a call with what has come of it.
* `Timekeeper` — a table in use: its queue, and the firing that is out.
* `Timekeeper.perform`, `Timekeeper.play` — one call, and one call after the other.
* `Timekeeper.held` — the timers whose pairs have not been handed back.
* `Timekeeper.Change` — what a call can do to them.

## Main statements

* `Timekeeper.perform_eq_none_iff` — which calls are out of order.
* `Timekeeper.perform_schedule`, `perform_cancel`, `perform_begin`, `perform_finish` — what becomes
  of a timer.
* `Timekeeper.Sound.change`, `Timekeeper.Change.kept` — a call does no more than that, and nothing
  gets lost or is handed back twice.
* `Timekeeper.play_conserves` — what has been entered has been handed back or is held.
* `Timekeeper.handed_back_once` — how often the pair of a timer is handed back, and when.

## Design notes

Several timers may have the same pair, so a pair is handed back under the number of its timer.
What others do to the queue meanwhile is not restricted: they may close it at any point.
-/

namespace ScriptHost

/-- A timer as it is entered: its number and its pair. -/
def Timer.entry (timer : Timer) : Nat × Pair := (timer.id, timer.pair)

/-- Takes back the armed firing of a timer, if there is one. -/
def Lanes.callOff (lanes : Lanes Message) (timer : Timer) : Lanes Message :=
  match timer.ticket with
  | none => lanes
  | some ticket => lanes.withdraw ticket

/-- A call on a table of timers. -/
inductive TimerCall where
  | schedule (pair : Pair) (delay : Nat) (recurring : Bool)
  | cancel (id : Nat)
  | begin (id : Nat)
  /-- The firing that is out ends. -/
  | finish
  | clear
  /-- No call: time passes, and others leave the queue like this, open or closed. -/
  | meanwhile (clock : Nat) (lanes : Lanes Message)

/-- A call on a table of timers, with what has come of it. -/
inductive TimerEvent where
  | scheduled (id : Nat) (pair : Pair)
  /-- The queue is closed, so no timer is entered. -/
  | refused (pair : Pair)
  | cancelled (id : Nat) (answer : Cancellation)
  | begun (id : Nat)
  /-- There is no timer of that number to fire. -/
  | missed (id : Nat)
  | finished (id : Nat) (outcome : Firing)
  | cleared (timers : List Timer)
  | waited

namespace TimerEvent

/-- What an event enters. -/
def entered : TimerEvent → List (Nat × Pair)
  | scheduled id pair => [(id, pair)]
  | _ => []

/-- What an event hands back. -/
def returned : TimerEvent → List (Nat × Pair)
  | cancelled id (.bury timer) => [(id, timer.pair)]
  | finished id (.retire pair) => [(id, pair)]
  | cleared timers => timers.map Timer.entry
  | _ => []

end TimerEvent

/-- The timers that have been entered. -/
def enteredIn (past : List TimerEvent) : List (Nat × Pair) := past.flatMap TimerEvent.entered

/-- The timers whose pairs have been handed back. -/
def returnedIn (past : List TimerEvent) : List (Nat × Pair) := past.flatMap TimerEvent.returned

/-- The pairs that have been handed back under a number. -/
def returnedUnder (id : Nat) (past : List TimerEvent) : List Pair :=
  ((returnedIn past).filter (·.1 == id)).map Prod.snd

namespace Timers

variable {t : Timers} {timer : Timer} {id : Nat}

/-- The live timers, as they were entered. -/
def entries (t : Timers) : List (Nat × Pair) := t.live.map Timer.entry

theorem entries_ids (t : Timers) : t.entries.map Prod.fst = t.live.map Timer.id := by
  rw [entries, List.map_map]
  rfl

theorem isLive_iff_entries : t.isLive id = true ↔ id ∈ t.entries.map Prod.fst := by
  rw [entries_ids]
  exact isLive_iff

theorem entry_of_find? (found : t.find? id = some timer) :
    timer.entry ∈ t.entries ∧ timer.id = id := by
  obtain ⟨mem, same⟩ := Ledger.find?_mem found
  exact ⟨List.mem_map_of_mem mem, same⟩

theorem entries_schedule (t : Timers) (pair : Pair) (delay : Nat) (recurring : Bool)
    (ticket : Nat) :
    (t.schedule pair delay recurring (some ticket)).2.entries =
      t.entries ++ [(t.nextId, pair)] := by
  simp only [entries, schedule, List.map_append, List.map_cons, List.map_nil]
  rfl

theorem entries_remove (t : Timers) (id : Nat) :
    (t.remove id).entries = t.entries.filter (·.1 ≠ id) := by
  simp only [entries, remove, List.filter_map]
  rfl

/-- A timer keeps its entry while it fires: there is no other one of its number. -/
theorem entries_firing (ids : (t.entries.map Prod.fst).Nodup) (mem : timer.entry ∈ t.entries) :
    (t.firing timer).entries = t.entries := by
  simp only [entries, firing, List.map_map]
  apply List.map_congr_left
  intro other mem'
  by_cases same : other.id = timer.id
  · have entry : other.entry = timer.entry :=
      List.inj_on_of_nodup_map ids (List.mem_map_of_mem mem') mem same
    simp only [Function.comp_apply, if_pos same]
    exact entry.symm
  · simp only [Function.comp_apply, if_neg same]

theorem entries_rearmed (t : Timers) (id ticket : Nat) :
    (t.rearmed id ticket).entries = t.entries := by
  simp only [entries, rearmed, List.map_map]
  apply List.map_congr_left
  intro other _
  by_cases same : other.id = id
  · simp only [Function.comp_apply, if_pos same]
    rfl
  · simp only [Function.comp_apply, if_neg same]

theorem entries_cleared (t : Timers) :
    t.clear.1.map Timer.entry = t.entries.filter fun e => t.running ≠ some e.1 := by
  simp only [entries, clear, List.filter_map]
  rfl

end Timers

/-- A table of timers in use. -/
structure Timekeeper where
  timers : Timers
  lanes : Lanes Message
  clock : Nat
  /-- The timer that has been given out to be fired, until its firing ends. -/
  fired : Option Timer

namespace Timekeeper

/-- A new table, over any queue. -/
def fresh (clock : Nat) (lanes : Lanes Message) : Timekeeper := ⟨.empty, lanes, clock, none⟩

/-- A call, unless firings would overlap: a firing begins while another one is out, or ends while
none is. -/
def perform (k : Timekeeper) : TimerCall → Option (TimerEvent × Timekeeper)
  | .schedule pair delay recurring =>
    let (ticket, lanes) := k.lanes.arm (k.clock + delay) (.fire k.timers.nextId)
    match k.timers.schedule pair delay recurring ticket with
    | (some id, timers) => some (.scheduled id pair, { k with timers, lanes })
    | (none, timers) => some (.refused pair, { k with timers, lanes })
  | .cancel id =>
    match k.timers.cancel id with
    | (.unknown, timers) => some (.cancelled id .unknown, { k with timers })
    | (.bury timer, timers) =>
      some (.cancelled id (.bury timer), { k with timers, lanes := k.lanes.callOff timer })
    | (.deferred timer, timers) =>
      some (.cancelled id (.deferred timer), { k with timers, lanes := k.lanes.callOff timer })
  | .begin id =>
    match k.timers.begin id, k.fired with
    | (none, timers), _ => some (.missed id, { k with timers })
    | (some timer, timers), none => some (.begun id, { k with timers, fired := some timer })
    | (some _, _), some _ => none
  | .finish =>
    match k.fired with
    | none => none
    | some timer =>
      match k.timers.finish timer k.lanes.ticket? with
      | (.retire pair, timers) =>
        some (.finished timer.id (.retire pair), { k with timers, fired := none })
      | (.rearmed ticket, timers) =>
        let lanes := (k.lanes.arm (k.clock + timer.delay) (.fire timer.id)).2
        some (.finished timer.id (.rearmed ticket), { k with timers, lanes, fired := none })
  | .clear =>
    let (cleared, timers) := k.timers.clear
    some (.cleared cleared, { k with timers, lanes := cleared.foldl Lanes.callOff k.lanes })
  | .meanwhile clock lanes => some (.waited, { k with clock, lanes })

/-- One call after the other. -/
def play (k : Timekeeper) : List TimerCall → Option (List TimerEvent × Timekeeper)
  | [] => some ([], k)
  | call :: calls => do
    let (event, k) ← k.perform call
    let (events, k) ← k.play calls
    some (event :: events, k)

/-- Whether a timer is the one that is firing. -/
def fires (k : Timekeeper) (id : Nat) : Bool := k.fired.any (·.id == id)

/-- Whether a timer is live or firing. -/
def holds (k : Timekeeper) (id : Nat) : Bool := k.timers.isLive id || k.fires id

/-- The timer that has left the table while it fires. -/
def orphan (k : Timekeeper) : List (Nat × Pair) :=
  match k.fired with
  | none => []
  | some timer => if timer.id ∈ k.timers.entries.map Prod.fst then [] else [timer.entry]

/-- The timers whose pairs have not been handed back. -/
def held (k : Timekeeper) : List (Nat × Pair) := k.timers.entries ++ k.orphan

variable {k k' : Timekeeper} {call : TimerCall} {calls : List TimerCall} {event : TimerEvent}
  {past : List TimerEvent}

/-! ## The order of the calls -/

theorem perform_eq_none_iff : k.perform call = none ↔
    (∃ id, call = .begin id ∧ k.timers.isLive id = true ∧ k.fired ≠ none) ∨
      call = .finish ∧ k.fired = none := by
  cases call with
  | schedule pair delay recurring =>
    simp only [perform]
    split <;> simp
  | cancel id =>
    simp only [perform]
    split <;> simp
  | begin id =>
    cases found : k.timers.find? id with
    | none => simp [perform, Timers.begin, Timers.isLive, found]
    | some timer =>
      cases fired : k.fired <;> simp [perform, Timers.begin, Timers.isLive, found, fired]
  | finish =>
    cases fired : k.fired with
    | none => simp [perform, fired]
    | some timer =>
      simp only [perform, fired]
      split <;> simp
  | clear => simp [perform]
  | meanwhile clock lanes => simp [perform]

/-! ## What a call does -/

theorem perform_schedule (isOpen : k.lanes.closed = false) (pair : Pair) (delay : Nat)
    (recurring : Bool) :
    ∃ lanes, k.perform (.schedule pair delay recurring) = some (.scheduled k.timers.nextId pair,
      { k with
        timers := (k.timers.schedule pair delay recurring (some k.lanes.nextTicket)).2
        lanes }) := by
  simp only [perform, Lanes.arm_of_open isOpen]
  exact ⟨_, rfl⟩

/-- A number is used up even if the queue is closed. -/
theorem perform_schedule_closed (closed : k.lanes.closed = true) (pair : Pair) (delay : Nat)
    (recurring : Bool) :
    k.perform (.schedule pair delay recurring) = some (.refused pair,
      { k with timers := { k.timers with nextId := k.timers.nextId + 1 } }) := by
  simp only [perform, Lanes.arm_of_closed closed]
  rfl

theorem perform_cancel {timer : Timer} (found : k.timers.find? timer.id = some timer) :
    ∃ lanes, k.perform (.cancel timer.id) = some
      (.cancelled timer.id
        (if k.timers.running = some timer.id then .deferred timer else .bury timer),
        { k with timers := k.timers.remove timer.id, lanes }) := by
  by_cases running : k.timers.running = some timer.id
  · simp only [perform, Timers.cancel, found, if_pos running]
    exact ⟨_, rfl⟩
  · simp only [perform, Timers.cancel, found, if_neg running]
    exact ⟨_, rfl⟩

theorem perform_begin {timer : Timer} (found : k.timers.find? timer.id = some timer)
    (resting : k.fired = none) :
    k.perform (.begin timer.id) = some (.begun timer.id,
      { k with timers := k.timers.firing timer, fired := some { timer with ticket := none } }) := by
  obtain ⟨-, begun⟩ := Timers.begin_of_find? found
  simp only [perform, begun, resting]

theorem begin_overlapping {timer : Timer} (found : k.timers.find? timer.id = some timer)
    {other : Timer} (out : k.fired = some other) : k.perform (.begin timer.id) = none := by
  have live : k.timers.isLive timer.id = true := by simp [Timers.isLive, found]
  exact perform_eq_none_iff.2 (.inl ⟨_, rfl, live, by simp [out]⟩)

/-- A timer goes on behind its firing, or it leaves the table, if it has not left it before. -/
theorem perform_finish {timer : Timer} (fired : k.fired = some timer)
    (running : k.timers.running = some timer.id) :
    let goesOn :=
      k.timers.isLive timer.id = true ∧ timer.recurring = true ∧ k.lanes.closed = false
    (goesOn ∧ ∃ lanes, k.perform .finish = some
        (.finished timer.id (.rearmed k.lanes.nextTicket),
          { k with
            timers := k.timers.rearmed timer.id k.lanes.nextTicket
            lanes
            fired := none })) ∨
      ¬ goesOn ∧ k.perform .finish = some (.finished timer.id (.retire timer.pair),
        { k with timers := k.timers.retired timer.id, fired := none }) := by
  intro goesOn
  rcases Timers.finish_cases running k.lanes.ticket? with
    ⟨live, recurring, ticket, taken, finished⟩ | ⟨other, finished⟩
  · unfold Lanes.ticket? at taken
    split at taken
    · cases taken
    next isOpen =>
      cases taken
      refine .inl ⟨⟨live, recurring, Bool.eq_false_iff.2 isOpen⟩, ?_⟩
      simp only [perform, fired, finished]
      exact ⟨_, rfl⟩
  · refine .inr ⟨fun on => other ⟨on.1, on.2.1, ?_⟩, ?_⟩
    · simp [Lanes.ticket?, on.2.2]
    · simp only [perform, fired, finished]

/-! ## What is held -/

/-- What is known of every table in use. -/
structure Sound (k : Timekeeper) : Prop where
  ids : (k.timers.entries.map Prod.fst).Nodup
  below : ∀ e ∈ k.timers.entries, e.1 < k.timers.nextId
  running : k.timers.running = k.fired.map Timer.id
  firing : ∀ timer ∈ k.fired, timer.id < k.timers.nextId ∧
    ∀ e ∈ k.timers.entries, e.1 = timer.id → e = timer.entry

theorem fresh_sound (clock : Nat) (lanes : Lanes Message) : (fresh clock lanes).Sound where
  ids := List.nodup_nil
  below := nofun
  running := rfl
  firing := nofun

theorem held_of_resting (resting : k.fired = none) : k.held = k.timers.entries := by
  simp [held, orphan, resting]

theorem held_of_live {timer : Timer} (fired : k.fired = some timer)
    (live : timer.id ∈ k.timers.entries.map Prod.fst) : k.held = k.timers.entries := by
  simp only [held, orphan, fired, if_pos live, List.append_nil]

theorem held_of_gone {timer : Timer} (fired : k.fired = some timer)
    (gone : timer.id ∉ k.timers.entries.map Prod.fst) :
    k.held = k.timers.entries ++ [timer.entry] := by
  simp only [held, orphan, fired, if_neg gone]

theorem orphan_congr (fired : k'.fired = k.fired)
    (same : ∀ timer ∈ k.fired, timer.id ∈ k'.timers.entries.map Prod.fst ↔
      timer.id ∈ k.timers.entries.map Prod.fst) : k'.orphan = k.orphan := by
  cases out : k.fired with
  | none => simp only [orphan, fired, out]
  | some timer => simp only [orphan, fired, out, same timer out]

theorem holds_iff {id : Nat} : k.holds id = true ↔ id ∈ k.held.map Prod.fst := by
  have live := @Timers.isLive_iff_entries k.timers id
  rw [holds, Bool.or_eq_true, live]
  cases fired : k.fired with
  | none => simp [held_of_resting fired, fires, fired]
  | some timer =>
    by_cases there : timer.id ∈ k.timers.entries.map Prod.fst
    · rw [held_of_live fired there]
      refine or_iff_left_of_imp fun same => ?_
      have same : timer.id = id := by simpa [fires, fired] using same
      exact same ▸ there
    · rw [held_of_gone fired there, List.map_append, List.mem_append]
      refine or_congr_right ?_
      simp only [fires, fired, Option.any_some, beq_iff_eq, List.map_cons, List.map_nil,
        List.mem_singleton]
      exact eq_comm

namespace Sound

/-- A timer is entered under a new number. -/
theorem more (h : k.Sound) {pair : Pair}
    (entries : k'.timers.entries = k.timers.entries ++ [(k.timers.nextId, pair)])
    (next : k'.timers.nextId = k.timers.nextId + 1)
    (running : k'.timers.running = k.timers.running) (fired : k'.fired = k.fired) :
    k'.Sound := by
  have unused : k.timers.nextId ∉ k.timers.entries.map Prod.fst := by
    intro mem
    obtain ⟨e, mem, same⟩ := List.mem_map.1 mem
    have below := h.below e mem
    omega
  have mem_cases : ∀ e ∈ k'.timers.entries, e ∈ k.timers.entries ∨ e = (k.timers.nextId, pair) := by
    intro e mem
    rw [entries] at mem
    simpa using mem
  refine ⟨?_, ?_, by rw [running, fired, h.running], ?_⟩
  · rw [entries, List.map_append]
    exact h.ids.append (List.nodup_singleton _) (by simpa using unused)
  · intro e mem
    rcases mem_cases e mem with mem | rfl
    · have below := h.below e mem
      omega
    · omega
  · intro timer mem
    obtain ⟨below, own⟩ := h.firing timer (fired ▸ mem)
    refine ⟨by omega, fun e mem same => ?_⟩
    rcases mem_cases e mem with mem | rfl
    · exact own e mem same
    · omega

/-- Timers leave the table, and the firing that is out may end. -/
theorem fewer (h : k.Sound) (sub : k'.timers.entries.Sublist k.timers.entries)
    (next : k.timers.nextId ≤ k'.timers.nextId)
    (running : k'.timers.running = k'.fired.map Timer.id)
    (fired : ∀ timer ∈ k'.fired, timer ∈ k.fired) : k'.Sound where
  ids := h.ids.sublist (sub.map _)
  below := by
    intro e mem
    have below := h.below e (sub.subset mem)
    omega
  running := running
  firing := by
    intro timer mem
    obtain ⟨below, own⟩ := h.firing timer (fired timer mem)
    exact ⟨by omega, fun e mem => own e (sub.subset mem)⟩

/-- A live timer is given out to be fired. -/
theorem begun (h : k.Sound) {timer : Timer} (mem : timer.entry ∈ k.timers.entries)
    (entries : k'.timers.entries = k.timers.entries) (next : k'.timers.nextId = k.timers.nextId)
    (running : k'.timers.running = some timer.id) (fired : k'.fired = some timer) : k'.Sound where
  ids := entries ▸ h.ids
  below := by
    rw [entries, next]
    exact h.below
  running := by rw [running, fired, Option.map_some]
  firing := by
    intro other out
    obtain rfl : timer = other := Option.some.inj (fired.symm.trans out)
    refine ⟨next ▸ h.below timer.entry mem, fun e mem' same => ?_⟩
    rw [entries] at mem'
    exact List.inj_on_of_nodup_map h.ids mem' mem same

/-- The timer that is firing is held beside the other entries of the table. -/
theorem held_firing (h : k.Sound) {timer : Timer} (fired : k.fired = some timer) :
    k.held.Perm (k.timers.entries.filter (·.1 ≠ timer.id) ++ [timer.entry]) := by
  by_cases live : timer.id ∈ k.timers.entries.map Prod.fst
  · obtain ⟨e, mem, same⟩ := List.mem_map.1 live
    obtain rfl := (h.firing timer fired).2 e mem same
    rw [held_of_live fired live]
    exact (Ledger.perm_cons_filter h.ids mem).symm.trans (List.perm_append_singleton _ _).symm
  · have others : k.timers.entries.filter (·.1 ≠ timer.id) = k.timers.entries := by
      refine List.filter_eq_self.2 fun e mem => ?_
      have other : e.1 ≠ timer.id := fun same => live (same ▸ List.mem_map_of_mem mem)
      exact decide_eq_true other
    rw [others, held_of_gone fired live]

end Sound

/-! ## The account of the timers -/

/-- What a call can do to the timers that are held. -/
inductive Change (k k' : Timekeeper) : TimerEvent → Prop where
  /-- Nothing becomes of any timer; at most a number is used up. -/
  | quiet {event : TimerEvent} (enters : event.entered = []) (returns : event.returned = [])
      (entries : k'.timers.entries = k.timers.entries)
      (numbers : k.timers.nextId ≤ k'.timers.nextId)
      (running : k'.timers.running = k.timers.running) (fired : k'.fired = k.fired) :
      Change k k' event
  | scheduled {pair : Pair}
      (entries : k'.timers.entries = k.timers.entries ++ [(k.timers.nextId, pair)])
      (next : k'.timers.nextId = k.timers.nextId + 1)
      (running : k'.timers.running = k.timers.running) (fired : k'.fired = k.fired) :
      Change k k' (.scheduled k.timers.nextId pair)
  | cancelled {timer : Timer} {answer : Cancellation} (mem : timer.entry ∈ k.timers.entries)
      (answered : answer =
        if k.timers.running = some timer.id then .deferred timer else .bury timer)
      (entries : k'.timers.entries = k.timers.entries.filter (·.1 ≠ timer.id))
      (next : k'.timers.nextId = k.timers.nextId)
      (running : k'.timers.running = k.timers.running) (fired : k'.fired = k.fired) :
      Change k k' (.cancelled timer.id answer)
  | begun {timer : Timer} (mem : timer.entry ∈ k.timers.entries) (resting : k.fired = none)
      (entries : k'.timers.entries = k.timers.entries) (next : k'.timers.nextId = k.timers.nextId)
      (running : k'.timers.running = some timer.id) (fired : k'.fired = some timer) :
      Change k k' (.begun timer.id)
  | rearmed {timer : Timer} {ticket : Nat} (out : k.fired = some timer)
      (live : timer.id ∈ k.timers.entries.map Prod.fst)
      (entries : k'.timers.entries = k.timers.entries) (next : k'.timers.nextId = k.timers.nextId)
      (running : k'.timers.running = none) (fired : k'.fired = none) :
      Change k k' (.finished timer.id (.rearmed ticket))
  | retired {timer : Timer} (out : k.fired = some timer)
      (entries : k'.timers.entries = k.timers.entries.filter (·.1 ≠ timer.id))
      (next : k'.timers.nextId = k.timers.nextId)
      (running : k'.timers.running = none) (fired : k'.fired = none) :
      Change k k' (.finished timer.id (.retire timer.pair))
  | cleared {timers : List Timer}
      (handed : timers.map Timer.entry =
        k.timers.entries.filter fun e => k.timers.running ≠ some e.1)
      (entries : k'.timers.entries = []) (next : k'.timers.nextId = k.timers.nextId)
      (running : k'.timers.running = k.timers.running) (fired : k'.fired = k.fired) :
      Change k k' (.cleared timers)

theorem Sound.change (h : k.Sound) (p : k.perform call = some (event, k')) :
    Change k k' event := by
  cases call with
  | schedule pair delay recurring =>
    cases closed : k.lanes.closed with
    | true =>
      rw [perform_schedule_closed closed] at p
      cases p
      exact .quiet rfl rfl rfl (Nat.le_succ _) rfl rfl
    | false =>
      obtain ⟨lanes, performed⟩ := perform_schedule closed pair delay recurring
      cases performed.symm.trans p
      exact .scheduled (k.timers.entries_schedule pair delay recurring _) rfl rfl rfl
  | cancel id =>
    cases found : k.timers.find? id with
    | none =>
      simp only [perform, Timers.cancel, found] at p
      cases p
      exact .quiet rfl rfl rfl (Nat.le_refl _) rfl rfl
    | some timer =>
      obtain ⟨mem, rfl⟩ := Timers.entry_of_find? found
      obtain ⟨lanes, performed⟩ := perform_cancel found
      cases performed.symm.trans p
      exact .cancelled mem rfl (k.timers.entries_remove timer.id) rfl rfl rfl
  | begin id =>
    cases found : k.timers.find? id with
    | none =>
      simp only [perform, Timers.begin, found] at p
      cases p
      exact .quiet rfl rfl rfl (Nat.le_refl _) rfl rfl
    | some timer =>
      obtain ⟨mem, rfl⟩ := Timers.entry_of_find? found
      cases fired : k.fired with
      | some other => cases (begin_overlapping found fired).symm.trans p
      | none =>
        cases (perform_begin found fired).symm.trans p
        exact @Change.begun _ _ { timer with ticket := none } mem fired
          (Timers.entries_firing h.ids mem) rfl rfl rfl
  | finish =>
    cases fired : k.fired with
    | none => cases (perform_eq_none_iff.2 (.inr ⟨rfl, fired⟩)).symm.trans p
    | some timer =>
      have running : k.timers.running = some timer.id := by rw [h.running, fired, Option.map_some]
      rcases perform_finish fired running with ⟨⟨live, -⟩, lanes, performed⟩ | ⟨-, performed⟩
      · cases performed.symm.trans p
        exact .rearmed fired (Timers.isLive_iff_entries.1 live)
          (k.timers.entries_rearmed timer.id _) rfl rfl rfl
      · cases performed.symm.trans p
        exact .retired fired (k.timers.entries_remove timer.id) rfl rfl rfl
  | clear =>
    cases p
    exact .cleared k.timers.entries_cleared rfl rfl rfl rfl
  | meanwhile clock lanes =>
    cases p
    exact .quiet rfl rfl rfl (Nat.le_refl _) rfl rfl

namespace Change

theorem numbers (c : Change k k' event) : k.timers.nextId ≤ k'.timers.nextId := by
  cases c <;> omega

/-- What is entered is new. -/
theorem new (c : Change k k' event) :
    ∀ e ∈ event.entered, k.timers.nextId ≤ e.1 ∧ e.1 < k'.timers.nextId := by
  intro e mem
  cases c with
  | quiet enters =>
    rw [enters] at mem
    cases mem
  | scheduled entries next =>
    obtain rfl := List.mem_singleton.1 mem
    exact ⟨Nat.le_refl _, by omega⟩
  | _ => cases mem

theorem sound (c : Change k k' event) (h : k.Sound) : k'.Sound := by
  have numbers := c.numbers
  cases c with
  | quiet _ _ entries _ running fired =>
    exact h.fewer (entries ▸ .refl _) numbers (by rw [running, fired, h.running])
      fun _ => (fired ▸ ·)
  | scheduled entries next running fired => exact h.more entries next running fired
  | cancelled _ _ entries _ running fired =>
    exact h.fewer (entries ▸ List.filter_sublist) numbers (by rw [running, fired, h.running])
      fun _ => (fired ▸ ·)
  | begun mem _ entries next running fired => exact h.begun mem entries next running fired
  | rearmed _ _ entries _ running fired =>
    exact h.fewer (entries ▸ .refl _) numbers (by rw [running, fired]; rfl) (by simp [fired])
  | retired _ entries _ running fired =>
    exact h.fewer (entries ▸ List.filter_sublist) numbers (by rw [running, fired]; rfl)
      (by simp [fired])
  | cleared _ entries _ running fired =>
    exact h.fewer (entries ▸ List.nil_sublist _) numbers (by rw [running, fired, h.running])
      fun _ => (fired ▸ ·)

/-- What was held and what is entered is handed back or still held. -/
theorem kept (c : Change k k' event) (h : k.Sound) :
    (event.entered ++ k.held).Perm (event.returned ++ k'.held) := by
  cases c with
  | quiet enters returns entries _ _ fired =>
    have orphan : k'.orphan = k.orphan := orphan_congr fired fun _ _ => by rw [entries]
    rw [enters, returns, held, held, entries, orphan]
  | scheduled entries _ _ fired =>
    have orphan : k'.orphan = k.orphan := by
      apply orphan_congr fired
      intro timer out
      have below := (h.firing timer out).1
      have other : timer.id ≠ k.timers.nextId := by omega
      simp [entries, other]
    rw [held, held, orphan, entries, List.append_assoc]
    show (_ :: (k.timers.entries ++ k.orphan)).Perm (k.timers.entries ++ _ :: k.orphan)
    exact List.perm_middle.symm
  | @cancelled timer answer mem answered entries _ _ fired =>
    by_cases running : k.timers.running = some timer.id
    · -- The firing keeps the entry, which has left the table.
      obtain ⟨other, out, same⟩ := Option.map_eq_some_iff.1 (h.running.symm.trans running)
      have gone : other.id ∉ k'.timers.entries.map Prod.fst := by simp [entries, same]
      rw [answered, if_pos running, held_of_gone (fired.trans out) gone, entries, ← same]
      exact h.held_firing out
    · have orphan : k'.orphan = k.orphan := by
        apply orphan_congr fired
        intro other out
        have other : other.id ≠ timer.id := by
          intro same
          rw [h.running, out, Option.map_some, same] at running
          exact running rfl
        simp [entries, other]
      rw [answered, if_neg running, held, held, orphan, entries]
      exact ((Ledger.perm_cons_filter h.ids mem).append_right k.orphan).symm
  | @begun timer mem resting entries _ _ fired =>
    have live : timer.id ∈ k'.timers.entries.map Prod.fst := by
      rw [entries]
      exact List.mem_map_of_mem mem
    rw [held_of_resting resting, held_of_live fired live, entries]
    exact .refl _
  | rearmed out live entries _ _ fired =>
    rw [held_of_live out live, held_of_resting fired, entries]
    exact .refl _
  | retired out entries _ _ fired =>
    rw [held_of_resting fired, entries]
    exact (h.held_firing out).trans List.perm_append_comm
  | cleared handed entries _ _ fired =>
    show k.held.Perm (_ ++ k'.held)
    rw [TimerEvent.returned, handed, h.running]
    cases out : k.fired with
    | none => simp [held_of_resting out, held_of_resting (fired.trans out), entries]
    | some timer =>
      -- The timer that fires is passed over, and its firing keeps the entry.
      have gone : timer.id ∉ k'.timers.entries.map Prod.fst := by simp [entries]
      have others : (k.timers.entries.filter fun e => some timer.id ≠ some e.1) =
          k.timers.entries.filter (·.1 ≠ timer.id) := by
        simp [eq_comm]
      rw [held_of_gone (fired.trans out) gone, entries, Option.map_some, others]
      exact h.held_firing out

end Change

/-! ## One call after the other -/

theorem play_cons_eq_some {events : List TimerEvent} :
    k.play (call :: calls) = some (events, k') ↔ ∃ event between rest,
      k.perform call = some (event, between) ∧ between.play calls = some (rest, k') ∧
        events = event :: rest := by
  simp only [play, Option.bind_eq_bind, Option.bind_eq_some_iff, Option.some.injEq, Prod.mk.injEq,
    Prod.exists]
  constructor
  · rintro ⟨event, between, performed, rest, _, played, rfl, rfl⟩
    exact ⟨event, between, rest, performed, played, rfl⟩
  · rintro ⟨event, between, rest, performed, played, rfl⟩
    exact ⟨event, between, performed, rest, k', played, rfl, rfl⟩

/-- What follows upon some calls follows upon them in one go. -/
theorem play_append {more : List TimerEvent} {calls' : List TimerCall} {l : Timekeeper}
    (p : k.play calls = some (past, k')) (q : k'.play calls' = some (more, l)) :
    k.play (calls ++ calls') = some (past ++ more, l) := by
  induction calls generalizing k past with
  | nil =>
    cases p
    exact q
  | cons call calls ih =>
    obtain ⟨event, between, rest, performed, played, rfl⟩ := play_cons_eq_some.1 p
    exact play_cons_eq_some.2 ⟨event, between, rest ++ more, performed, ih played, rfl⟩

theorem play_sound (h : k.Sound) (p : k.play calls = some (past, k')) : k'.Sound := by
  induction calls generalizing k past with
  | nil =>
    cases p
    exact h
  | cons call calls ih =>
    obtain ⟨event, between, rest, performed, played, rfl⟩ := play_cons_eq_some.1 p
    exact ih ((h.change performed).sound h) played

/-- Numbers are given out in increasing order. -/
theorem play_numbers (h : k.Sound) (p : k.play calls = some (past, k')) :
    ((enteredIn past).map Prod.fst).Pairwise (· < ·) ∧
      ∀ e ∈ enteredIn past, k.timers.nextId ≤ e.1 := by
  induction calls generalizing k past with
  | nil =>
    cases p
    exact ⟨.nil, nofun⟩
  | cons call calls ih =>
    obtain ⟨event, between, rest, performed, played, rfl⟩ := play_cons_eq_some.1 p
    have change := h.change performed
    obtain ⟨increasing, later⟩ := ih (change.sound h) played
    have numbers := change.numbers
    have one : (event.entered.map Prod.fst).Pairwise (· < ·) := by
      cases event <;> simp [TimerEvent.entered]
    simp only [enteredIn, List.flatMap_cons, List.map_append] at increasing later ⊢
    constructor
    · refine List.pairwise_append.2 ⟨one, increasing, ?_⟩
      intro i first j second
      obtain ⟨e, mem, rfl⟩ := List.mem_map.1 first
      obtain ⟨e', mem', rfl⟩ := List.mem_map.1 second
      have below := (change.new e mem).2
      have above := later e' mem'
      omega
    · intro e mem
      rcases List.mem_append.1 mem with mem | mem
      · exact (change.new e mem).1
      · have above := later e mem
        omega

/-- What was held and what is entered is handed back or still held. -/
theorem play_conserves (h : k.Sound) (p : k.play calls = some (past, k')) :
    (enteredIn past ++ k.held).Perm (returnedIn past ++ k'.held) := by
  induction calls generalizing k past with
  | nil =>
    cases p
    exact .refl _
  | cons call calls ih =>
    obtain ⟨event, between, rest, performed, played, rfl⟩ := play_cons_eq_some.1 p
    have change := h.change performed
    refine List.perm_iff_count.2 fun e => ?_
    have first := (change.kept h).count_eq e
    have others := (ih (change.sound h) played).count_eq e
    simp only [enteredIn, returnedIn, List.flatMap_cons, List.count_append] at first others ⊢
    omega

/-- A firing that is out stays so, unless the call is its end. -/
theorem perform_fired {timer : Timer} (fired : k.fired = some timer)
    (p : k.perform call = some (event, k')) (other : call ≠ .finish) : k'.fired = some timer := by
  cases call with
  | schedule pair delay recurring =>
    simp only [perform] at p
    split at p <;> cases p <;> exact fired
  | cancel id =>
    simp only [perform] at p
    split at p <;> cases p <;> exact fired
  | begin id =>
    simp only [perform] at p
    split at p
    · cases p
      exact fired
    · next resting => cases fired.symm.trans resting
    · cases p
  | finish => exact absurd rfl other
  | clear =>
    cases p
    exact fired
  | meanwhile clock lanes =>
    cases p
    exact fired

/-- A firing that has begun is out. -/
theorem fires_of_begun {id : Nat} (p : k.perform (.begin id) = some (.begun id, k')) :
    ∃ timer, k'.fired = some timer ∧ timer.id = id := by
  cases found : k.timers.find? id with
  | none => simp [perform, Timers.begin, found] at p
  | some timer =>
    obtain ⟨rfl, -⟩ := Timers.begin_of_find? found
    cases fired : k.fired with
    | some other => cases (begin_overlapping found fired).symm.trans p
    | none =>
      cases (perform_begin found fired).symm.trans p
      exact ⟨_, rfl, rfl⟩

/-- Nothing but its end ends a firing. -/
theorem play_fired {timer : Timer} (fired : k.fired = some timer)
    (p : k.play calls = some (past, k')) (out : .finish ∉ calls) : k'.fired = some timer := by
  induction calls generalizing k past with
  | nil =>
    cases p
    exact fired
  | cons call calls ih =>
    obtain ⟨event, between, rest, performed, played, rfl⟩ := play_cons_eq_some.1 p
    obtain ⟨other, out⟩ := not_or.1 (mt List.mem_cons.2 out)
    exact ih (perform_fired fired performed (Ne.symm other)) played out

/-! ## How often a pair is handed back -/

/-- Where keys are unique, there is one entry under the key of an entry. -/
theorem filter_key {l : List (Nat × Pair)} {e : Nat × Pair} (once : (l.map Prod.fst).Nodup)
    (mem : e ∈ l) : l.filter (·.1 == e.1) = [e] := by
  have taken := (Ledger.perm_cons_filter once mem).filter (·.1 == e.1)
  have others : (l.filter (·.1 ≠ e.1)).filter (·.1 == e.1) = [] := by
    rw [List.filter_eq_nil_iff]
    intro other mem same
    simp at mem same
    exact mem.2 same
  rw [List.filter_cons_of_pos (by exact beq_self_eq_true e.1), others] at taken
  exact (List.singleton_perm.1 taken).symm

theorem returnedUnder_append (id : Nat) (past more : List TimerEvent) :
    returnedUnder id (past ++ more) = returnedUnder id past ++ returnedUnder id more := by
  simp [returnedUnder, returnedIn]

/-- The pair of a timer that has been entered is handed back as soon as it is not held any more. -/
theorem returnedUnder_eq {clock : Nat} {lanes : Lanes Message} {id : Nat} {pair : Pair}
    (p : (fresh clock lanes).play calls = some (past, k)) (entered : .scheduled id pair ∈ past) :
    returnedUnder id past = if k.holds id then [] else [pair] := by
  have new := fresh_sound clock lanes
  have mem : (id, pair) ∈ enteredIn past :=
    List.mem_flatMap.2 ⟨_, entered, List.mem_singleton_self _⟩
  have once : ((enteredIn past).map Prod.fst).Nodup := (play_numbers new p).1.imp Nat.ne_of_lt
  have own : (enteredIn past).filter (·.1 == id) = [(id, pair)] := filter_key once mem
  have conserved := (play_conserves new p).filter (·.1 == id)
  rw [show (fresh clock lanes).held = [] from rfl, List.append_nil, own, List.filter_append,
    List.singleton_perm] at conserved
  rw [returnedUnder]
  rcases List.append_eq_singleton_iff.1 conserved.symm with ⟨none, some⟩ | ⟨some, none⟩
  · have held : k.holds id = true := by
      have mem : (id, pair) ∈ k.held.filter (·.1 == id) := some ▸ List.mem_singleton_self _
      exact holds_iff.2 (List.mem_map_of_mem (List.mem_of_mem_filter mem))
    rw [none, if_pos held, List.map_nil]
  · have gone : ¬ k.holds id = true := by
      intro held
      obtain ⟨e, mem, same⟩ := List.mem_map.1 (holds_iff.1 held)
      exact List.filter_eq_nil_iff.1 none e mem (beq_iff_eq.2 same)
    rw [some, if_neg gone, List.map_singleton]

/-- Whatever is called on a table, as long as firings do not overlap, and however its queue is used
or closed meanwhile: nothing is handed back for a timer while it is live or fires, and its own pair
has been handed back, once, when it is neither. From then on it stays so and nothing more is handed
back for it; and nothing is handed back for a timer while its firing has begun and not ended. -/
theorem handed_back_once {clock : Nat} {lanes : Lanes Message} {id : Nat} {pair : Pair}
    (p : (fresh clock lanes).play calls = some (past, k)) (entered : .scheduled id pair ∈ past) :
    returnedUnder id past = (if k.holds id then [] else [pair]) ∧
      (∀ {calls' : List TimerCall} {more : List TimerEvent} {l : Timekeeper}, k.holds id = false →
        k.play calls' = some (more, l) → l.holds id = false ∧ returnedUnder id more = []) ∧
      ∀ {calls' : List TimerCall} {during : List TimerEvent} {l : Timekeeper},
        k.play (.begin id :: calls') = some (.begun id :: during, l) → .finish ∉ calls' →
          returnedUnder id during = [] := by
  have before := returnedUnder_eq p entered
  -- What holds of all calls holds of those that follow, too.
  have after : ∀ {calls' : List TimerCall} {more : List TimerEvent} {l : Timekeeper},
      k.play calls' = some (more, l) →
        (if k.holds id then [] else [pair]) ++ returnedUnder id more =
          if l.holds id then [] else [pair] := by
    intro calls' more l q
    have whole := returnedUnder_eq (play_append p q) (List.mem_append_left more entered)
    rwa [returnedUnder_append, before] at whole
  refine ⟨before, ?_, ?_⟩
  · intro calls' more l gone q
    have after := after q
    cases held : l.holds id with
    | true => simp [gone, held] at after
    | false => simpa [gone, held] using after
  · intro calls' during l q out
    have after := after q
    obtain ⟨event, between, rest, performed, played, same⟩ := play_cons_eq_some.1 q
    obtain ⟨rfl, rfl⟩ := List.cons.inj same
    obtain ⟨timer, fired, rfl⟩ := fires_of_begun performed
    have held : l.holds timer.id = true := by
      simp [holds, fires, play_fired fired played out]
    rw [if_pos held, List.append_eq_nil_iff] at after
    exact after.2

/-- A recurring timer has fired once. It fires again and is cancelled by its own callback; the table
is cleared before that callback returns, and the queue is closed behind it. -/
theorem handed_back_once_while_firing :
    let taken (ticket : Nat) : Lanes Message := ⟨[], [], [], ticket, false, false⟩
    let past : List TimerEvent :=
      [.scheduled 1 ⟨5, 7⟩, .waited, .begun 1, .finished 1 (.rearmed 1), .waited]
    let k : Timekeeper := ⟨⟨2, [⟨1, ⟨5, 7⟩, 0, true, some 1⟩], none⟩, taken 2, 0, none⟩
    let during : List TimerEvent :=
      [.cancelled 1 (.deferred ⟨1, ⟨5, 7⟩, 0, true, none⟩), .cleared []]
    let ended : List TimerEvent := .begun 1 :: during ++ [.finished 1 (.retire ⟨5, 7⟩)]
    let l : Timekeeper := ⟨⟨2, [], none⟩, taken 2, 0, none⟩
    let more : List TimerEvent :=
      [.waited, .refused ⟨6, 7⟩, .cancelled 1 .unknown, .missed 1, .cleared []]
    (fresh 0 .empty).play [.schedule ⟨5, 7⟩ 0 true, .meanwhile 0 (taken 1), .begin 1, .finish,
        .meanwhile 0 (taken 2)] = some (past, k) ∧
      k.play [.begin 1, .cancel 1, .clear, .finish] = some (ended, l) ∧
      l.play [.meanwhile 3 (taken 2).close, .schedule ⟨6, 7⟩ 0 true, .cancel 1, .begin 1, .clear] =
        some (more, ⟨⟨3, [], none⟩, (taken 2).close, 3, none⟩) ∧
      returnedUnder 1 past = [] ∧ returnedUnder 1 during = [] ∧
      returnedUnder 1 (past ++ ended) = [⟨5, 7⟩] ∧ returnedUnder 1 more = [] := by
  intro taken past k during ended l more
  have first : (fresh 0 .empty).play [.schedule ⟨5, 7⟩ 0 true, .meanwhile 0 (taken 1), .begin 1,
      .finish, .meanwhile 0 (taken 2)] = some (past, k) := rfl
  have firing : k.play [.begin 1, .cancel 1, .clear] = some (.begun 1 :: during,
      ⟨⟨2, [], some 1⟩, taken 2, 0, some ⟨1, ⟨5, 7⟩, 0, true, none⟩⟩) := rfl
  have second : k.play [.begin 1, .cancel 1, .clear, .finish] = some (ended, l) := rfl
  have third : l.play [.meanwhile 3 (taken 2).close, .schedule ⟨6, 7⟩ 0 true, .cancel 1, .begin 1,
      .clear] = some (more, ⟨⟨3, [], none⟩, (taken 2).close, 3, none⟩) := rfl
  have entered : .scheduled 1 ⟨5, 7⟩ ∈ past := List.mem_cons_self
  obtain ⟨before, -, kept⟩ := handed_back_once first entered
  obtain ⟨after, settled, -⟩ := handed_back_once (play_append first second)
    (List.mem_append_left _ entered)
  exact ⟨first, second, third, before, kept firing (by simp), after, (settled rfl third).2⟩

end Timekeeper
end ScriptHost
