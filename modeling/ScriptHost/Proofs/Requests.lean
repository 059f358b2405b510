import ScriptHost.Proofs.Workers

/-!
# Requests

A request gets a new number, and one completion comes of it: to come from a worker, held back, in
line for the loop, or lost. A completion never comes from anywhere else.

## Main definitions

* `Session.Served` — what can become of requests from one time to another.
* `Session.Issued` — what it is to issue a request.

## Main statements

* `Session.issue_issued` — a request that gets a number is issued.
* `Session.Deeds.served` — whatever code does, completions come from requests only.
-/

namespace ScriptHost

theorem Message.completed?_of_call? {m : Message} (other : m.call? = none) :
    m.completed? = none := by
  cases m with
  | complete call completion => cases other
  | _ => rfl

theorem Message.isPlain_quiet {m : Message} (plain : m.isPlain = true) : m.completed? = none := by
  cases m with
  | complete call completion => cases plain
  | _ => rfl

theorem Entry.sent?_of_isAside {e : Entry} (aside : e.isAside = true) : e.sent? = none := by
  cases e with
  | transport prepared => cases aside
  | _ => rfl

namespace Session

variable {s t u : Session} {done done' : List (Call × Completion)}

/-- From one time to another the loop has received some completions. These and the ones that are
awaited have been awaited before, or they are those of requests that have got new numbers. What has
been received for a request that could be prepared has come from the transport. -/
structure Served (s : Session) (done : List (Call × Completion)) (t : Session) : Prop where
  numbers : s.traffic.nextId ≤ t.traffic.nextId
  completions : ∃ new : List (Call × Completion),
    (done ++ t.awaited).Subperm (s.awaited ++ new) ∧ (new.map (·.1.id)).Nodup ∧
      ∀ c ∈ new, s.traffic.nextId ≤ c.1.id ∧ c.1.id < t.traffic.nextId
  program : t.program = s.program
  issued : s.journal.issued ⊆ t.journal.issued
  onward : s.journal.sent ⊆ t.journal.sent
  sent : s.Sent → t.Sent
  answered : s.Sent → ∀ c ∈ done, s.prepared? c.1 ≠ none → c.1 ∈ t.journal.sent

namespace Served

/-- Nothing is done about requests. -/
theorem same (same : t.dealings = s.dealings)
    (fewer : (completionsIn t.lanes).Subperm (completionsIn s.lanes)) : Served s [] t where
  numbers := Nat.le_of_eq (congrArg Dealings.nextId same).symm
  completions := by
    refine ⟨[], ?_, List.nodup_nil, nofun⟩
    have errands : t.errands = s.errands := congrArg Dealings.errands same
    have held : t.held = s.held := congrArg Dealings.held same
    have program : t.program = s.program := congrArg Dealings.program same
    have outcome : t.completionOf = s.completionOf := by
      funext order
      rw [completionOf, completionOf, program]
    rw [List.nil_append, List.append_nil, awaited, awaited, errands, held, outcome]
    exact (List.subperm_append_left _).2 fewer
  program := congrArg Dealings.program same
  issued := by
    have issued : t.journal.issued = s.journal.issued := congrArg Dealings.issued same
    exact issued ▸ List.Subset.refl _
  onward := by
    have sent : t.journal.sent = s.journal.sent := congrArg Dealings.sent same
    exact sent ▸ List.Subset.refl _
  sent h := h.of_same same fewer.subset
  answered _ := nofun

theorem refl (s : Session) : Served s [] s := same rfl (.refl _)

theorem trans (h : Served s done t) (h' : Served t done' u) : Served s (done ++ done') u where
  numbers := Nat.le_trans h.numbers h'.numbers
  completions := by
    obtain ⟨new, among, nodup, range⟩ := h.completions
    obtain ⟨new', among', nodup', range'⟩ := h'.completions
    have numbers := h.numbers
    have numbers' := h'.numbers
    refine ⟨new ++ new', ?_, ?_, fun c mem => ?_⟩
    · have later := (List.subperm_append_left done).2 among'
      have earlier := (List.subperm_append_right new').2 among
      rw [List.append_assoc] at earlier
      rw [List.append_assoc, ← List.append_assoc s.awaited]
      exact later.trans earlier
    · rw [List.map_append]
      refine List.nodup_append.2 ⟨nodup, nodup', fun i mem j mem' same => ?_⟩
      obtain ⟨c, source, rfl⟩ := List.mem_map.1 mem
      obtain ⟨c', source', rfl⟩ := List.mem_map.1 mem'
      have early := (range c source).2
      have late := (range' c' source').1
      omega
    · rcases List.mem_append.1 mem with mem | mem
      · obtain ⟨low, high⟩ := range c mem
        exact ⟨low, by omega⟩
      · obtain ⟨low, high⟩ := range' c mem
        exact ⟨by omega, high⟩
  program := h'.program.trans h.program
  issued := List.Subset.trans h.issued h'.issued
  onward := List.Subset.trans h.onward h'.onward
  sent := h'.sent ∘ h.sent
  answered sent c mem ok := by
    rcases List.mem_append.1 mem with mem | mem
    · exact h'.onward (h.answered sent c mem ok)
    · refine h'.answered (h.sent sent) c mem ?_
      rwa [prepared?_eq h.program]

theorem behind (h : Served s [] t) (h' : Served t done u) : Served s done u := h.trans h'

end Served

/-! ## Operations that do nothing about requests -/

/-- A message that is no completion comes into the queue. -/
theorem completionsIn_quiet {l lanes : Lanes Message} {m : Message} (quiet : m.completed? = none)
    (perm : lanes.messages.Perm (m :: l.messages)) :
    (completionsIn lanes).Subperm (completionsIn l) := by
  have same := perm.filterMap Message.completed?
  rw [List.filterMap_cons_none quiet] at same
  exact same.subperm

theorem completionsIn_alarms {l : Lanes Message} {alarms : List (Alarm Message)}
    (sub : alarms.Sublist l.alarms) :
    (completionsIn { l with alarms := alarms }).Subperm (completionsIn l) :=
  ((Lanes.messages_alarms sub).filterMap _).subperm

theorem served_lanes {lanes : Lanes Message}
    (fewer : (completionsIn lanes).Subperm (completionsIn s.lanes)) :
    Served s [] { s with lanes } := .same rfl fewer

theorem served_post (s : Session) {m : Message} (quiet : m.completed? = none) :
    Served s [] (s.post m).2 := by
  rcases post_cases s m with eq | ⟨-, eq⟩ <;> rw [eq]
  · exact .refl s
  · exact served_lanes (completionsIn_quiet quiet (Lanes.messages_post ..))

theorem served_postUrgent (s : Session) {m : Message} (quiet : m.completed? = none) :
    Served s [] (s.postUrgent m).2 := by
  rcases postUrgent_cases s m with eq | ⟨-, eq⟩ <;> rw [eq]
  · exact .refl s
  · exact served_lanes (completionsIn_quiet quiet (Lanes.messages_postUrgent ..))

theorem served_arm (s : Session) (delay : Nat) {m : Message} (quiet : m.completed? = none) :
    Served s [] (s.arm delay m).2 := by
  rcases arm_cases s delay m with eq | ⟨-, eq⟩ <;> rw [eq]
  · exact .refl s
  · exact served_lanes (completionsIn_quiet quiet (Lanes.messages_arm ..))

theorem served_withdraw (s : Session) (ticket : Option Nat) : Served s [] (s.withdraw ticket) := by
  rw [withdraw_eq]
  exact served_lanes (completionsIn_alarms List.filter_sublist)

theorem served_tables (s : Session) : KeptByTables (Served s []) where
  registered _ h := h.behind (.same rfl (.refl _))
  buried _ h := h.behind (.same rfl (.refl _))
  sweepArmed delay h := h.behind (served_arm _ delay rfl)
  withdrawn ticket h := h.behind (served_withdraw _ ticket)
  ticketed _ h := h.behind (.same rfl (.refl _))
  entered _ h := h.behind (.same rfl (.refl _))
  listeners _ h := h.behind (.same rfl (.refl _))
  firingArmed delay _ h := h.behind (served_arm _ delay rfl)
  timers _ h := h.behind (.same rfl (.refl _))

theorem served_enqueuing (s : Session) : KeptByEnqueuing (Served s []) where
  ticks _ h := h.behind (.same rfl (.refl _))
  helpers _ h := h.behind (.same rfl (.refl _))
  accepted _ h := h.behind (.same rfl (.refl _))
  urged h := h.behind (served_postUrgent _ rfl)

theorem served_beginShutdown (s : Session) (query : Option Nat) :
    Served s [] (s.beginShutdown query).2 := by
  refine (served_tables s).beginShutdown (fun h => h.behind ?_) (fun h => h.behind ?_) (.refl s)
  · exact served_lanes (completionsIn_quiet (m := .shutdown query) rfl (Lanes.messages_post ..))
  · exact served_lanes (.refl _)

/-! ## Completions -/

/-- What is held back is due, and those workers that come free go on. -/
theorem served_release (s : Session) (key : String) : Served s [] (s.release key).2 := by
  have split := List.filter_append_perm (·.1 == key) s.held
  let kept : Session := { s with held := s.held.filter (·.1 != key) }
  let due := (s.held.filter (·.1 == key)).map (·.2)
  let coming := s.errands.map fun errand => (errand.call, s.completionOf errand.order)
  have worked : Worked kept due (s.release key).2 := by
    have concluded := Worked.concludes (s.held.filter (·.1 == key)) kept
    have employed := concluded.trans (Worked.employ _)
    rwa [List.append_nil] at employed
  refine ⟨Nat.le_of_eq worked.numbers.symm, ⟨[], ?_, List.nodup_nil, nofun⟩, worked.program,
    worked.issued ▸ List.Subset.refl _, worked.onward, fun h => ?_, fun _ => nofun⟩
  · rw [List.nil_append, List.append_nil]
    refine worked.awaited.trans (List.Perm.subperm ?_)
    have ahead : (due ++ coming).Perm (coming ++ due) := List.perm_append_comm
    have first := ahead.append_right (kept.held.map (·.2) ++ completionsIn s.lanes)
    have held := ((split.map (·.2)).append_left coming).append_right (completionsIn s.lanes)
    rw [List.map_append] at held
    simp only [awaited, List.append_assoc] at first held ⊢
    exact first.trans held
  · refine ⟨worked.inTurn ?_ fun c mem ok => ?_, employ_busy _⟩
    · refine { h.toInTurn with answered := fun c mem ok => h.answered c ?_ ok }
      rcases List.mem_append.1 mem with mem | mem
      · obtain ⟨entry, left, rfl⟩ := List.mem_map.1 mem
        exact List.mem_append_left _ (List.mem_map_of_mem (List.mem_of_mem_filter left))
      · exact List.mem_append_right _ mem
    · obtain ⟨entry, taken, rfl⟩ := List.mem_map.1 mem
      exact h.answered _ (List.mem_append_left _
        (List.mem_map_of_mem (List.mem_of_mem_filter taken))) ok

/-! ## Requests -/

/-- What comes back for a request: a client failure, if it cannot be prepared. -/
def outcomeOf (s : Session) (order : Order) : Completion :=
  (order.request.prepareWith s.program.resolve).toOption.elim .clientFailure fun _ =>
    s.completionOf order

theorem outcomeOf_malformed (s : Session) {order : Order} {f : Failure}
    (malformed : order.request.prepareWith s.program.resolve = .error f) :
    s.outcomeOf order = .clientFailure := by
  rw [outcomeOf, malformed]
  rfl

theorem outcomeOf_prepared (s : Session) {order : Order} {prepared : Prepared}
    (ok : order.request.prepareWith s.program.resolve = .ok prepared) :
    s.outcomeOf order = s.completionOf order := by
  rw [outcomeOf, ok]
  rfl

/-- A worker has called the transport for a request, if there is one. Its answer is held back if it
is to be, or else in line, unless nobody takes messages any more. -/
structure Executed (s : Session) (errand : Errand) (t : Session) : Prop where
  errands : t.errands = s.errands
  log : t.log = (if s.program.hasTransport then [.transport errand.prepared] else []) ++ s.log
  sent : t.journal = .sent errand.call :: s.journal ∨
    t.journal = .dropped errand.call :: .sent errand.call :: s.journal
  answer : (∃ key, s.program.hasTransport = true ∧ errand.order.hold = some key ∧
      t.held = s.held ++ [(key, errand.call, s.completionOf errand.order)] ∧ t.lanes = s.lanes) ∨
    (s.program.hasTransport = false ∨ errand.order.hold = none) ∧ t.held = s.held ∧
      t.lanes = (s.lanes.post (.complete errand.call (s.completionOf errand.order))).2
  counters : t.traffic.dispatched = s.traffic.dispatched ∧ t.traffic.rejected = s.traffic.rejected

theorem execute_executed (s : Session) (errand : Errand) :
    s.Executed errand (s.execute errand) := by
  rcases s.execute_ends errand with ⟨key, transport, hold, eq⟩ | ⟨free, eq⟩ <;> rw [eq]
  · exact ⟨rfl, rfl, .inl rfl, .inl ⟨key, transport, hold, rfl, rfl⟩, rfl, rfl⟩
  rcases conclude_cases (s.calling errand) errand.call (s.completionOf errand.order) with
    ⟨accepts, eq⟩ | ⟨refuses, eq⟩ <;> rw [eq]
  · refine ⟨rfl, rfl, .inl rfl, .inr ⟨free, rfl, ?_⟩, rfl, rfl⟩
    have accepts : s.lanes.accepts = true := accepts
    rw [Lanes.post_of_accepts accepts]
    rfl
  · refine ⟨rfl, rfl, .inr rfl, .inr ⟨free, rfl, ?_⟩, rfl, rfl⟩
    have refuses : s.lanes.accepts = false := refuses
    rw [Lanes.post_of_not_accepts refuses]
    rfl

/-- A request has been counted and is on record, with its pairs. -/
def booked (s : Session) (call : Call) (custody : Custody) (pairs : List Pair) : Session :=
  (({ s with
    custody
    traffic := { s.traffic with
      nextId := s.traffic.nextId + 1
      inFlight := s.traffic.inFlight + 1
      dispatched := s.traffic.dispatched + 1 } }.record (.registered pairs)).record (.issued call))

/-- A request has been issued under a number. A malformed one has failed at once. Any other is
executed if a worker is free, and waits otherwise, behind those that wait already. -/
structure Issued (s : Session) (order : Order) (id : Nat) (t : Session) : Prop where
  number : id = s.traffic.nextId ∧ t.traffic.nextId = id + 1
  program : t.program = s.program
  /-- One completion is awaited more, and no other. -/
  awaited : t.awaited.Subperm (s.awaited ++ [(order.call id, s.outcomeOf order)])
  malformed : ∀ f, order.request.prepareWith s.program.resolve = .error f →
    (∃ pairs, t.journal = .issued (order.call id) :: .registered pairs :: s.journal) ∧
    t.log = s.log ∧ t.traffic.dispatched = s.traffic.dispatched ∧
    t.traffic.rejected = s.traffic.rejected + 1 ∧ t.held = s.held ∧ t.errands = s.errands ∧
    (true, t.lanes) = s.lanes.post (.complete (order.call id) .clientFailure)
  prepared : ∀ prepared, order.request.prepareWith s.program.resolve = .ok prepared →
    let errand : Errand := ⟨order.call id, prepared, order⟩
    ∃ custody pairs,
      s.hasWorker = true ∧ (s.booked errand.call custody pairs).Executed errand t ∨
      s.hasWorker = false ∧
        t = { s.booked errand.call custody pairs with errands := s.errands ++ [errand] }

section
variable {errand : Errand} {custody : Custody} {pairs : List Pair}

/-- A request that has been counted is executed before those that wait. -/
theorem booked_execute (s : Session) (errand : Errand) (custody : Custody) (pairs : List Pair) :
    Worked { s.booked errand.call custody pairs with errands := errand :: s.errands } []
      ((s.booked errand.call custody pairs).execute errand) := by
  have worked := Worked.execute (s.booked errand.call custody pairs) errand s.errands
  rwa [← execute_waiting] at worked

theorem booked_awaited (s : Session) (errand : Errand) (custody : Custody) (pairs : List Pair) :
    ((s.booked errand.call custody pairs).assign errand).awaited.Subperm
      (s.awaited ++ [(errand.call, s.completionOf errand.order)]) := by
  rcases assign_cases (s.booked errand.call custody pairs) errand with ⟨-, eq⟩ | ⟨-, eq⟩ <;>
    rw [eq]
  · exact (s.booked_execute errand custody pairs).awaited.trans
      (List.perm_append_singleton ..).symm.subperm
  · have line : ({ s.booked errand.call custody pairs with
        errands := s.errands ++ [errand] } : Session).awaited =
          (s.errands ++ [errand]).map (fun e => (e.call, s.completionOf e.order)) ++
            s.held.map (·.2) ++ completionsIn s.lanes := rfl
    have behind : ([(errand.call, s.completionOf errand.order)] ++
        (s.held.map (·.2) ++ completionsIn s.lanes)).Perm
          (s.held.map (·.2) ++ completionsIn s.lanes ++
            [(errand.call, s.completionOf errand.order)]) := List.perm_append_comm
    refine List.Perm.subperm ?_
    show ({ s.booked errand.call custody pairs with
      errands := s.errands ++ [errand] } : Session).awaited.Perm _
    rw [line, List.map_append, List.map_singleton]
    simpa only [awaited, List.append_assoc] using behind.append_left
      (s.errands.map fun e => (e.call, s.completionOf e.order))

/-- A request that could be prepared and has been counted goes to the workers in turn. -/
theorem booked_sent (id : errand.call.id = s.traffic.nextId)
    (ok : s.prepared? errand.call = some errand.prepared) (h : s.Sent) :
    ((s.booked errand.call custody pairs).assign errand).Sent := by
  have waits : ({ s.booked errand.call custody pairs with
      errands := s.errands ++ [errand] } : Session).InTurn :=
    have next : (s.booked errand.call custody pairs).traffic.nextId = s.traffic.nextId + 1 := rfl
    (h.toInTurn.wait id ok next).of_same rfl (List.Subset.refl _)
  rcases assign_cases (s.booked errand.call custody pairs) errand with ⟨free, eq⟩ | ⟨busy, eq⟩ <;>
    rw [eq]
  · -- Nothing waits while a worker is free, so the request is the next one.
    have none : s.errands = [] := by
      by_contra some
      cases (h.busy some).symm.trans free
    have worked := s.booked_execute errand custody pairs
    rw [none] at waits worked
    have errands : ((s.booked errand.call custody pairs).execute errand).errands = [] :=
      (execute_executed _ errand).errands.trans none
    exact ⟨worked.inTurn waits nofun, fun some => absurd errands some⟩
  · exact ⟨waits, fun _ => busy⟩

theorem booked_served (id : errand.call.id = s.traffic.nextId)
    (ok : s.prepared? errand.call = some errand.prepared) :
    Served s [] ((s.booked errand.call custody pairs).assign errand) := by
  have frame : let t := (s.booked errand.call custody pairs).assign errand
      t.program = s.program ∧ t.traffic.nextId = s.traffic.nextId + 1 ∧
        t.journal.issued = errand.call :: s.journal.issued ∧
        s.journal.sent ⊆ t.journal.sent := by
    rcases assign_cases (s.booked errand.call custody pairs) errand with ⟨-, eq⟩ | ⟨-, eq⟩
    · have worked := s.booked_execute errand custody pairs
      rw [eq]
      exact ⟨worked.program, worked.numbers, worked.issued, worked.onward⟩
    · rw [eq]
      exact ⟨rfl, rfl, rfl, List.Subset.refl _⟩
  obtain ⟨program, next, issued, onward⟩ := frame
  refine ⟨next ▸ Nat.le_succ _, ⟨[(errand.call, s.completionOf errand.order)],
    s.booked_awaited errand custody pairs, List.nodup_singleton _, fun c mem => ?_⟩, program,
    issued ▸ List.subset_cons_self .., onward, booked_sent id ok, fun _ => nofun⟩
  obtain rfl := List.mem_singleton.1 mem
  exact ⟨Nat.le_of_eq id.symm, by rw [next]; exact Nat.lt_succ_of_le (Nat.le_of_eq id)⟩

end

/-- A malformed request has failed at once. -/
theorem failed_served {call : Call} {custody : Custody} {pairs : List Pair} {traffic : Traffic}
    (id : call.id = s.traffic.nextId) (malformed : s.prepared? call = none)
    (next : traffic.nextId = s.traffic.nextId + 1) :
    let t := (({ s with
      custody
      traffic
      lanes.ordinary := s.lanes.ordinary ++ [.complete call .clientFailure] } : Session).record
        (.registered pairs)).record (.issued call)
    t.awaited.Subperm (s.awaited ++ [(call, .clientFailure)]) ∧ Served s [] t := by
  intro t
  have posted := completionsIn_complete s.lanes call .clientFailure
  have awaited : t.awaited.Subperm (s.awaited ++ [(call, .clientFailure)]) :=
    ((posted.append_left _).trans (List.perm_middle.trans
      (List.perm_append_singleton ..).symm)).subperm
  have inTurn (h : s.Sent) : t.InTurn := by
    have line : ∀ c ∈ completionsIn t.lanes, c ∈ completionsIn s.lanes ∨ c.1 = call := by
      intro c mem
      rcases List.mem_cons.1 (posted.mem_iff.1 mem) with rfl | mem
      · exact .inr rfl
      · exact .inl mem
    exact (h.toInTurn.fail id malformed next line).of_same rfl (List.Subset.refl _)
  refine ⟨awaited, ?_, ⟨_, awaited, List.nodup_singleton _, fun c mem => ?_⟩, rfl,
    List.subset_cons_self .., List.Subset.refl _, fun h => ⟨inTurn h, h.busy⟩, fun _ => nofun⟩
  · exact (next ▸ Nat.le_succ _ : s.traffic.nextId ≤ traffic.nextId)
  · obtain rfl := List.mem_singleton.1 mem
    exact ⟨Nat.le_of_eq id.symm, (by rw [next]; omega : call.id < traffic.nextId)⟩

section
variable {order : Order} {custody : Custody} {pairs : List Pair}

/-- A malformed request is issued when its failure is in the ordinary lane. -/
theorem failed_issued {f : Failure}
    (malformed : order.request.prepareWith s.program.resolve = .error f)
    (accepts : s.lanes.accepts = true) :
    let call := order.call s.traffic.nextId
    let t := (({ s with
      custody
      traffic := { s.traffic with
        nextId := s.traffic.nextId + 1
        inFlight := s.traffic.inFlight + 1
        rejected := s.traffic.rejected + 1 }
      lanes.ordinary := s.lanes.ordinary ++ [.complete call .clientFailure] } : Session).record
        (.registered pairs)).record (.issued call)
    s.Issued order s.traffic.nextId t ∧ Served s [] t := by
  intro call t
  have none : s.prepared? call = none := by
    rw [prepared?, show call.request = order.request from rfl, malformed]
    rfl
  obtain ⟨awaited, served⟩ := @failed_served s call custody pairs t.traffic rfl none rfl
  refine ⟨⟨⟨rfl, rfl⟩, rfl, ?_, fun _ _ => ⟨⟨pairs, rfl⟩, rfl, rfl, rfl, rfl, rfl, ?_⟩,
    fun p ok => ?_⟩, served⟩
  · rw [outcomeOf_malformed s malformed]
    exact awaited
  · rw [Lanes.post_of_accepts accepts]
    rfl
  · cases malformed.symm.trans ok

/-- A request that could be prepared is issued when it goes to the workers. -/
theorem booked_issued {prepared : Prepared}
    (ok : order.request.prepareWith s.program.resolve = .ok prepared) :
    let errand : Errand := ⟨order.call s.traffic.nextId, prepared, order⟩
    let t := (s.booked errand.call custody pairs).assign errand
    s.Issued order s.traffic.nextId t ∧ Served s [] t := by
  intro errand t
  have some : s.prepared? errand.call = some prepared := by
    rw [prepared?, show errand.call.request = order.request from rfl, ok]
    rfl
  have served : Served s [] t := booked_served rfl some
  have assigned := assign_cases (s.booked errand.call custody pairs) errand
  have next : t.traffic.nextId = s.traffic.nextId + 1 := by
    rcases assigned with ⟨-, eq⟩ | ⟨-, eq⟩
    · exact (congrArg (·.traffic.nextId) eq).trans (s.booked_execute errand custody pairs).numbers
    · exact congrArg (·.traffic.nextId) eq
  refine ⟨⟨⟨rfl, next⟩, served.program, ?_, fun f malformed => ?_, fun p ok' => ?_⟩, served⟩
  · rw [outcomeOf_prepared s ok]
    exact s.booked_awaited errand custody pairs
  · cases malformed.symm.trans ok
  · cases ok'.symm.trans ok
    refine ⟨custody, pairs, ?_⟩
    rcases assigned with ⟨free, eq⟩ | ⟨busy, eq⟩
    · have executed := execute_executed (s.booked errand.call custody pairs) errand
      rw [← eq] at executed
      exact .inl ⟨free, executed⟩
    · exact .inr ⟨busy, eq⟩

/-- A request that has been started under a number is issued. -/
theorem startRequest_issued {noThreads : Bool} {id : Nat}
    (h : (({ s with custody } : Session).record (.registered pairs)).startRequest noThreads order =
      (some id, t)) : s.Issued order id t ∧ Served s [] t := by
  unfold startRequest at h
  dsimp only at h
  split at h
  · next f malformed =>
    cases accepts : s.lanes.accepts with
    | false => simp [complete, post, record, Lanes.post_of_not_accepts accepts] at h
    | true =>
      simp only [complete, post, record, Lanes.post_of_accepts accepts] at h
      cases h
      exact failed_issued malformed accepts
  · next prepared ok =>
    split at h
    · cases h
    · cases h
      exact booked_issued ok

end

/-- A request that gets a number is issued. -/
theorem issue_issued {door : Door} {noThreads : Bool} {order : Order} {id : Nat}
    (h : (s.issue door noThreads order).1 = some id) :
    s.Issued order id (s.issue door noThreads order).2 := by
  unfold issue at h ⊢
  dsimp only at h ⊢
  split at h
  · cases h
  next admitted =>
  rw [if_neg admitted]
  split at h
  · cases h
  next t adopted =>
  obtain ⟨-, rfl⟩ := adopt?_eq_some.1 adopted
  generalize started : startRequest _ noThreads order = r at h ⊢
  obtain ⟨number, t⟩ := r
  obtain rfl : number = some id := h
  exact (startRequest_issued started).1

theorem Executed.issued {errand : Errand} (h : s.Executed errand t) :
    t.journal.issued = s.journal.issued := by
  rcases h.sent with journal | journal <;> rw [journal] <;> rfl

/-- A request that is issued is on record. -/
theorem Issued.recorded {order : Order} {id : Nat} (h : s.Issued order id t) :
    t.journal.issued = order.call id :: s.journal.issued := by
  cases ok : order.request.prepareWith s.program.resolve with
  | error f =>
    obtain ⟨⟨pairs, journal⟩, -⟩ := h.malformed f ok
    rw [journal]
    rfl
  | ok prepared =>
    obtain ⟨custody, pairs, ⟨-, executed⟩ | ⟨-, eq⟩⟩ := h.prepared prepared ok
    · exact executed.issued
    · rw [eq]
      rfl

/-- Nothing comes of a request that is turned away but a number that is not used. -/
theorem served_turned {noThreads : Bool} {order : Order}
    (h : s.startRequest noThreads order = (none, t)) : Served s [] t := by
  rcases startRequest_cases s noThreads order with ⟨_, eq⟩ | ⟨_, eq⟩ | ⟨_, eq⟩
  · rw [eq] at h
    cases h
    refine ⟨Nat.le_succ _, ⟨[], (List.append_nil _).symm ▸ .refl _, List.nodup_nil, nofun⟩, rfl,
      List.Subset.refl _, List.Subset.refl _, fun h => ?_, fun _ => nofun⟩
    exact { h with below := fun call mem => Nat.lt_succ_of_lt (h.below call mem) }
  · cases eq.symm.trans h
  · cases eq.symm.trans h

theorem served_issue (s : Session) (door : Door) (noThreads : Bool) (order : Order) :
    Served s [] (s.issue door noThreads order).2 := by
  unfold issue
  dsimp only
  split
  · exact .refl s
  split
  · exact .refl s
  next t adopted =>
  have taken := (served_tables s).adopt adopted (.refl s)
  obtain ⟨-, rfl⟩ := adopt?_eq_some.1 adopted
  generalize started : startRequest _ noThreads order = r
  obtain ⟨number, u⟩ := r
  cases number with
  | some id => exact (startRequest_issued started).2
  | none =>
    have turned := taken.behind (served_turned started)
    exact turned.behind (.same rfl (.refl _))

/-! ## Deeds -/

/-- Whatever code does, completions come from requests only. -/
theorem Deeds.served {thread : Thread} (d : Deeds thread s t) : Served s [] t := by
  induction d with
  | none s => exact .refl s
  | trans _ _ ih ih' => exact ih.behind ih'
  | @aside s _ h =>
    obtain ⟨_, _, _, _, _, _, entries, aside, -, rfl⟩ := h
    have none : entries.filterMap Entry.sent? = [] :=
      List.filterMap_eq_nil_iff.2 fun e mem => Entry.sent?_of_isAside (aside e mem)
    refine .same ?_ (.refl _)
    show { s.dealings with called := (entries ++ s.log).filterMap Entry.sent? } = s.dealings
    rw [List.filterMap_append, none]
    rfl
  | post s plain => exact served_post s (Message.isPlain_quiet plain)
  | arm s delay work => exact served_arm s delay rfl
  | schedule s door pair delay recurring =>
    exact (served_tables s).schedule door pair delay recurring (.refl s)
  | cancel s door id => exact (served_tables s).cancel door id (.refl s)
  | enqueue s door noThreads job =>
    exact (served_enqueuing s).enqueue door thread noThreads job (.refl s)
  | issue s door noThreads order => exact served_issue s door noThreads order
  | release s key => exact served_release s key
  | listen s door event pair => exact (served_tables s).listen door event pair (.refl s)
  | unlisten s door event => exact (served_tables s).unlisten door event (.refl s)
  | pause s => exact (served_tables s).pause (.refl s)
  | unpause s => exact (served_tables s).unpause (.refl s)
  | shutdown s query => exact served_beginShutdown s query
  | @guarded s _ u take _ ih =>
    obtain ⟨-, -, rfl⟩ := takeLock_eq_ok.1 take
    have taken : Served s [] { s with lock := ⟨some thread⟩ } := .same rfl (.refl _)
    have released : Served u [] u.unlock := .same rfl (.refl _)
    exact taken.behind (ih.behind released)
  | leak take =>
    obtain ⟨-, -, rfl⟩ := takeLock_eq_ok.1 take
    exact .same rfl (.refl _)
  | called s callback before => exact .same rfl (.refl _)

end Session
end ScriptHost
