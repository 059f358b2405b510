import ScriptHost.Proofs.Deeds

/-!
# What the operations on a session do

Each operation either leaves the session as it is or changes it in one of a few ways, which are
written out here once. Statements about operations are derived from these, and nothing else opens
the operations' definitions.
-/

namespace ScriptHost

namespace Lanes

variable {μ : Type} {l : Lanes μ}

theorem arm_of_open (h : l.closed = false) (due : Nat) (m : μ) :
    l.arm due m = (some l.nextTicket,
      { l with
        alarms := insertAlarm ⟨l.nextTicket, due, m⟩ l.alarms
        nextTicket := l.nextTicket + 1 }) := by
  simp [arm, ticket?, h]

theorem arm_of_closed (h : l.closed = true) (due : Nat) (m : μ) : l.arm due m = (none, l) := by
  simp [arm, ticket?, h]

theorem post_of_accepts (h : l.accepts = true) (m : μ) :
    l.post m = (true, { l with ordinary := l.ordinary ++ [m] }) := by
  simp [post, h]

theorem post_of_not_accepts (h : l.accepts = false) (m : μ) : l.post m = (false, l) := by
  simp [post, h]

@[simp] theorem post_urgent (m : μ) : (l.post m).2.urgent = l.urgent := by
  unfold post
  split <;> rfl

@[simp] theorem post_closed (m : μ) : (l.post m).2.closed = l.closed := by
  unfold post
  split <;> rfl

@[simp] theorem post_deserted (m : μ) : (l.post m).2.deserted = l.deserted := by
  unfold post
  split <;> rfl

@[simp] theorem arm_urgent (due : Nat) (m : μ) : (l.arm due m).2.urgent = l.urgent := by
  unfold arm
  split <;> rfl

@[simp] theorem arm_ordinary (due : Nat) (m : μ) : (l.arm due m).2.ordinary = l.ordinary := by
  unfold arm
  split <;> rfl

@[simp] theorem arm_closed (due : Nat) (m : μ) : (l.arm due m).2.closed = l.closed := by
  unfold arm
  split <;> rfl

@[simp] theorem arm_deserted (due : Nat) (m : μ) : (l.arm due m).2.deserted = l.deserted := by
  unfold arm
  split <;> rfl

theorem next?_cases {m : μ} {rest : Lanes μ} (h : l.next? = some (m, rest)) :
    (∃ urgent, l.urgent = m :: urgent ∧ rest = { l with urgent := urgent }) ∨
      l.urgent = [] ∧ ∃ ordinary, l.ordinary = m :: ordinary ∧
        rest = { l with ordinary := ordinary } := by
  unfold next? at h
  split at h
  · next urgent heq =>
    cases h
    exact .inl ⟨urgent, heq, rfl⟩
  · next heq =>
    split at h
    · next ordinary heq' =>
      cases h
      exact .inr ⟨heq, ordinary, heq', rfl⟩
    · cases h

/-- What is not urgent has its turn when nothing urgent waits. -/
theorem next?_turn {m : μ} {rest : Lanes μ} (h : l.next? = some (m, rest))
    (patient : m ∉ l.urgent) :
    l.urgent = [] ∧ ∃ ordinary, l.ordinary = m :: ordinary ∧
      rest = { l with ordinary := ordinary } := by
  rcases next?_cases h with ⟨urgent, heq, -⟩ | turn
  · rw [heq] at patient
    exact absurd List.mem_cons_self patient
  · exact turn

/-- A message is taken from one of the two lanes, and nothing else changes. -/
theorem next?_rest {m : μ} {rest : Lanes μ} (h : l.next? = some (m, rest)) :
    rest = { l with urgent := rest.urgent, ordinary := rest.ordinary } := by
  rcases next?_cases h with ⟨_, -, rfl⟩ | ⟨-, _, -, rfl⟩ <;> rfl

theorem urgent_eq_nil_of_next? (h : l.next? = none) : l.urgent = [] := by
  unfold next? at h
  split at h
  · cases h
  · assumption

end Lanes

namespace Session

variable {s t : Session}

theorem lanes_open_of_isLive (h : s.isLive = true) : s.lanes.closed = false := by
  simp only [isLive, Bool.and_eq_true, Bool.not_eq_true'] at h
  exact h.2

theorem isLive_of_admits {door : Door} (h : s.admits door = true) : s.isLive = true := by
  simp only [admits, Bool.and_eq_true] at h
  exact h.1

theorem adopt?_eq_some {pairs : List Pair} :
    s.adopt? pairs = some t ↔ s.custody.canAdopt pairs = true ∧
      t = { s with custody.live := s.custody.live ++ pairs }.record (.registered pairs) := by
  by_cases h : s.custody.canAdopt pairs = true
  · simp [adopt?, Custody.adopt?, h, eq_comm]
  · simp [adopt?, Custody.adopt?, h]

/-! ## Messages -/

theorem post_cases (s : Session) (m : Message) :
    (s.post m).2 = s ∨ s.lanes.accepts = true ∧
      (s.post m).2 = { s with lanes.ordinary := s.lanes.ordinary ++ [m] } := by
  cases accepts : s.lanes.accepts with
  | true => exact .inr ⟨rfl, by rw [post, Lanes.post_of_accepts accepts]⟩
  | false => exact .inl (by rw [post, Lanes.post_of_not_accepts accepts])

theorem postUrgent_cases (s : Session) (m : Message) :
    (s.postUrgent m).2 = s ∨ s.lanes.accepts = true ∧
      (s.postUrgent m).2 = { s with lanes.urgent := s.lanes.urgent ++ [m] } := by
  cases accepts : s.lanes.accepts with
  | true => exact .inr ⟨rfl, by simp [postUrgent, Lanes.postUrgent, accepts]⟩
  | false => exact .inl (by simp [postUrgent, Lanes.postUrgent, accepts])

/-- Only an open queue gives a ticket. -/
theorem arm_cases (s : Session) (delay : Nat) (m : Message) :
    (s.arm delay m).2 = s ∨ s.lanes.closed = false ∧
      (s.arm delay m).2 = { s with
        lanes.alarms := Lanes.insertAlarm ⟨s.lanes.nextTicket, s.clock + delay, m⟩ s.lanes.alarms
        lanes.nextTicket := s.lanes.nextTicket + 1 } := by
  cases closed : s.lanes.closed with
  | true => exact .inl (by rw [arm, Lanes.arm_of_closed closed])
  | false => exact .inr ⟨rfl, by rw [arm, Lanes.arm_of_open closed]⟩

/-! ## The periodic sweep -/

/-- Taking a message back changes nothing but the alarms. -/
theorem withdraw_eq (s : Session) (ticket : Option Nat) :
    s.withdraw ticket = { s with
      lanes.alarms := s.lanes.alarms.filter fun a => some a.ticket ≠ ticket } := by
  cases ticket with
  | none =>
    have all : s.lanes.alarms.filter (fun a => some a.ticket ≠ none) = s.lanes.alarms :=
      List.filter_eq_self.2 (by simp)
    rw [all]
    rfl
  | some ticket => simp [withdraw, Lanes.withdraw]

theorem withdrawSweep_eq (s : Session) :
    s.withdrawSweep = { s with
      sweepTicket := none
      lanes.alarms := s.lanes.alarms.filter fun a => some a.ticket ≠ s.sweepTicket } := by
  rw [withdrawSweep, withdraw_eq]

/-- Arming a sweep changes nothing but the alarms and the ticket of the sweep. -/
theorem armSweep_cases (s : Session) (periodic : Bool) :
    s.armSweep periodic = s ∨ s.armSweep periodic = { s with sweepTicket := none } ∨
      s.lanes.closed = false ∧ s.armSweep periodic =
        { (s.arm s.settings.cleanupInterval .sweep).2 with
          sweepTicket := some s.lanes.nextTicket } := by
  unfold armSweep
  split
  · exact .inl rfl
  split
  · exact .inr (.inl rfl)
  cases h : s.lanes.closed with
  | true => exact .inr (.inl (by simp [arm, Lanes.arm_of_closed h]))
  | false => exact .inr (.inr ⟨rfl, by simp [arm, Lanes.arm_of_open h]⟩)

theorem pause_cases (s : Session) :
    s.pause.2 = s ∨ s.phase = .ready ∧ s.pause.2 = { s with phase := .paused }.withdrawSweep := by
  unfold pause
  split
  · next h => exact .inr ⟨h, rfl⟩
  · exact .inl rfl

theorem unpause_cases (s : Session) :
    s.unpause.2 = s ∨
      s.phase = .paused ∧ s.unpause.2 = { s with phase := .ready }.armSweep true := by
  unfold unpause
  split
  · next h => exact .inr ⟨h, rfl⟩
  · exact .inl rfl

/-! ## Timers -/

/-- A timer is entered and armed together, under the next number, or nothing is done. -/
theorem schedule_ends (s : Session) (door : Door) (pair : Pair) (delay : Nat) (recurring : Bool) :
    s.schedule door pair delay recurring = (none, s) ∨
      ∃ t, s.isLive = true ∧ s.adopt? [pair] = some t ∧
        s.schedule door pair delay recurring =
          (some t.timers.nextId, { (t.arm delay (.fire t.timers.nextId)).2 with
            timers := (t.timers.schedule pair delay recurring (some t.lanes.nextTicket)).2 }) := by
  unfold schedule
  split
  · exact .inl rfl
  next h =>
    simp only [Bool.not_eq_true, Bool.not_eq_false'] at h
    split
    · exact .inl rfl
    next t adopted =>
      have hopen : t.lanes.closed = false := by
        obtain ⟨-, rfl⟩ := adopt?_eq_some.1 adopted
        exact lanes_open_of_isLive (isLive_of_admits h)
      refine .inr ⟨t, isLive_of_admits h, adopted, ?_⟩
      simp [arm, Lanes.arm_of_open hopen, Timers.schedule]

theorem schedule_cases (s : Session) (door : Door) (pair : Pair) (delay : Nat) (recurring : Bool) :
    (s.schedule door pair delay recurring).2 = s ∨
      ∃ t, s.isLive = true ∧ s.adopt? [pair] = some t ∧
        (s.schedule door pair delay recurring).2 =
          { (t.arm delay (.fire t.timers.nextId)).2 with
            timers := (t.timers.schedule pair delay recurring (some t.lanes.nextTicket)).2 } := by
  rcases schedule_ends s door pair delay recurring with h | ⟨t, live, adopted, h⟩ <;> rw [h]
  · exact .inl rfl
  · exact .inr ⟨t, live, adopted, rfl⟩

/-- A cancelled timer leaves the table and is disarmed; its pair is buried unless it is firing. -/
theorem cancel_cases (s : Session) (door : Door) (id : Nat) :
    (s.cancel door id).2 = s ∨
      ∃ timer, s.timers.find? id = some timer ∧
        let t := { s with timers := s.timers.remove id }.withdraw timer.ticket
        (s.timers.running = some id ∧ (s.cancel door id).2 = t.armSweep false ∨
          s.timers.running ≠ some id ∧
            (s.cancel door id).2 = (t.bury timer.pair).armSweep false) := by
  unfold cancel
  split
  · exact .inl rfl
  cases found : s.timers.find? id with
  | none => simp [Timers.cancel, found]
  | some timer =>
    refine .inr ⟨timer, rfl, ?_⟩
    by_cases running : s.timers.running = some id
    · simp [Timers.cancel, found, running]
    · simp [Timers.cancel, found, running]

/-! ## Next-tick jobs -/

/-- An accepted job is put behind the others; a drain is started if it comes into an idle queue. -/
theorem enqueue_cases (s : Session) (door : Door) (thread : Thread) (noThreads : Bool)
    (job : Work) :
    (s.enqueue door thread noThreads job).2 = s ∨
      let t := { s with ticks.jobs := s.ticks.jobs ++ [job] }.record (.accepted job)
      s.isLive = true ∧
        (s.ticks.isIdle = false ∧ (s.enqueue door thread noThreads job).2 = t ∨
          s.ticks.isIdle = true ∧
            ((s.enqueue door thread noThreads job).2 = { t with helpers := t.helpers + 1 } ∨
              (s.enqueue door thread noThreads job).2 = (t.postUrgent .drain).2)) := by
  unfold enqueue
  split
  · exact .inl rfl
  next h =>
    simp only [Bool.not_eq_true, Bool.not_eq_false'] at h
    refine .inr ⟨isLive_of_admits h, ?_⟩
    cases idle : s.ticks.isIdle with
    | false => exact .inl ⟨rfl, by simp [TickQueue.enqueue, idle]⟩
    | true =>
      refine .inr ⟨rfl, ?_⟩
      simp only [TickQueue.enqueue, idle, if_true, startDrain]
      split
      · exact .inl rfl
      · exact .inr rfl

/-! ## Requests -/

/-- A completion is posted, or refused; then its request is no longer in flight. -/
theorem complete_cases (s : Session) (call : Call) (completion : Completion) :
    s.lanes.accepts = true ∧ s.complete call completion =
        (true, { s with lanes.ordinary := s.lanes.ordinary ++ [.complete call completion] }) ∨
      s.lanes.accepts = false ∧ s.complete call completion =
        (false, { s with traffic.inFlight := s.traffic.inFlight - 1 }) := by
  cases h : s.lanes.accepts with
  | true => exact .inl ⟨rfl, by simp [complete, post, Lanes.post_of_accepts h]⟩
  | false => exact .inr ⟨rfl, by simp [complete, post, Lanes.post_of_not_accepts h]⟩

theorem conclude_cases (s : Session) (call : Call) (completion : Completion) :
    s.lanes.accepts = true ∧ s.conclude call completion =
        { s with lanes.ordinary := s.lanes.ordinary ++ [.complete call completion] } ∨
      s.lanes.accepts = false ∧ s.conclude call completion =
        { s with traffic.inFlight := s.traffic.inFlight - 1 }.record (.dropped call) := by
  rcases complete_cases s call completion with ⟨h, heq⟩ | ⟨h, heq⟩
  · exact .inl ⟨h, by simp [conclude, heq]⟩
  · exact .inr ⟨h, by simp [conclude, heq]⟩

theorem execute_of_not_transport (h : s.program.hasTransport = false) (errand : Errand) :
    s.execute errand = (s.record (.sent errand.call)).conclude errand.call .clientFailure := by
  simp [execute, completionOf, h, record]

theorem execute_of_transport (h : s.program.hasTransport = true) (errand : Errand) :
    s.execute errand =
      let t := (s.note (.transport errand.prepared)).record (.sent errand.call)
      match errand.order.hold with
      | some key =>
        { t with held := t.held ++ [(key, errand.call, s.completionOf errand.order)] }
      | none => t.conclude errand.call (s.completionOf errand.order) := by
  cases held : errand.order.hold with
  | none => simp [execute, completionOf, h, held, record, note]
  | some key => simp [execute, completionOf, h, held, record, note]

/-- A worker calls the transport, and the completion is held back, posted, or dropped at once. -/
theorem execute_cases (s : Session) (errand : Errand) :
    ∃ entries, (∀ e ∈ entries, e.isTransport = true) ∧
      let t := { s with log := entries ++ s.log }.record (.sent errand.call)
      ((∃ key, s.execute errand =
          { t with held := t.held ++ [(key, errand.call, s.completionOf errand.order)] }) ∨
        s.execute errand = t.conclude errand.call (s.completionOf errand.order)) := by
  cases transport : s.program.hasTransport with
  | false =>
    refine ⟨[], by simp, .inr ?_⟩
    rw [execute_of_not_transport transport]
    simp [completionOf, transport]
  | true =>
    refine ⟨[.transport errand.prepared], by simp [Entry.isTransport], ?_⟩
    rw [execute_of_transport transport]
    cases errand.order.hold with
    | none => exact .inr rfl
    | some key => exact .inl ⟨key, rfl⟩

/-- A request waits only if there is no worker for it. -/
theorem assign_cases (s : Session) (errand : Errand) :
    s.hasWorker = true ∧ s.assign errand = s.execute errand ∨
      s.hasWorker = false ∧ s.assign errand = { s with errands := s.errands ++ [errand] } := by
  unfold assign
  cases s.hasWorker with
  | true => exact .inl ⟨rfl, rfl⟩
  | false => exact .inr ⟨rfl, rfl⟩

/-- What waits for a worker has nothing to do with a completion. -/
theorem conclude_waiting (s : Session) (call : Call) (completion : Completion)
    (errands : List Errand) :
    ({ s with errands := errands } : Session).conclude call completion =
      { s.conclude call completion with errands := errands } := by
  rcases conclude_cases s call completion with ⟨accepts, eq⟩ | ⟨refuses, eq⟩ <;> rw [eq]
  · simp [conclude, complete, post, Lanes.post_of_accepts accepts]
  · simp [conclude, complete, post, Lanes.post_of_not_accepts refuses, record]

/-- A worker that takes a request does not look at those that wait. -/
theorem execute_waiting (s : Session) (errand : Errand) (errands : List Errand) :
    ({ s with errands := errands } : Session).execute errand =
      { s.execute errand with errands := errands } := by
  cases transport : s.program.hasTransport with
  | false =>
    rw [execute_of_not_transport transport, execute_of_not_transport (by exact transport)]
    exact conclude_waiting (s.record (.sent errand.call)) errand.call .clientFailure errands
  | true =>
    rw [execute_of_transport transport, execute_of_transport (by exact transport)]
    cases errand.order.hold with
    | none =>
      exact conclude_waiting ((s.note (.transport errand.prepared)).record (.sent errand.call))
        errand.call (s.completionOf errand.order) errands
    | some key => rfl

theorem executes_waiting (s : Session) (taken errands : List Errand) :
    taken.foldl execute { s with errands := errands } =
      { taken.foldl execute s with errands := errands } := by
  induction taken generalizing s with
  | nil => rfl
  | cons errand rest ih => rw [List.foldl_cons, List.foldl_cons, execute_waiting, ih]

/-- Of the requests that are given out, workers take the first ones, until none of them is free. -/
theorem assigned_cases (errands : List Errand) (s : Session) :
    ∃ taken left, errands = taken ++ left ∧
      errands.foldl assign s = { taken.foldl execute s with errands := s.errands ++ left } ∧
      (left = [] ∨ (taken.foldl execute s).hasWorker = false) := by
  induction errands generalizing s with
  | nil => exact ⟨[], [], rfl, by simp, .inl rfl⟩
  | cons errand rest ih =>
    rw [List.foldl_cons]
    rcases assign_cases s errand with ⟨-, eq⟩ | ⟨busy, eq⟩ <;> rw [eq]
    · obtain ⟨taken, left, split, assigned, none⟩ := ih (s.execute errand)
      have same : (s.execute errand).errands = s.errands :=
        congrArg (·.errands) (s.execute_waiting errand s.errands)
      exact ⟨errand :: taken, left, by rw [split]; rfl, same ▸ assigned, none⟩
    · -- Nobody comes free while requests are given out.
      have waits : ∀ (rest : List Errand) (t : Session), t.hasWorker = false →
          rest.foldl assign t = { t with errands := t.errands ++ rest } := by
        intro rest
        induction rest with
        | nil => simp
        | cons errand rest ih =>
          intro t busy
          rw [List.foldl_cons, assign, if_neg (by simp [busy]), ih _ (by exact busy)]
          simp
      exact ⟨[], errand :: rest, rfl, by rw [waits rest _ (by exact busy)]; simp, .inr busy⟩

/-- Workers that come free take the requests that have waited longest. -/
theorem employ_cases (s : Session) :
    ∃ taken left, s.errands = taken ++ left ∧
      s.employ = { taken.foldl execute s with errands := left } ∧
      (left = [] ∨ s.employ.hasWorker = false) := by
  obtain ⟨taken, left, split, eq, none⟩ := assigned_cases s.errands { s with errands := [] }
  rw [List.nil_append, executes_waiting] at eq
  rw [executes_waiting] at none
  have eq : s.employ = { taken.foldl execute s with errands := left } := eq
  exact ⟨taken, left, split, eq, by rw [eq]; exact none⟩

theorem employ_idle (none : s.errands = []) : s.employ = s := by
  obtain ⟨taken, left, split, eq, -⟩ := s.employ_cases
  obtain ⟨rfl, rfl⟩ := List.append_eq_nil_iff.1 (split.symm.trans none)
  rw [eq, List.foldl_nil, ← none]

theorem conclude_errands (s : Session) (call : Call) (completion : Completion) :
    (s.conclude call completion).errands = s.errands := by
  rcases conclude_cases s call completion with ⟨-, h⟩ | ⟨-, h⟩ <;> rw [h]
  rfl

/-- Where no request waits for a worker, those that come free stay so. -/
theorem release_idle (none : s.errands = []) (key : String) :
    (s.release key).2 = (s.held.filter (·.1 == key)).foldl
      (fun s entry => s.conclude entry.2.1 entry.2.2)
      { s with held := s.held.filter (·.1 != key) } := by
  have concluded : ∀ (due : List (String × Call × Completion)) (t : Session), t.errands = [] →
      (due.foldl (fun s entry => s.conclude entry.2.1 entry.2.2) t).errands = [] := by
    intro due
    induction due with
    | nil => exact fun _ none => none
    | cons entry rest ih => exact fun t none => ih _ ((t.conclude_errands ..).trans none)
  exact employ_idle (concluded _ _ none)

/-- Behind its number a request is turned away, posted as a failure, or dispatched. -/
theorem startRequest_cases (s : Session) (noThreads : Bool) (order : Order) :
    let call := order.call s.traffic.nextId
    let t : Session := { s with traffic.nextId := s.traffic.nextId + 1 }
    (∃ rejected, s.startRequest noThreads order =
        (none, { t with traffic.rejected := rejected })) ∨
      (∃ rejected, s.startRequest noThreads order = (some call.id,
        { t with
          traffic.inFlight := t.traffic.inFlight + 1
          traffic.rejected := rejected
          lanes.ordinary := t.lanes.ordinary ++ [Message.complete call .clientFailure] }.record
            (.issued call))) ∨
      ∃ prepared, s.startRequest noThreads order =
        (some call.id, t.dispatch ⟨call, prepared, order⟩) := by
  intro call t
  unfold startRequest
  dsimp only
  cases order.request.prepareWith s.program.resolve with
  | error _ =>
    cases accepts : s.lanes.accepts with
    | true =>
      refine .inr (.inl ⟨s.traffic.rejected + 1, ?_⟩)
      simp [complete, post, Lanes.post_of_accepts accepts, t, call, record, Order.call]
    | false =>
      refine .inl ⟨s.traffic.rejected + 1, ?_⟩
      simp [complete, post, Lanes.post_of_not_accepts accepts, t]
  | ok prepared =>
    cases noThreads with
    | true => exact .inl ⟨_, rfl⟩
    | false => exact .inr (.inr ⟨prepared, rfl⟩)

/-- A request takes both its pairs into custody; if it is turned away they are buried. -/
theorem issue_cases (s : Session) (door : Door) (noThreads : Bool) (order : Order) :
    let success : Pair := ⟨order.onSuccess, order.receiver⟩
    let error : Pair := ⟨order.onError, order.receiver⟩
    (s.issue door noThreads order).2 = s ∨
      ∃ t, s.isLive = true ∧ s.adopt? [success, error] = some t ∧
        let started := t.startRequest noThreads order
        (s.issue door noThreads order).2 =
          if started.1.isNone then started.2.buryAll [success, error] else started.2 := by
  intro success error
  unfold issue
  dsimp only
  split
  · exact .inl rfl
  next h =>
    simp only [Bool.not_eq_true, Bool.not_eq_false'] at h
    split
    · exact .inl rfl
    next t adopted =>
      refine .inr ⟨t, isLive_of_admits h, adopted, ?_⟩
      generalize t.startRequest noThreads order = started
      rfl

/-! ## Listeners -/

theorem listen_cases (s : Session) (door : Door) (event : String) (pair : Pair) :
    (s.listen door event pair).2 = s ∨
      ∃ t, s.isLive = true ∧ s.adopt? [pair] = some t ∧
        (s.listen door event pair).2 = { t with listeners := t.listeners.on event pair } := by
  unfold listen
  split
  · exact .inl rfl
  next h =>
    simp only [Bool.not_eq_true, Bool.not_eq_false'] at h
    split
    · exact .inl rfl
    next t adopted => exact .inr ⟨t, isLive_of_admits h, adopted, rfl⟩

theorem unlisten_cases (s : Session) (door : Door) (event : String) :
    let t := { s with listeners := s.listeners.off event }.buryAll (s.listeners.of event)
    (s.unlisten door event).2 = s ∨ (s.unlisten door event).2 = t ∨
      (s.unlisten door event).2 = t.armSweep false := by
  intro t
  unfold unlisten
  split
  · exact .inl rfl
  dsimp only
  split
  · exact .inr (.inl rfl)
  · exact .inr (.inr rfl)

/-! ## Shutdown and the execution lock -/

theorem beginShutdown_cases (s : Session) (query : Option Nat) :
    (s.beginShutdown query).2 = s ∨
      let t := { s with phase := .shuttingDown }.withdrawSweep
      s.isLive = true ∧
        (s.lanes.accepts = true ∧ (s.beginShutdown query).2 =
            { t with
              lanes.ordinary := t.lanes.ordinary ++ [.shutdown query]
              lanes.closed := true } ∨
          s.lanes.accepts = false ∧
            (s.beginShutdown query).2 = { t with lanes.closed := true }) := by
  unfold beginShutdown
  split
  · exact .inl rfl
  next h =>
    simp only [Bool.not_eq_true, Bool.not_eq_false'] at h
    refine .inr ⟨h, ?_⟩
    have hopen := lanes_open_of_isLive h
    -- The last message is refused by a queue that nobody reads any more.
    simp only [withdrawSweep_eq, Lanes.postLast, hopen]
    cases deserted : s.lanes.deserted with
    | true => exact .inr (by simp [Lanes.post, Lanes.accepts, deserted])
    | false => exact .inl (by simp [Lanes.post, Lanes.accepts, deserted, hopen])

theorem takeLock_eq_ok {thread : Thread} :
    takeLock thread s = .ok t ↔
      s.isLive = true ∧ s.lock = .free ∧ t = { s with lock := ⟨some thread⟩ } := by
  cases live : s.isLive with
  | false => simp [takeLock, live]
  | true =>
    cases hlock : s.lock with
    | mk holder =>
      cases holder with
      | none => simp [takeLock, live, hlock, Lock.acquire, Lock.free, eq_comm]
      | some other =>
        by_cases same : other = thread
        · simp [takeLock, live, hlock, Lock.acquire, Lock.free, same]
        · simp [takeLock, live, hlock, Lock.acquire, Lock.free, same]

end Session
end ScriptHost
