import ScriptHost.Proofs.Bare
import ScriptHost.Proofs.Recorded

/-!
# What is seen of an operation

The same is seen of an operation on two sessions that are the same without their sweeps: it answers
the same, and leads to sessions that are the same without their sweeps again. Most operations look
at nothing else. Those that arm a message rely on the order of alarms, those that take one back on
its ticket, and those that adopt pairs on none of them having been registered before: a pair that
has been released in one of the sessions may still wait for its release in the other.

## Main definitions

* `Session.Blind` — what a bare session lacks makes no difference to an operation.
* `Session.Once` — no pair has been registered twice.
* `Session.Fit` — what the operations on a live session rely on.
* `Session.adopting` — an operation that adopts pairs before anything else is done.

## Main statements

* `Session.adopt?_seen` — pairs are adopted in both sessions or in none.
* `Session.schedule_seen`, `Session.cancel_seen`, `Session.issue_seen`, … — what is seen of the
  operations.
-/

namespace ScriptHost
namespace Session

variable {s t : Session} {α : Type}

/-! ## Operations that are blind -/

/-- An operation to which what a bare session lacks makes no difference. -/
def Blind (op : Session → α × Session) : Prop := ∀ s, seen (op s.bare) = seen (op s)

theorem seen_seen (x : α × Session) : seen (seen x) = seen x := by simp [seen]

variable {op : Session → α × Session}

/-- The same is seen of an operation wherever the same is seen. -/
theorem Blind.seen_eq (blind : Blind op) (same : s.bare = t.bare) : seen (op s) = seen (op t) := by
  rw [← blind s, same, blind t]

theorem Blind.of_eq (h : ∀ s : Session, op s.bare = seen (op s)) : Blind op := fun s => by
  rw [h, seen_seen]

theorem seen_post_sweep (s : Session) : seen (s.post .sweep) = (s.lanes.accepts, s.bare) := by
  cases accepts : s.lanes.accepts with
  | true =>
    simp [seen, post, Lanes.post_of_accepts accepts, bare, Lanes.bare, Message.isSweep]
  | false => simp [seen, post, Lanes.post_of_not_accepts accepts]

theorem post_blind (m : Message) : Blind (·.post m) := by
  cases sweep : m.isSweep with
  | false => exact .of_eq fun s => s.post_bare sweep
  | true =>
    obtain rfl : m = .sweep := by cases m <;> first | rfl | cases sweep
    intro s
    exact (seen_post_sweep s.bare).trans (by rw [bare_bare, seen_post_sweep]; rfl)

theorem emit_bare (s : Session) (event : String) (value : Json.Value) :
    s.bare.emit event value = seen (s.emit event value) := by
  unfold emit
  rw [isLive_bare]
  split
  · exact s.post_bare rfl
  · rfl

theorem sweepNow_blind : Blind sweepNow := by
  intro s
  unfold sweepNow
  rw [isLive_bare]
  split
  · exact post_blind .sweep s
  · simp [seen]

theorem registerModule_bare (s : Session) (name : String) :
    s.bare.registerModule name = seen (s.registerModule name) := by
  unfold registerModule
  rw [isLive_bare, show s.bare.backlog = s.backlog from rfl]
  split
  · rfl
  split
  · exact s.post_bare rfl
  · rfl

theorem ask_bare (s : Session) {message : Nat → Message}
    (other : ∀ query, (message query).isSweep = false) :
    s.bare.ask message = seen (s.ask message) := by
  have posted : s.bare.post (message s.bare.nextQuery) = seen (s.post (message s.nextQuery)) :=
    s.post_bare (other s.nextQuery)
  unfold ask
  dsimp only
  rw [isLive_bare, posted]
  split
  · rfl
  · rcases s.post (message s.nextQuery) with ⟨_ | _, t⟩ <;> rfl

theorem complete_bare (s : Session) (call : Call) (completion : Completion) :
    s.bare.complete call completion = seen (s.complete call completion) := by
  unfold complete
  rw [s.post_bare rfl]
  rcases s.post (.complete call completion) with ⟨_ | _, t⟩ <;> rfl

theorem conclude_bare (s : Session) (call : Call) (completion : Completion) :
    (s.bare.conclude call completion).bare = (s.conclude call completion).bare := by
  unfold conclude
  rw [complete_bare]
  rcases s.complete call completion with ⟨done, t⟩
  cases done with
  | true => exact t.bare_bare
  | false =>
    have unseen (u : Session) : (u.record (.dropped call)).bare = u.bare := u.record_bare nofun
    exact (unseen t.bare).trans (t.bare_bare.trans (unseen t).symm)

theorem concludeAll_bare (due : List (String × Call × Completion)) (s : Session) :
    (due.foldl (fun s entry => s.conclude entry.2.1 entry.2.2) s.bare).bare =
      (due.foldl (fun s entry => s.conclude entry.2.1 entry.2.2) s).bare := by
  induction due generalizing s with
  | nil => exact s.bare_bare
  | cons entry rest ih =>
    rw [List.foldl_cons, List.foldl_cons, ← ih, conclude_bare, ih]

theorem hasWorker_seen (same : s.bare = t.bare) : s.hasWorker = t.hasWorker := by
  have settings : s.settings = t.settings := congrArg (·.settings) same
  have held : s.held = t.held := congrArg (·.held) same
  simp only [hasWorker, settings, held]

theorem execute_seen (same : s.bare = t.bare) (errand : Errand) :
    (s.execute errand).bare = (t.execute errand).bare := by
  have concluded {u v : Session} (same : u.bare = v.bare) (completion : Completion) :
      (u.conclude errand.call completion).bare = (v.conclude errand.call completion).bare := by
    rw [← conclude_bare, same, conclude_bare]
  have sent {u v : Session} (same : u.bare = v.bare) :
      (u.record (.sent errand.call)).bare = (v.record (.sent errand.call)).bare := by
    rw [record_bare u (e := .sent errand.call) nofun, record_bare v (e := .sent errand.call) nofun,
      same]
  have programs : s.program = t.program := congrArg (·.program) same
  cases transport : s.program.hasTransport with
  | false =>
    rw [execute_of_not_transport transport, execute_of_not_transport (programs ▸ transport)]
    exact concluded (sent same) _
  | true =>
    rw [execute_of_transport transport, execute_of_transport (programs ▸ transport)]
    have noted : (s.note (.transport errand.prepared)).bare =
        (t.note (.transport errand.prepared)).bare := by
      rw [note_bare _ rfl, note_bare _ rfl, same]
    have completion : s.completionOf errand.order = t.completionOf errand.order := by
      simp only [completionOf, programs]
    rw [completion]
    have same := sent noted
    cases errand.order.hold with
    | none => exact concluded same _
    | some key =>
      exact congrArg (fun u : Session =>
        { u with held := u.held ++ [(key, errand.call, t.completionOf errand.order)] }) same

theorem assign_seen (same : s.bare = t.bare) (errand : Errand) :
    (s.assign errand).bare = (t.assign errand).bare := by
  unfold assign
  rw [hasWorker_seen same]
  split
  · exact execute_seen same errand
  · exact congrArg (fun u : Session => { u with errands := u.errands ++ [errand] }) same

theorem employ_seen (same : s.bare = t.bare) : s.employ.bare = t.employ.bare := by
  have assigned : ∀ (errands : List Errand) {u v : Session}, u.bare = v.bare →
      (errands.foldl assign u).bare = (errands.foldl assign v).bare := by
    intro errands
    induction errands with
    | nil => exact id
    | cons errand rest ih => exact fun same => ih (assign_seen same errand)
  have errands : s.errands = t.errands := congrArg (·.errands) same
  unfold employ
  rw [errands]
  exact assigned _ (congrArg (fun u : Session => { u with errands := [] }) same)

theorem release_blind (key : String) : Blind (·.release key) := fun s =>
  congrArg (_, ·) (employ_seen (concludeAll_bare (s.held.filter (·.1 == key))
    { s with held := s.held.filter (·.1 != key) }))

theorem dispatch_seen (same : s.bare = t.bare) (errand : Errand) :
    (s.dispatch errand).bare = (t.dispatch errand).bare := by
  have traffic : s.traffic = t.traffic := congrArg (·.traffic) same
  have issued {u v : Session} (same : u.bare = v.bare) :
      (u.record (.issued errand.call)).bare = (v.record (.issued errand.call)).bare := by
    rw [record_bare u (e := .issued errand.call) nofun,
      record_bare v (e := .issued errand.call) nofun, same]
  unfold dispatch
  rw [traffic]
  refine assign_seen (issued ?_) errand
  exact congrArg (fun u : Session => { u with
    traffic := { t.traffic with
      inFlight := t.traffic.inFlight + 1
      dispatched := t.traffic.dispatched + 1 } }) same

/-- A request with which a session starts, whatever becomes of it. -/
theorem startRequest_seen (same : s.bare = t.bare) (noThreads : Bool) (order : Order) :
    seen (s.startRequest noThreads order) = seen (t.startRequest noThreads order) := by
  have traffic : s.traffic = t.traffic := congrArg (·.traffic) same
  have programs : s.program = t.program := congrArg (·.program) same
  have prepared : order.request.prepareWith s.program.resolve =
      order.request.prepareWith t.program.resolve := by rw [programs]
  have counted (traffic : Traffic) :
      ({ s with traffic } : Session).bare = ({ t with traffic } : Session).bare :=
    congrArg (fun u : Session => { u with traffic }) same
  unfold startRequest
  dsimp only
  rw [traffic, prepared]
  cases order.request.prepareWith t.program.resolve with
  | error _ =>
    dsimp only
    generalize hu : ({ s with traffic := _ } : Session) = u
    generalize hv : ({ t with traffic := _ } : Session) = v
    have same : u.bare = v.bare := hu ▸ hv ▸ counted _
    generalize order.call t.traffic.nextId = call
    have completed :
        seen (u.complete call .clientFailure) = seen (v.complete call .clientFailure) := by
      rw [← complete_bare, same, complete_bare]
    revert completed
    rcases u.complete call .clientFailure with ⟨done, u⟩
    rcases v.complete call .clientFailure with ⟨done', v⟩
    intro completed
    obtain ⟨rfl, same⟩ := Prod.mk.inj completed
    cases done with
    | true =>
      have issued (w : Session) : (w.record (.issued call)).bare = w.bare := w.record_bare nofun
      exact congrArg (_, ·) ((issued u).trans (same.trans (issued v).symm))
    | false => exact congrArg (_, ·) same
  | ok prepared =>
    cases noThreads with
    | true => exact congrArg (_, ·) (counted _)
    | false => exact congrArg (_, ·) (dispatch_seen (counted _) _)

theorem startDrain_seen (same : s.bare = t.bare) (owning noThreads : Bool) :
    (s.startDrain owning noThreads).bare = (t.startDrain owning noThreads).bare := by
  unfold startDrain
  split
  · exact congrArg (fun u : Session => { u with helpers := u.helpers + 1 }) same
  · have posted : seen (s.postUrgent .drain) = seen (t.postUrgent .drain) := by
      rw [← postUrgent_bare, same, postUrgent_bare]
    exact congrArg (·.2) posted

theorem enqueue_seen (same : s.bare = t.bare) (door : Door) (thread : Thread) (noThreads : Bool)
    (job : Work) :
    seen (s.enqueue door thread noThreads job) = seen (t.enqueue door thread noThreads job) := by
  have admits : s.admits door = t.admits door := by rw [← admits_bare, same, admits_bare]
  have ticks : s.ticks = t.ticks := congrArg (·.ticks) same
  have accepted (ticks : TickQueue Work) : ({ s with ticks }.record (.accepted job)).bare =
      ({ t with ticks }.record (.accepted job)).bare := by
    have unseen (u : Session) : (u.record (.accepted job)).bare = u.bare := u.record_bare nofun
    rw [unseen, unseen]
    exact congrArg (fun u : Session => { u with ticks }) same
  unfold enqueue
  rw [admits, ticks]
  split
  · exact congrArg (_, ·) same
  dsimp only
  split
  · exact congrArg (_, ·) (startDrain_seen (accepted _) _ noThreads)
  · exact congrArg (_, ·) (accepted _)

theorem unlisten_seen (same : s.bare = t.bare) (door : Door) (event : String) :
    seen (s.unlisten door event) = seen (t.unlisten door event) := by
  have admits : s.admits door = t.admits door := by rw [← admits_bare, same, admits_bare]
  have listeners : s.listeners = t.listeners := congrArg (·.listeners) same
  have removed (pairs : List Pair) :
      ({ s with listeners := t.listeners.off event }.buryAll pairs).bare =
      ({ t with listeners := t.listeners.off event }.buryAll pairs).bare :=
    congrArg (fun u : Session => { u with listeners := t.listeners.off event }) same
  unfold unlisten
  rw [admits, listeners]
  split
  · exact congrArg (_, ·) same
  dsimp only
  split
  · exact congrArg (_, ·) (removed _)
  · refine congrArg (_, ·) ?_
    rw [armSweep_bare, armSweep_bare]
    exact removed _

theorem takeLock_seen (same : s.bare = t.bare) (thread : Thread) :
    (takeLock thread s).map bare = (takeLock thread t).map bare := by
  have live : s.isLive = t.isLive := by rw [← isLive_bare, same, isLive_bare]
  have lock : s.lock = t.lock := congrArg (·.lock) same
  unfold takeLock
  rw [live, lock]
  split
  · rfl
  split
  · next taken _ => exact congrArg (fun u : Session => Except.ok { u with lock := taken }) same
  · rfl
  · rfl

/-! ## Operations that arm a message or adopt a pair -/

/-- No pair has been registered twice. -/
def Once (s : Session) : Prop := s.journal.registered.Nodup

theorem Recorded.once (h : Recorded s t) (once : t.Once) : s.Once := by
  obtain ⟨events, eq⟩ := h
  have registered : ∀ events : Journal,
      s.journal.registered.Sublist (Journal.registered (events ++ s.journal)) := by
    intro events
    induction events with
    | nil => exact List.Sublist.refl _
    | cons e rest ih =>
      cases e with
      | registered pairs => exact ih.trans (List.sublist_append_left ..)
      | _ => exact ih
  exact once.sublist (eq ▸ registered events)

/-- What the operations on a live session rely on. -/
structure Fit (s : Session) : Prop where
  tidy : s.Tidy
  timed : ∃ fired, s.Timed fired
  owned : ∃ fired hand, Owned fired hand [] s

theorem Fit.ticketed (fit : s.Fit) : s.lanes.Ticketed s.timers.live :=
  fit.timed.elim fun _ => Armed.isTicketed

/-- Pairs in custody have been registered. -/
theorem Fit.kept (fit : s.Fit) : s.custody.live ⊆ s.journal.registered := by
  obtain ⟨fired, hand, owned⟩ := fit.owned
  intro p mem
  have counted : s.journal.registered.count p = _ := owned.balanced.kept p
  have held : 0 < s.custody.live.count p := List.count_pos_iff.2 mem
  exact List.count_pos_iff.1 (by rw [counted]; exact Nat.lt_of_lt_of_le held (Nat.le_add_left ..))

theorem bare_timers (s : Session) (timers : Timers) :
    ({ s with timers } : Session).bare = { s.bare with timers := timers.bare } := rfl

theorem registered_seen (same : s.bare = t.bare) :
    s.journal.registered = t.journal.registered := by
  have registered := congrArg (fun u => u.journal.registered) same
  exact registered

theorem arm_seen (same : s.bare = t.bare) (tidy : s.Tidy) (tidy' : t.Tidy) {m : Message}
    (other : m.isSweep = false) (delay : Nat) :
    (s.arm delay m).2.bare = (t.arm delay m).2.bare := by
  rw [arm_bare tidy.sorted other, same, arm_bare tidy'.sorted other]

theorem adopt?_isSome {pairs : List Pair} (kept : s.custody.live ⊆ s.journal.registered)
    (once : ∀ u, s.adopt? pairs = some u → u.Once) :
    (s.adopt? pairs).isSome = true ↔ pairs.Nodup ∧ ∀ p ∈ pairs, p ∉ s.journal.registered := by
  constructor
  · intro adopted
    obtain ⟨u, adopted⟩ := Option.isSome_iff_exists.1 adopted
    have once := once u adopted
    obtain ⟨can, rfl⟩ := adopt?_eq_some.1 adopted
    obtain ⟨-, distinct, apart⟩ := List.nodup_append'.1 once
    exact ⟨distinct, fun p mem among => apart among mem⟩
  · rintro ⟨distinct, unused⟩
    have can : s.custody.canAdopt pairs = true := by
      have apart : ∀ p ∈ pairs, p ∉ s.custody.live := fun p mem live => unused p mem (kept live)
      simpa [Custody.canAdopt, Custody.isLive] using ⟨distinct, apart⟩
    exact Option.isSome_iff_exists.2 ⟨_, adopt?_eq_some.2 ⟨can, rfl⟩⟩

theorem adopt?_bare {pairs : List Pair} (adopted : s.adopt? pairs = some t) :
    t.bare = { s.bare with journal := [.registered (s.journal.registered ++ pairs)] } := by
  obtain ⟨-, rfl⟩ := adopt?_eq_some.1 adopted
  rfl

/-- Pairs are adopted in both sessions or in none. -/
theorem adopt?_seen (same : s.bare = t.bare) (fit : s.Fit) (fit' : t.Fit) {pairs : List Pair}
    (once : ∀ u, s.adopt? pairs = some u → u.Once) (once' : ∀ u, t.adopt? pairs = some u → u.Once) :
    s.adopt? pairs = none ∧ t.adopt? pairs = none ∨
      ∃ u v, s.adopt? pairs = some u ∧ t.adopt? pairs = some v ∧ u.bare = v.bare := by
  have isSome := adopt?_isSome fit.kept once
  rw [registered_seen same, ← adopt?_isSome fit'.kept once'] at isSome
  cases adopted : s.adopt? pairs with
  | none =>
    rw [adopted] at isSome
    exact .inl ⟨rfl, by simpa using isSome⟩
  | some u =>
    rw [adopted] at isSome
    obtain ⟨v, adopted'⟩ := Option.isSome_iff_exists.1 (isSome.1 rfl)
    refine .inr ⟨u, v, rfl, adopted', ?_⟩
    rw [adopt?_bare adopted, adopt?_bare adopted', same, registered_seen same]

/-- An operation that adopts pairs before anything else is done. -/
def adopting (door : Door) (pairs : List Pair) (refused : α) (op : Session → α × Session)
    (s : Session) : α × Session :=
  if !s.admits door then (refused, s)
  else
    match s.adopt? pairs with
    | none => (refused, s)
    | some s => op s

theorem adopting_seen {door : Door} {pairs : List Pair} {refused : α} (same : s.bare = t.bare)
    (fit : s.isLive = true → s.Fit) (fit' : t.isLive = true → t.Fit)
    (records : ∀ u, Recorded u (op u).2)
    (even : ∀ u v : Session, u.bare = v.bare → u.Tidy → v.Tidy → seen (op u) = seen (op v))
    (once : (adopting door pairs refused op s).2.Once)
    (once' : (adopting door pairs refused op t).2.Once) :
    seen (adopting door pairs refused op s) = seen (adopting door pairs refused op t) := by
  have admits : s.admits door = t.admits door := by rw [← admits_bare, same, admits_bare]
  unfold adopting at once once' ⊢
  rw [← admits] at once' ⊢
  split
  · exact congrArg (_, ·) same
  next admitted =>
  rw [if_neg admitted] at once once'
  simp only [Bool.not_eq_true, Bool.not_eq_false'] at admitted
  have fit := fit (isLive_of_admits admitted)
  have fit' := fit' (isLive_of_admits (admits ▸ admitted))
  rcases adopt?_seen same fit fit' (fun u adopted => (records u).once (by rwa [adopted] at once))
    (fun u adopted => (records u).once (by rwa [adopted] at once')) with
    ⟨used, used'⟩ | ⟨u, v, adopted, adopted', same⟩
  · rw [used, used']
    exact congrArg (_, ·) same
  · rw [adopted, adopted']
    obtain ⟨tidy, -⟩ := (still_requests s).adopt adopted (.refl s) fit.tidy
    obtain ⟨tidy', -⟩ := (still_requests t).adopt adopted' (.refl t) fit'.tidy
    exact even u v same tidy tidy'

theorem schedule_seen (same : s.bare = t.bare) (fit : s.isLive = true → s.Fit)
    (fit' : t.isLive = true → t.Fit) (door : Door) (pair : Pair) (delay : Nat) (recurring : Bool)
    (once : (s.schedule door pair delay recurring).2.Once)
    (once' : (t.schedule door pair delay recurring).2.Once) :
    seen (s.schedule door pair delay recurring) = seen (t.schedule door pair delay recurring) := by
  refine adopting_seen same fit fit' (fun u => ?_) (fun u v same tidy tidy' => ?_) once once'
  · dsimp only
    split <;> exact .same rfl
  · have timers : u.timers.bare = v.timers.bare := congrArg (·.timers) same
    have ids : u.timers.nextId = v.timers.nextId := congrArg (·.nextId) timers
    have closed : u.lanes.closed = v.lanes.closed := congrArg (·.lanes.closed) same
    have armed := arm_seen same tidy tidy' (m := .fire v.timers.nextId) rfl delay
    have isSome : (u.arm delay (.fire v.timers.nextId)).1.isSome =
        (v.arm delay (.fire v.timers.nextId)).1.isSome := by
      unfold arm
      rw [Lanes.arm_isSome, Lanes.arm_isSome, closed]
    obtain ⟨given, entered⟩ := Timers.schedule_seen timers pair delay recurring isSome
    have buried (c : Bool) (w : Session) : (if c then w.bury pair else w).bare = w.bare := by
      cases c <;> rfl
    rw [ids]
    refine Prod.ext given ?_
    refine (buried _ _).trans (Eq.trans ?_ (buried _ _).symm)
    rw [bare_timers, bare_timers, armed]
    exact congrArg (fun timers => { (v.arm _ _).2.bare with timers }) entered

theorem listen_seen (same : s.bare = t.bare) (fit : s.isLive = true → s.Fit)
    (fit' : t.isLive = true → t.Fit) (door : Door) (event : String) (pair : Pair)
    (once : (s.listen door event pair).2.Once) (once' : (t.listen door event pair).2.Once) :
    seen (s.listen door event pair) = seen (t.listen door event pair) := by
  refine adopting_seen same fit fit' (fun u => .same rfl) (fun u v same _ _ => ?_) once once'
  exact congrArg
    (fun w : Session => (true, { w with listeners := w.listeners.on event pair })) same

theorem issue_seen (same : s.bare = t.bare) (fit : s.isLive = true → s.Fit)
    (fit' : t.isLive = true → t.Fit) (door : Door) (noThreads : Bool) (order : Order)
    (once : (s.issue door noThreads order).2.Once)
    (once' : (t.issue door noThreads order).2.Once) :
    seen (s.issue door noThreads order) = seen (t.issue door noThreads order) := by
  refine adopting_seen same fit fit' (fun u => ?_) (fun u v same _ _ => ?_) once once'
  · have started := (recorded_edits u).startRequest noThreads order (.refl u)
    revert started
    rcases u.startRequest noThreads order with ⟨id, w⟩
    intro started
    cases id with
    | none => exact started.trans (.same rfl)
    | some id => exact started
  · have started := startRequest_seen same noThreads order
    revert started
    rcases u.startRequest noThreads order with ⟨id, u⟩
    rcases v.startRequest noThreads order with ⟨id', v⟩
    intro started
    obtain ⟨rfl, same⟩ := Prod.mk.inj started
    refine congrArg (_, ·) ?_
    cases id with
    | none => exact same
    | some id => exact same

/-- Taking the firing of a timer back. -/
theorem withdraw_bare {timers : List Timer} (ticketed : s.lanes.Ticketed timers) {timer : Timer}
    (mem : timer ∈ timers) :
    (s.withdraw timer.ticket).bare = { s.bare with lanes := s.bare.lanes.disarm timer.id } := by
  rw [withdraw_eq]
  exact congrArg (fun lanes => { s.bare with lanes }) (ticketed.disarm_bare mem)

theorem cancel_seen (same : s.bare = t.bare) (fit : s.isLive = true → s.Fit)
    (fit' : t.isLive = true → t.Fit) (door : Door) (id : Nat) :
    seen (s.cancel door id) = seen (t.cancel door id) := by
  have admits : s.admits door = t.admits door := by rw [← admits_bare, same, admits_bare]
  have timers : s.timers.bare = t.timers.bare := congrArg (·.timers) same
  have cancelled (u : Session) (fit : u.Fit) (admitted : u.admits door = true) :
      seen (u.cancel door id) =
        if u.timers.isLive id then
          (true, { u.bare with
            timers := u.timers.bare.remove id
            lanes := u.bare.lanes.disarm id })
        else (false, u.bare) := by
    cases found : u.timers.find? id with
    | none => simp [cancel, admitted, Timers.cancel, found, Timers.isLive, seen]
    | some timer =>
      obtain ⟨mem, rfl⟩ := Ledger.find?_mem found
      have withdrawn := withdraw_bare (s := { u with timers := u.timers.remove timer.id })
        fit.ticketed mem
      have live : u.timers.isLive timer.id = true := by simp [Timers.isLive, found]
      rw [if_pos live]
      have left : ({ u with timers := u.timers.remove timer.id } : Session).bare =
          { u.bare with timers := u.timers.bare.remove timer.id } := by
        rw [← Timers.remove_bare]
        rfl
      rw [left] at withdrawn
      by_cases running : u.timers.running = some timer.id
      · have eq : u.cancel door timer.id = (true,
            ({ u with timers := u.timers.remove timer.id }.withdraw timer.ticket).armSweep
              false) := by
          simp [cancel, admitted, Timers.cancel, found, running]
        rw [eq]
        exact congrArg (_, ·) ((armSweep_bare _ false).trans withdrawn)
      · have eq : u.cancel door timer.id = (true,
            (({ u with timers := u.timers.remove timer.id }.withdraw timer.ticket).bury
              timer.pair).armSweep false) := by
          simp [cancel, admitted, Timers.cancel, found, running]
        rw [eq]
        exact congrArg (_, ·) ((armSweep_bare _ false).trans withdrawn)
  cases admitted : s.admits door with
  | false =>
    have refused (u : Session) (h : u.admits door = false) : u.cancel door id = (false, u) := by
      simp [cancel, h]
    rw [refused s admitted, refused t (admits ▸ admitted)]
    exact congrArg (_, ·) same
  | true =>
    have admitted' : t.admits door = true := admits ▸ admitted
    rw [cancelled s (fit (isLive_of_admits admitted)) admitted,
      cancelled t (fit' (isLive_of_admits admitted')) admitted', ← Timers.isLive_bare,
      ← t.timers.isLive_bare, timers, same]

theorem postWork_seen (same : s.bare = t.bare) (fit : s.isLive = true → s.Fit)
    (fit' : t.isLive = true → t.Fit) (delay : Nat) (work : Work) :
    seen (s.postWork delay work) = seen (t.postWork delay work) := by
  have live : s.isLive = t.isLive := by rw [← isLive_bare, same, isLive_bare]
  cases up : t.isLive with
  | false => simpa [postWork, live, up, seen] using same
  | true =>
    by_cases now : delay = 0
    · have posted := (post_blind (.task work)).seen_eq same
      simpa [postWork, live, up, now] using posted
    · have armed := arm_seen same (fit (live.trans up)).tidy (fit' up).tidy (m := .task work) rfl
        delay
      have isSome : (s.arm delay (.task work)).1.isSome = (t.arm delay (.task work)).1.isSome := by
        unfold arm
        rw [Lanes.arm_isSome, Lanes.arm_isSome]
        exact congrArg (!·.lanes.closed) same
      simpa [postWork, live, up, now] using Prod.ext isSome armed

theorem postLast_seen (same : s.bare = t.bare) (query : Option Nat) :
    (s.lanes.postLast (.shutdown query)).1 = (t.lanes.postLast (.shutdown query)).1 ∧
      ({ s with lanes := (s.lanes.postLast (.shutdown query)).2 } : Session).bare =
        ({ t with lanes := (t.lanes.postLast (.shutdown query)).2 } : Session).bare := by
  have lanes : s.lanes.bare = t.lanes.bare := congrArg (·.lanes) same
  have posted := s.lanes.postLast_bare (m := .shutdown query) rfl
  rw [lanes, t.lanes.postLast_bare rfl] at posted
  exact ⟨(congrArg (·.1) posted).symm,
    congrArg₂ (fun (u : Session) lanes => { u with lanes }) same (congrArg (·.2) posted).symm⟩

theorem beginShutdown_seen (same : s.bare = t.bare) (fit : s.isLive = true → s.Fit)
    (fit' : t.isLive = true → t.Fit) (query : Option Nat) :
    seen (s.beginShutdown query) = seen (t.beginShutdown query) := by
  have live : s.isLive = t.isLive := by rw [← isLive_bare, same, isLive_bare]
  cases up : t.isLive with
  | false => simpa [beginShutdown, live, up, seen] using same
  | true =>
    have closing (u : Session) (tidy : u.Tidy) :
        ({ u with phase := .shuttingDown }.withdrawSweep).bare =
          { u.bare with phase := .shuttingDown } :=
      withdrawSweep_bare (s := { u with phase := .shuttingDown }) tidy
    obtain ⟨posted, left⟩ := postLast_seen
      (s := { s with phase := .shuttingDown }.withdrawSweep)
      (t := { t with phase := .shuttingDown }.withdrawSweep)
      (by rw [closing s (fit (live.trans up)).tidy, closing t (fit' up).tidy, same]) query
    unfold beginShutdown
    rw [live, up]
    exact Prod.ext posted left

end Session
end ScriptHost
