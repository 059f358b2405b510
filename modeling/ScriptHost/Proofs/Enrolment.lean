import ScriptHost.Proofs.Moments

/-!
# The enrolment of modules

A module that is registered waits in the backlog of the session until the engine is up, and comes to
the engine by a message from then on. What concerns modules, and what has to keep its place behind
them, is written down in one list while code runs and while the loop handles its messages.

## Main definitions

* `registrations` — the modules that the engine has been given.
* `Enrolment` — what happens about modules, and to the ordinary lane.
* `Session.Besides` — something else has happened.
* `Session.Enrols` — what has happened on the way from one state to another, in that order.

## Main statements

* `Session.perform_leadsTo`, `Session.play_leadsTo`, … — code accepts modules, and takes none.
* `Session.drain_leadsTo`, `Session.runHelpers_leadsTo` — so do drains.
-/

namespace ScriptHost

/-- The module that a message brings to the engine. -/
def Message.module? : Message → Option String
  | .register name => some name
  | _ => none

/-- The module that the engine is given. -/
def Entry.module? : Entry → Option String
  | .register name => some name
  | _ => none

theorem Message.module?_of_timely {m : Message} (h : m.isTimely = true) : m.module? = none := by
  cases m <;> first | rfl | cases h

/-- The modules that the engine has been given, the first one first. -/
def registrations (log : List Entry) : List String := log.reverse.filterMap Entry.module?

theorem registrations_append (entries log : List Entry) :
    registrations (entries ++ log) = registrations log ++ registrations entries := by
  rw [registrations, List.reverse_append, List.filterMap_append]
  rfl

theorem registrations_of_others {entries : List Entry} (others : ∀ e ∈ entries, e.module? = none)
    (log : List Entry) : registrations (entries ++ log) = registrations log := by
  have none : registrations entries = [] :=
    List.filterMap_eq_nil_iff.2 fun e mem => others e (List.mem_reverse.1 mem)
  rw [registrations_append, none, List.append_nil]

theorem registrations_cons {e : Entry} (other : e.module? = none) (log : List Entry) :
    registrations (e :: log) = registrations log :=
  @registrations_of_others [e] (by simpa using other) log

/-- What happens about modules, and to the ordinary lane. -/
inductive Enrolment where
  /-- A module has been accepted. -/
  | accepted (name : String)
  /-- The engine has been given a module. -/
  | registered (name : String)
  /-- A message that brings no module has joined the ordinary lane. -/
  | joined (m : Message)
  /-- The loop has taken a message from the ordinary lane. -/
  | began (m : Message)

namespace Session

variable {s t u v : Session} {h : List Enrolment} {joined joined' : List Message}

/-! ## What does not concern modules -/

/-- Something else has happened: these messages have joined the ordinary lane, none of which brings
a module; whoever accepts the last message closes the queue. -/
structure Besides (s : Session) (joined : List Message) (t : Session) : Prop where
  backlog : t.backlog = s.backlog
  log : registrations t.log = registrations s.log
  ordinary : t.lanes.ordinary = s.lanes.ordinary ++ joined
  others : ∀ m ∈ joined, m.module? = none
  urgent : ∀ m ∈ t.lanes.urgent, m ∈ s.lanes.urgent ∨ m.isUrgent = true
  alarms : ∀ a ∈ t.lanes.alarms, a ∈ s.lanes.alarms ∨ a.message.isTimely = true
  closed : s.lanes.closed = true → t.lanes.closed = true
  last : ∀ m ∈ joined, m.isLast = true → t.lanes.closed = true
  deserted : t.lanes.deserted = s.lanes.deserted

namespace Besides

theorem same (backlog : t.backlog = s.backlog) (log : t.log = s.log) (lanes : t.lanes = s.lanes) :
    Besides s [] t where
  backlog := backlog
  log := by rw [log]
  ordinary := by rw [lanes, List.append_nil]
  others := nofun
  urgent m mem := .inl (lanes ▸ mem)
  alarms a mem := .inl (lanes ▸ mem)
  closed := by rw [lanes]; exact id
  last := nofun
  deserted := by rw [lanes]

theorem refl (s : Session) : Besides s [] s := same rfl rfl rfl

theorem trans (b : Besides s joined t) (b' : Besides t joined' u) :
    Besides s (joined ++ joined') u where
  backlog := b'.backlog.trans b.backlog
  log := b'.log.trans b.log
  ordinary := by rw [b'.ordinary, b.ordinary, List.append_assoc]
  others m mem := (List.mem_append.1 mem).elim (b.others m) (b'.others m)
  urgent m mem := (b'.urgent m mem).elim (b.urgent m) .inr
  alarms a mem := (b'.alarms a mem).elim (b.alarms a) .inr
  closed shut := b'.closed (b.closed shut)
  last m mem isLast :=
    (List.mem_append.1 mem).elim (fun mem => b'.closed (b.last m mem isLast))
      fun mem => b'.last m mem isLast
  deserted := b'.deserted.trans b.deserted

/-- Something has been noted that does not tell of a module. -/
theorem note (s : Session) {e : Entry} (other : e.module? = none) : Besides s [] (s.note e) :=
  { refl s with log := registrations_cons other s.log }

/-- Alarms are taken back. -/
theorem fewer {alarms : List (Alarm Message)} (sub : alarms ⊆ s.lanes.alarms) :
    Besides s [] { s with lanes.alarms := alarms } :=
  { refl s with alarms := fun _ mem => .inl (sub mem) }

/-- A message joins the ordinary lane, and it is not the last one. -/
theorem add {m : Message} (other : m.module? = none) (early : m.isLast = false) :
    Besides s [m] { s with lanes.ordinary := s.lanes.ordinary ++ [m] } :=
  { refl s with
    ordinary := rfl
    others := by simpa using other
    last := fun m' mem isLast => by
      rw [List.mem_singleton.1 mem, early] at isLast
      cases isLast }

end Besides

/-- Something else may have happened. -/
def Apart (s t : Session) : Prop := ∃ joined, Besides s joined t

namespace Apart

theorem same (backlog : t.backlog = s.backlog) (log : t.log = s.log) (lanes : t.lanes = s.lanes) :
    Apart s t :=
  ⟨[], .same backlog log lanes⟩

theorem refl (s : Session) : Apart s s := same rfl rfl rfl

theorem trans (a : Apart s t) (a' : Apart t u) : Apart s u := by
  obtain ⟨_, b⟩ := a
  obtain ⟨_, b'⟩ := a'
  exact ⟨_, b.trans b'⟩

theorem after (a : Apart t u) (backlog : t.backlog = s.backlog) (log : t.log = s.log)
    (lanes : t.lanes = s.lanes) : Apart s u :=
  (same backlog log lanes).trans a

end Apart

theorem apart_post (s : Session) {m : Message} (other : m.module? = none)
    (early : m.isLast = false) : Apart s (s.post m).2 := by
  rcases post_cases s m with eq | ⟨-, eq⟩ <;> rw [eq]
  · exact .refl s
  · exact ⟨[m], .add other early⟩

theorem apart_postUrgent (s : Session) {m : Message} (urgent : m.isUrgent = true) :
    Apart s (s.postUrgent m).2 := by
  rcases postUrgent_cases s m with eq | ⟨-, eq⟩ <;> rw [eq]
  · exact .refl s
  · refine ⟨[], { Besides.refl s with urgent := fun m' mem => ?_ }⟩
    rcases List.mem_append.1 mem with mem | mem
    · exact .inl mem
    · exact .inr (List.mem_singleton.1 mem ▸ urgent)

theorem apart_arm (s : Session) (delay : Nat) {m : Message} (timely : m.isTimely = true) :
    Apart s (s.arm delay m).2 := by
  rcases arm_cases s delay m with eq | ⟨-, eq⟩ <;> rw [eq]
  · exact .refl s
  · refine ⟨[], { Besides.refl s with closed := id, alarms := fun a mem => ?_ }⟩
    rcases List.mem_cons.1 ((Lanes.insertAlarm_perm _ _).mem_iff.1 mem) with rfl | mem
    · exact .inr timely
    · exact .inl mem

theorem apart_withdraw (s : Session) (ticket : Option Nat) : Apart s (s.withdraw ticket) := by
  rw [withdraw_eq]
  exact ⟨[], .fewer (List.filter_subset_self _)⟩

theorem apart_tables (s : Session) : KeptByTables (Apart s) where
  registered _ h := h.trans (.same rfl rfl rfl)
  buried _ h := h.trans (.same rfl rfl rfl)
  sweepArmed delay h := h.trans (apart_arm _ delay rfl)
  withdrawn ticket h := h.trans (apart_withdraw _ ticket)
  ticketed _ h := h.trans (.same rfl rfl rfl)
  entered _ h := h.trans (.same rfl rfl rfl)
  listeners _ h := h.trans (.same rfl rfl rfl)
  firingArmed delay _ h := h.trans (apart_arm _ delay rfl)
  timers _ h := h.trans (.same rfl rfl rfl)

theorem apart_requests (s : Session) : KeptByRequests (Apart s) where
  toKeptByCustody := (apart_tables s).toKeptByCustody
  counted _ h := h.trans (.same rfl rfl rfl)
  held _ h := h.trans (.same rfl rfl rfl)
  errands _ h := h.trans (.same rfl rfl rfl)
  posted _ _ h := h.trans (apart_post _ rfl rfl)
  dropped _ h := h.trans (.same rfl rfl rfl)
  transported _ h := h.trans ⟨[], { Besides.refl _ with log := registrations_cons rfl _ }⟩
  sent _ h := h.trans (.same rfl rfl rfl)
  issued _ h := h.trans (.same rfl rfl rfl)

theorem apart_enqueuing (s : Session) : KeptByEnqueuing (Apart s) where
  ticks _ h := h.trans (.same rfl rfl rfl)
  helpers _ h := h.trans (.same rfl rfl rfl)
  accepted _ h := h.trans (.same rfl rfl rfl)
  urged h := h.trans (apart_postUrgent _ rfl)

theorem apart_emit (s : Session) (event : String) (value : Json.Value) :
    Apart s (s.emit event value).2 := by
  unfold emit
  split
  · exact apart_post s rfl rfl
  · exact .refl s

theorem apart_postWork (s : Session) (delay : Nat) (work : Work) :
    Apart s (s.postWork delay work).2 := by
  unfold postWork
  split
  · exact .refl s
  split
  · exact apart_post s rfl rfl
  · exact apart_arm s delay rfl

theorem apart_sweepNow (s : Session) : Apart s s.sweepNow.2 := by
  unfold sweepNow
  split
  · exact apart_post s rfl rfl
  · exact .refl s

theorem apart_ask (s : Session) {message : Nat → Message} (other : ∀ n, (message n).module? = none)
    (early : ∀ n, (message n).isLast = false) : Apart s (s.ask message).2 := by
  have posted := apart_post s (other s.nextQuery) (early s.nextQuery)
  unfold ask
  split
  · exact .refl s
  · dsimp only
    split <;> next heq => rw [heq] at posted; exact posted.trans (.same rfl rfl rfl)

theorem apart_beginShutdown (s : Session) (query : Option Nat) :
    Apart s (s.beginShutdown query).2 := by
  refine (apart_tables s).beginShutdown (fun h => h.trans ?_) (fun h => h.trans ?_) (.refl s)
  · exact ⟨[.shutdown query], { Besides.refl _ with
      ordinary := rfl
      others := by simp [Message.module?]
      closed := fun _ => rfl
      last := fun _ _ _ => rfl }⟩
  · exact ⟨[], { Besides.refl _ with closed := fun _ => rfl, last := nofun }⟩

theorem apart_askShutdown (s : Session) : Apart s s.askShutdown.2 := by
  have begun := apart_beginShutdown s (some s.nextQuery)
  unfold askShutdown
  dsimp only
  split <;> next heq => rw [heq] at begun; exact begun.trans (.same rfl rfl rfl)

theorem apart_scriptResult (s : Session) (key : String) : Apart s (s.scriptResult key).2 := by
  unfold scriptResult
  split
  · exact .refl s
  split
  · exact .refl s
  · exact .same rfl rfl rfl

theorem apart_sweepGraveyard (s : Session) : Apart s s.sweepGraveyard.2 := by
  obtain ⟨released, failures, eq, -⟩ := s.sweepGraveyard_eq
  rw [eq]
  refine ⟨[], { Besides.refl s with log := registrations_of_others (fun e mem => ?_) s.log }⟩
  obtain ⟨pair, -, rfl⟩ := List.mem_map.1 (List.mem_reverse.1 mem)
  rfl

theorem apart_clear (s : Session) : Apart s s.clear := by
  obtain ⟨alarms, sub, eq⟩ := s.clear_eq
  rw [eq]
  exact .trans ⟨[], .fewer sub.subset⟩ (.same rfl rfl rfl)

/-! ## What concerns modules -/

/-- What has happened on the way from one state to another, in that order. While the engine is up,
the loop gives it the module of a message as soon as it takes the message. -/
inductive Enrols (s : Session) : List Enrolment → Session → Prop where
  | none : Enrols s [] s
  | besides {t u : Session} {h : List Enrolment} {joined : List Message} (e : Enrols s h t)
      (b : Besides t joined u) : Enrols s (h ++ joined.map .joined) u
  | accepted {t u : Session} {h : List Enrolment} {name : String} (e : Enrols s h t)
      (accepted : t.registerModule name = (true, u)) : Enrols s (h ++ [.accepted name]) u
  /-- The loop takes a message that brings no module. -/
  | took {t : Session} {h : List Enrolment} {m : Message} {lanes : Lanes Message}
      (e : Enrols s h t) (served : t.lanes.deserted = false)
      (next : t.lanes.next? = some (m, lanes)) (turn : t.lanes.urgent = [])
      (other : m.module? = Option.none) : Enrols s (h ++ [.began m]) { t with lanes }
  /-- The loop takes a module from the line, and gives it to the engine. -/
  | registered {t : Session} {h : List Enrolment} {name : String} {lanes : Lanes Message}
      (e : Enrols s h t) (served : t.lanes.deserted = false)
      (next : t.lanes.next? = some (.register name, lanes)) (turn : t.lanes.urgent = [])
      (free : t.lock = .free) : Enrols s (h ++ [.began (.register name), .registered name])
        (({ t with lanes } : Session).engaged fun s => (s.loadModule name).2)
  /-- The loop ends, with no module in line. -/
  | deserted {t : Session} {h : List Enrolment} (e : Enrols s h t)
      (served : ∀ m ∈ t.lanes.ordinary, m.module? = Option.none) :
      Enrols s h { t with lanes := t.lanes.desert }

/-- One state leads to another, whatever happens on the way. -/
def LeadsTo (s t : Session) : Prop := ∃ h, Enrols s h t

namespace LeadsTo

theorem refl (s : Session) : LeadsTo s s := ⟨[], .none⟩

theorem apart (l : LeadsTo s t) (a : Apart t u) : LeadsTo s u := by
  obtain ⟨_, e⟩ := l
  obtain ⟨_, b⟩ := a
  exact ⟨_, e.besides b⟩

theorem same (l : LeadsTo s t) (backlog : u.backlog = t.backlog) (log : u.log = t.log)
    (lanes : u.lanes = t.lanes) : LeadsTo s u :=
  l.apart (.same backlog log lanes)

theorem note (l : LeadsTo s t) {e : Entry} (other : e.module? = none) : LeadsTo s (t.note e) :=
  l.apart ⟨[], .note t other⟩

theorem register (l : LeadsTo s t) (name : String) : LeadsTo s (t.registerModule name).2 := by
  cases accepted : t.registerModule name with
  | mk answer u =>
    cases answer with
    | true =>
      obtain ⟨_, e⟩ := l
      exact ⟨_, e.accepted accepted⟩
    | false =>
      have refused : u = t := by
        unfold registerModule at accepted
        split at accepted
        · cases accepted
          rfl
        split at accepted
        · cases accepts : t.lanes.accepts with
          | true =>
            rw [post, Lanes.post_of_accepts accepts] at accepted
            cases accepted
          | false =>
            rw [post, Lanes.post_of_not_accepts accepts] at accepted
            cases accepted
            rfl
        · cases accepted
      rwa [refused]

end LeadsTo

/-! ## Code -/

theorem askScript_leadsTo (source name : String) (l : LeadsTo v s) :
    LeadsTo v (s.askScript source name).2 :=
  l.apart (apart_ask s (fun _ => rfl) fun _ => rfl)

theorem askRequire_leadsTo (path : String) (l : LeadsTo v s) : LeadsTo v (s.askRequire path).2 :=
  l.apart (apart_ask s (fun _ => rfl) fun _ => rfl)

theorem blockingAsk_leadsTo {a : Action} {ask : Session → Except Failure Nat × Session}
    (asks : blockingAsk a = some ask) (l : LeadsTo v s) : LeadsTo v (ask s).2 := by
  unfold blockingAsk at asks
  split at asks
  · cases asks; exact askScript_leadsTo _ _ l
  · cases asks; exact askRequire_leadsTo _ l
  · cases asks; exact l.apart (apart_askShutdown s)
  · cases asks

theorem beginScript_leadsTo (key source name : String) (l : LeadsTo v s) :
    LeadsTo v (s.beginScript key source name).2 := by
  have asked := askScript_leadsTo source name l
  unfold beginScript
  split
  · next heq => rw [heq] at asked; exact asked.same rfl rfl rfl
  · next heq => rw [heq] at asked; exact asked

theorem askFrom_leadsTo (thread : Thread) {ask : Session → Except Failure Nat × Session}
    (l : LeadsTo v s) (asked : LeadsTo v (ask s).2) : LeadsTo v (askFrom thread ask s).2 := by
  unfold askFrom
  split
  · exact l
  · split <;> next heq => rw [heq] at asked; exact asked

theorem shutdownFrom_leadsTo (thread : Thread) (l : LeadsTo v s) :
    LeadsTo v (shutdownFrom thread s).2 := by
  have begun := l.apart (apart_beginShutdown s none)
  have asked := l.apart (apart_askShutdown s)
  unfold shutdownFrom
  split
  · split <;> next heq => rw [heq] at begun; exact begun
  · split <;> next heq => rw [heq] at asked; exact asked

/-- Calls to the engine, where it is at hand, give it no module. -/
def AccessLeads : EngineAccess → Prop :=
  EngineAccess.All fun engine => ∀ {v : Session} thread call s,
    LeadsTo v s → LeadsTo v (engine thread call s).2

theorem callEngine_leadsTo {access : EngineAccess} (h : AccessLeads access) (thread : Thread)
    (call : EngineCall) (l : LeadsTo v s) : LeadsTo v (callEngine access thread call s).2 := by
  unfold callEngine
  split
  · exact l
  next engine given =>
    have called := h.1 engine given thread call s l
    split <;> next heq => rw [heq] at called; exact called

mutual

theorem perform_leadsTo {access : EngineAccess} (h : AccessLeads access) (thread : Thread) :
    (a : Action) → {s : Session} → LeadsTo v s → LeadsTo v (perform access thread a s).2
  | .schedule door pair delay recurring, s, l =>
    l.apart ((apart_tables s).schedule door pair delay recurring (.refl s))
  | .cancel door timer, s, l => l.apart ((apart_tables s).cancel door timer (.refl s))
  | .tick door noThreads tag actions, s, l =>
    l.apart ((apart_enqueuing s).enqueue door thread noThreads ⟨tag, actions⟩ (.refl s))
  | .request door noThreads order, s, l =>
    l.apart ((apart_requests s).issue door noThreads order (.refl s))
  | .on door event pair, s, l => l.apart ((apart_tables s).listen door event pair (.refl s))
  | .off door event, s, l => l.apart ((apart_tables s).unlisten door event (.refl s))
  | .emit event value, s, l => l.apart (apart_emit s event value)
  | .emitFlag event value, s, l => l.apart (apart_emit s event (.bool value))
  | .register name, _, l => l.register name
  | .post tag delay actions, s, l => l.apart (apart_postWork s delay ⟨tag, actions⟩)
  | .pause, s, l => l.apart ((apart_tables s).pause (.refl s))
  | .unpause, s, l => l.apart ((apart_tables s).unpause (.refl s))
  | .sweep, s, l => l.apart (apart_sweepNow s)
  | .observe tag actions, s, l => by
    have told := play_leadsTo h.outside thread actions (l.note (e := .observer tag thread) rfl)
    unfold perform
    cases s.readiness.ready with
    | false => exact l.same rfl rfl rfl
    | true => exact told.same rfl rfl rfl
  | .unobserve _, _, l => l.same rfl rfl rfl
  | .release key, s, l => l.apart ((apart_requests s).release key (.refl s))
  | .guarded body, s, l => by
    unfold perform
    split
    · exact l
    next u take =>
      obtain ⟨-, -, rfl⟩ := takeLock_eq_ok.1 take
      have inner := collect_leadsTo h.inside thread body
        (l.same (u := { s with lock := ⟨some thread⟩ }) rfl rfl rfl)
      split <;> next heq => rw [heq] at inner; exact inner.same rfl rfl rfl
  | .leakLock, s, l => by
    unfold perform
    split
    · exact l
    next u take =>
      obtain ⟨-, -, rfl⟩ := takeLock_eq_ok.1 take
      exact l.same rfl rfl rfl
  | .script source name, _, l => askFrom_leadsTo thread l (askScript_leadsTo source name l)
  | .require path, _, l => askFrom_leadsTo thread l (askRequire_leadsTo path l)
  | .shutdown, _, l => shutdownFrom_leadsTo thread l
  | .beginScript key source name, _, l => beginScript_leadsTo key source name l
  | .scriptResult key, s, l => l.apart (apart_scriptResult s key)
  | .callScript source name, _, l => callEngine_leadsTo h thread (.script source name) l
  | .callBack pair arguments, _, l => callEngine_leadsTo h thread (.invoke pair arguments) l
  | .phase _, _, l | .locale _, _, l | .isTimerLive _, _, l | .readiness, _, l
  | .awaitReady, _, l | .interval, _, l | .statistics, _, l | .fail _, _, l | .panic, _, l => l

theorem play_leadsTo {access : EngineAccess} (h : AccessLeads access) (thread : Thread) :
    (actions : List Action) → {s : Session} → LeadsTo v s →
      LeadsTo v (play access thread actions s).2
  | [], _, l => l
  | a :: rest, s, l => by
    have first := perform_leadsTo h thread a l
    unfold play
    split
    · next reply t heq =>
      rw [heq] at first
      exact play_leadsTo h thread rest (first.note (e := .did a.name reply) rfl)
    · next heq => rw [heq] at first; exact first
    · next heq => rw [heq] at first; exact first

theorem collect_leadsTo {access : EngineAccess} (h : AccessLeads access) (thread : Thread) :
    (actions : List Action) → {s : Session} → LeadsTo v s →
      LeadsTo v (collect access thread actions s).2
  | [], _, l => l
  | a :: rest, s, l => by
    have first := perform_leadsTo h thread a l
    unfold collect
    split
    · next reply t heq =>
      rw [heq] at first
      have others := collect_leadsTo h thread rest first
      split <;> next heq => rw [heq] at others; exact others
    · next heq => rw [heq] at first; exact first

end

/-! ## What plays actions -/

theorem playScripted_leadsTo (thread : Thread) (actions : List Action) (l : LeadsTo v s) :
    LeadsTo v (playScripted thread actions s).2 := by
  have played := play_leadsTo EngineAccess.all_nowhere thread actions l
  unfold playScripted
  split <;> next heq => rw [heq] at played; exact played

theorem invoke_leadsTo (thread : Thread) (pair : Pair) (arguments : List Json.Value)
    (l : LeadsTo v s) : LeadsTo v (invoke thread pair arguments s).2 := by
  have noted := l.note (e := .invoke pair arguments thread) rfl
  exact playScripted_leadsTo thread _ (noted.same rfl rfl rfl)

theorem runScript_leadsTo (thread : Thread) (source name : String) (l : LeadsTo v s) :
    LeadsTo v (runScript thread source name s).2 := by
  rw [runScript_eq]
  exact playScripted_leadsTo thread _ (l.note rfl)

theorem loadPath_leadsTo (thread : Thread) (path : String) (l : LeadsTo v s) :
    LeadsTo v (loadPath thread path s).2 :=
  playScripted_leadsTo thread _ (l.note (e := .require path) rfl)

theorem engineAccess_leads : AccessLeads engineAccess := by
  refine EngineAccess.all_engineAccess ?_
  intro v thread call s l
  cases call with
  | script source name => exact runScript_leadsTo thread source name l
  | invoke pair arguments => exact invoke_leadsTo thread pair arguments (l.same rfl rfl rfl)

theorem invokeLive_leadsTo (thread : Thread) (pair : Pair) (arguments : List Json.Value)
    (l : LeadsTo v s) : LeadsTo v (s.invokeLive thread pair arguments).2 := by
  unfold invokeLive
  split
  · exact invoke_leadsTo thread pair arguments l
  · exact l.same rfl rfl rfl

theorem runWork_leadsTo {access : EngineAccess} (h : AccessLeads access) (thread : Thread)
    {entry : Entry} (other : entry.module? = none) (work : Work) (l : LeadsTo v s) :
    LeadsTo v (s.runWork access thread entry work) :=
  play_leadsTo h thread work.actions (l.note other)

theorem act_leadsTo (a : Action) (l : LeadsTo v s) : LeadsTo v (s.act a).2 := by
  have done := perform_leadsTo engineAccess_leads.outside .host a l
  unfold act
  split <;> next heq => rw [heq] at done; exact done

theorem earlyStep_leadsTo (step : HostStep) (l : LeadsTo v s) :
    LeadsTo v (s.earlyStep step).2.2 := by
  cases step with
  | run ms => exact l
  | drop => exact l
  | act a =>
    unfold earlyStep
    dsimp only
    split
    · next asks => exact blockingAsk_leadsTo asks l
    · exact act_leadsTo a l

theorem earlySteps_leadsTo (steps : List HostStep) (l : LeadsTo v s) :
    LeadsTo v (s.earlySteps steps).2.2 := by
  induction steps generalizing s with
  | nil => exact l
  | cons step rest ih => exact ih (earlyStep_leadsTo step l)

/-! ## Drains -/

theorem drain_leadsTo {bound : Nat} {thread : Thread} (l : LeadsTo v s)
    (d : s.drain bound thread = some t) : LeadsTo v t :=
  drain_induct (fun _ l => l.same rfl rfl rfl) (fun _ l => l.same rfl rfl rfl)
    (fun job l => runWork_leadsTo engineAccess_leads thread rfl job
      (l.same (u := record _ (.executed job)) rfl rfl rfl)) l d

theorem runHelpers_leadsTo {bound : Nat} (l : LeadsTo v s) (d : s.runHelpers bound = some t) :
    LeadsTo v t :=
  runHelpers_induct (fun l => l.same rfl rfl rfl) drain_leadsTo l d

end Session
end ScriptHost
