import ScriptHost.Proofs.Enrolment
import ScriptHost.Proofs.NextTick

/-!
# The order of modules

The backlog is handed over once, between the moment at which the engine has come up and the moment
at which it is given the entry script; from then on modules come by the ordinary lane. The lane is
served in order, and a module is given to the engine when its message is taken. So the engine is
given the modules in the order in which they have been accepted, each of them once, and whatever has
joined the lane behind a module finds it registered.

## Main definitions

* `acceptedIn`, `registeredIn`, `linedIn`, `begunIn` — what can be read off from what has happened.
* `Session.Orderly` — nothing that concerns modules is out of its place in the queue.
* `Session.Timely` — whatever is taken from the lane finds the modules ahead of it registered.
* `Session.Enlisted` — what has happened since the backlog was handed over.

## Main statements

* `Session.Enrols.awaiting` — until then modules wait in the backlog.
* `Session.Enrols.enlisted` — what has happened agrees with the state to which it has led.
-/

namespace ScriptHost

/-! ## What has happened -/

namespace Enrolment

def accepted? : Enrolment → Option String
  | .accepted name => some name
  | _ => none

def registered? : Enrolment → Option String
  | .registered name => some name
  | _ => none

/-- The message that joins the ordinary lane, if the engine is up. -/
def lined? : Enrolment → Option Message
  | .accepted name => some (.register name)
  | .joined m => some m
  | _ => none

def begun? : Enrolment → Option Message
  | .began m => some m
  | _ => none

end Enrolment

/-- The modules that have been accepted. -/
def acceptedIn (h : List Enrolment) : List String := h.filterMap Enrolment.accepted?

/-- The modules that the engine has been given. -/
def registeredIn (h : List Enrolment) : List String := h.filterMap Enrolment.registered?

/-- The messages that have joined the ordinary lane while the engine was up. -/
def linedIn (h : List Enrolment) : List Message := h.filterMap Enrolment.lined?

/-- The messages that have been taken from the ordinary lane. -/
def begunIn (h : List Enrolment) : List Message := h.filterMap Enrolment.begun?

/-- The modules that messages bring. -/
def modulesIn (messages : List Message) : List String := messages.filterMap Message.module?

theorem modulesIn_append (ms ms' : List Message) :
    modulesIn (ms ++ ms') = modulesIn ms ++ modulesIn ms' := List.filterMap_append ..

theorem modulesIn_eq_nil {ms : List Message} :
    modulesIn ms = [] ↔ ∀ m ∈ ms, m.module? = none := List.filterMap_eq_nil_iff

section
variable (h h' : List Enrolment) (joined : List Message) (names : List String)

@[simp] theorem acceptedIn_append : acceptedIn (h ++ h') = acceptedIn h ++ acceptedIn h' :=
  List.filterMap_append ..

@[simp] theorem registeredIn_append : registeredIn (h ++ h') = registeredIn h ++ registeredIn h' :=
  List.filterMap_append ..

@[simp] theorem linedIn_append : linedIn (h ++ h') = linedIn h ++ linedIn h' :=
  List.filterMap_append ..

@[simp] theorem begunIn_append : begunIn (h ++ h') = begunIn h ++ begunIn h' :=
  List.filterMap_append ..

@[simp] theorem acceptedIn_joined : acceptedIn (joined.map .joined) = [] := by
  simp [acceptedIn, Enrolment.accepted?]

@[simp] theorem registeredIn_joined : registeredIn (joined.map .joined) = [] := by
  simp [registeredIn, Enrolment.registered?]

@[simp] theorem linedIn_joined : linedIn (joined.map .joined) = joined := by
  simp [linedIn, Function.comp_def, Enrolment.lined?]

@[simp] theorem begunIn_joined : begunIn (joined.map .joined) = [] := by
  simp [begunIn, Enrolment.begun?]

@[simp] theorem registeredIn_began (m : Message) :
    registeredIn (.began m :: h) = registeredIn h := rfl

@[simp] theorem linedIn_began (m : Message) : linedIn (.began m :: h) = linedIn h := rfl

@[simp] theorem begunIn_began (m : Message) : begunIn (.began m :: h) = m :: begunIn h := rfl

@[simp] theorem registeredIn_registered : registeredIn (names.map .registered) = names := by
  simp [registeredIn, Function.comp_def, Enrolment.registered?]

@[simp] theorem linedIn_registered : linedIn (names.map .registered) = [] := by
  simp [linedIn, Enrolment.lined?]

@[simp] theorem begunIn_registered : begunIn (names.map .registered) = [] := by
  simp [begunIn, Enrolment.begun?]

end

/-- If the other messages bring no modules, the lane brings those that have been accepted. -/
theorem acceptedIn_eq {h : List Enrolment} (others : ∀ m, .joined m ∈ h → m.module? = none) :
    acceptedIn h = modulesIn (linedIn h) := by
  induction h with
  | nil => rfl
  | cons e rest ih =>
    have ih := ih fun m mem => others m (List.mem_cons_of_mem _ mem)
    cases e with
    | accepted name => exact congrArg (name :: ·) ih
    | joined m =>
      have other : modulesIn [m] = [] := modulesIn_eq_nil.2 (by simpa using others m)
      have brought := modulesIn_append [m] (linedIn rest)
      rw [other, ← ih] at brought
      exact brought.symm
    | registered name => exact ih
    | began m => exact ih

namespace Session

variable {o s t u v w : Session} {h h' : List Enrolment} {name : String}

/-- A module that is accepted waits in the backlog, or its message joins the lane. -/
theorem registerModule_cases (accepted : s.registerModule name = (true, t)) :
    s.lanes.closed = false ∧
      (s.backlog.opened = false ∧ t = { s with backlog.names := s.backlog.names ++ [name] } ∨
        s.backlog.opened = true ∧ s.lanes.deserted = false ∧
          t = { s with lanes.ordinary := s.lanes.ordinary ++ [.register name] }) := by
  unfold registerModule at accepted
  split at accepted
  · cases accepted
  next live =>
  simp only [Bool.not_eq_true, Bool.not_eq_false'] at live
  refine ⟨lanes_open_of_isLive live, ?_⟩
  split at accepted
  · next opened =>
    simp only [post] at accepted
    generalize posted : s.lanes.post (.register name) = r at accepted
    obtain ⟨answer, lanes⟩ := r
    cases accepted
    obtain ⟨-, served, rfl⟩ := Lanes.post_eq_true posted
    exact .inr ⟨opened, served, rfl⟩
  · next closed =>
    cases accepted
    exact .inl ⟨by simpa using closed, rfl⟩

theorem loadModule_locked (free : s.lock = .free) :
    (s.engaged fun s => (s.loadModule name).2) = s.note (.register name) := by
  rw [engaged_free free, loadModule]
  simp only [note, unlock, Lock.release, ← free]

/-- The modules of a list are given to the engine one after the other. -/
theorem loadModules_eq {names : List String} (loaded : loadModules names s = (true, t)) :
    t = { s with log := (names.map .register).reverse ++ s.log } := by
  induction names generalizing s with
  | nil => cases loaded; rfl
  | cons name rest ih =>
    have rest := @ih (s.note (.register name))
    unfold loadModules at loaded
    simp only [loadModule] at loaded
    split at loaded
    · cases loaded
    · next heq =>
      cases heq
      rw [rest loaded]
      simp [note]

namespace Enrols

theorem trans (e : Enrols s h t) (e' : Enrols t h' u) : Enrols s (h ++ h') u := by
  induction e' with
  | none => simpa using e
  | besides _ b ih => simpa using ih.besides b
  | accepted _ a ih => simpa using ih.accepted a
  | took _ served next turn other ih => simpa using ih.took served next turn other
  | registered _ served next turn free ih => simpa using ih.registered served next turn free
  | deserted _ served ih => exact ih.deserted served

end Enrols

/-! ## The queue -/

/-- Nothing that concerns modules is out of its place: what is urgent or armed brings none, and none
is behind the last message, nor in a queue that has been deserted. -/
structure Orderly (s : Session) : Prop where
  urgent : ∀ m ∈ s.lanes.urgent, m.isUrgent = true
  alarms : ∀ a ∈ s.lanes.alarms, a.message.isTimely = true
  isOpen : s.lanes.closed = false → ∀ m ∈ s.lanes.ordinary, m.isLast = false
  behind : s.lanes.ordinary.Pairwise fun m m' => m.isLast = true → m'.module? = none
  lost : s.lanes.deserted = true → modulesIn s.lanes.ordinary = []

namespace Orderly

theorem besides {joined : List Message} (o : s.Orderly) (b : Besides s joined t) : t.Orderly where
  urgent m mem := (b.urgent m mem).elim (o.urgent m) id
  alarms a mem := (b.alarms a mem).elim (o.alarms a) id
  isOpen isOpen m mem := by
    rw [b.ordinary] at mem
    rcases List.mem_append.1 mem with mem | mem
    · refine o.isOpen ?_ m mem
      by_contra closed
      cases isOpen.symm.trans (b.closed (by simpa using closed))
    · by_contra last
      cases isOpen.symm.trans (b.last m mem (by simpa using last))
  behind := by
    rw [b.ordinary]
    refine List.pairwise_append.2 ⟨o.behind, ?_, fun _ _ m mem _ => b.others m mem⟩
    exact List.pairwise_of_forall_mem_list fun _ _ m mem _ => b.others m mem
  lost deserted := by
    rw [b.ordinary, modulesIn_append, o.lost (b.deserted.symm.trans deserted),
      modulesIn_eq_nil.2 b.others]
    rfl

theorem registers (o : s.Orderly) (accepted : s.registerModule name = (true, t)) :
    t.Orderly := by
  obtain ⟨isOpen, ⟨-, rfl⟩ | ⟨-, served, rfl⟩⟩ := registerModule_cases accepted
  · exact { o with }
  · exact {
      urgent := o.urgent
      alarms := o.alarms
      isOpen := fun _ m mem => by
        rcases List.mem_append.1 mem with mem | mem
        · exact o.isOpen isOpen m mem
        · rw [List.mem_singleton.1 mem]
          rfl
      behind := by
        refine List.pairwise_append.2 ⟨o.behind, List.pairwise_singleton .., ?_⟩
        intro m mem _ _ last
        cases (o.isOpen isOpen m mem).symm.trans last
      lost := fun deserted => nomatch served.symm.trans deserted }

/-- The loop has taken a message from the ordinary lane. -/
theorem taken {m : Message} {rest : List Message} (o : s.Orderly)
    (first : s.lanes.ordinary = m :: rest) : Orderly { s with lanes.ordinary := rest } where
  urgent := o.urgent
  alarms := o.alarms
  isOpen isOpen m' mem := o.isOpen isOpen m' (first ▸ List.mem_cons_of_mem _ mem)
  behind := (List.pairwise_cons.1 (first ▸ o.behind)).2
  lost deserted := by
    have none := modulesIn_eq_nil.1 (o.lost deserted)
    exact modulesIn_eq_nil.2 fun m' mem => none m' (first ▸ List.mem_cons_of_mem _ mem)

end Orderly

/-- The loop takes the first message of the ordinary lane if nothing is urgent. -/
theorem first_of_turn {m : Message} {lanes : Lanes Message}
    (next : s.lanes.next? = some (m, lanes)) (turn : s.lanes.urgent = []) :
    ∃ rest, s.lanes.ordinary = m :: rest ∧ lanes = { s.lanes with ordinary := rest } :=
  (Lanes.next?_turn next (by simp [turn])).2

theorem Enrols.orderly (e : Enrols s h t) (o : s.Orderly) : t.Orderly := by
  induction e with
  | none => exact o
  | besides _ b ih => exact ih.besides b
  | accepted _ a ih => exact ih.registers a
  | took _ _ next turn _ ih =>
    obtain ⟨rest, first, rfl⟩ := first_of_turn next turn
    exact ih.taken first
  | registered _ _ next turn free ih =>
    obtain ⟨rest, first, rfl⟩ := first_of_turn next turn
    rw [loadModule_locked (by exact free)]
    exact { ih.taken first with }
  | deserted _ _ ih => exact ⟨nofun, nofun, fun _ => nofun, .nil, fun _ => rfl⟩

/-! ## Before the engine is up -/

/-- Until the engine is up, modules wait in the backlog. -/
theorem Enrols.awaiting (e : Enrols s h t) (closed : s.backlog.opened = false)
    (none : modulesIn s.lanes.ordinary = []) :
    t.backlog = ⟨false, s.backlog.names ++ acceptedIn h⟩ ∧ modulesIn t.lanes.ordinary = [] ∧
      registrations t.log = registrations s.log := by
  induction e with
  | none =>
    refine ⟨?_, none, rfl⟩
    rw [← closed]
    simp [acceptedIn]
  | besides _ b ih =>
    obtain ⟨backlog, none, log⟩ := ih
    refine ⟨by simp [b.backlog, backlog], ?_, b.log.trans log⟩
    rw [b.ordinary, modulesIn_append, none, modulesIn_eq_nil.2 b.others]
    rfl
  | @accepted t u h name _ a ih =>
    obtain ⟨backlog, none, log⟩ := ih
    obtain ⟨-, ⟨-, rfl⟩ | ⟨opened, -⟩⟩ := registerModule_cases a
    · refine ⟨?_, none, log⟩
      simp [backlog, acceptedIn, Enrolment.accepted?]
    · rw [backlog] at opened
      cases opened
  | took _ _ next turn other ih =>
    obtain ⟨backlog, none, log⟩ := ih
    obtain ⟨rest, first, rfl⟩ := first_of_turn next turn
    refine ⟨?_, ?_, log⟩
    · simp [backlog, acceptedIn, Enrolment.accepted?]
    · rw [first] at none
      simpa [modulesIn, other] using none
  | registered _ _ next turn _ ih =>
    obtain ⟨-, none, -⟩ := ih
    obtain ⟨rest, first, rfl⟩ := first_of_turn next turn
    rw [first] at none
    cases none
  | deserted _ _ ih => exact ⟨ih.1, rfl, ih.2.2⟩

/-! ## When the engine is up -/

/-- When a message is taken, the engine has been given exactly the modules that had been accepted
before the message joined the lane. The message is known by its place in the lane: as many messages
have been taken before it as have joined the lane before it. -/
def Timely (v : Session) (h : List Enrolment) : Prop :=
  ∀ earlier m before n between, earlier ++ [.began m] <+: h →
    earlier = before ++ .joined n :: between →
    v.lanes.ordinary.length + (linedIn before).length = (begunIn earlier).length →
      m = n ∧ acceptedIn before = registeredIn earlier

namespace Timely

/-- Where nothing is taken, nothing new has to be timely. -/
theorem quiet {more : List Enrolment} (untaken : ∀ x ∈ more, x.begun? = none) (k : Timely v h) :
    Timely v (h ++ more) := by
  induction more using List.reverseRecOn with
  | nil => simpa using k
  | append_singleton more x ih =>
    have ih := ih fun x mem => untaken x (List.mem_append_left _ mem)
    intro earlier m before n between pre
    rw [← List.append_assoc] at pre
    rcases List.prefix_concat_iff.1 pre with eq | pre
    · obtain ⟨-, last⟩ := List.append_inj' eq rfl
      obtain rfl := (List.cons.inj last).1
      cases untaken _ (List.mem_append_right _ (List.mem_singleton.2 rfl))
    · exact ih earlier m before n between pre

/-- One more message is taken. -/
theorem took {m : Message} (k : Timely v h)
    (next : ∀ before n between, h = before ++ .joined n :: between →
      v.lanes.ordinary.length + (linedIn before).length = (begunIn h).length →
        m = n ∧ acceptedIn before = registeredIn h) : Timely v (h ++ [.began m]) := by
  intro earlier m' before n between pre
  rcases List.prefix_concat_iff.1 pre with eq | pre
  · obtain ⟨rfl, last⟩ := List.append_inj' eq rfl
    cases last
    exact next before n between
  · exact k earlier m' before n between pre

end Timely

/-- What has happened since the backlog was handed over agrees with the state to which it has led:
the ordinary lane has been served in order, and messages have been taken in time. -/
structure Enlisted (v : Session) (h : List Enrolment) (s : Session) : Prop where
  backlog : s.backlog = ⟨true, []⟩
  log : registrations s.log = registrations v.log ++ registeredIn h
  line : ∃ rest, v.lanes.ordinary ++ linedIn h = begunIn h ++ rest ∧
    modulesIn rest = modulesIn s.lanes.ordinary ∧
    (s.lanes.deserted = false → rest = s.lanes.ordinary)
  others : ∀ m, .joined m ∈ h → m.module? = none
  registered : registeredIn h = modulesIn (begunIn h)
  timely : Timely v h

namespace Enlisted

variable {joined : List Message} {m : Message} {rest : List Message}

/-- What has been accepted since then has been registered, or waits. -/
theorem balance (e : Enlisted v h s) (none : modulesIn v.lanes.ordinary = []) :
    acceptedIn h = registeredIn h ++ modulesIn s.lanes.ordinary := by
  obtain ⟨rest, line, waits, -⟩ := e.line
  have brought := congrArg modulesIn line
  rw [modulesIn_append, modulesIn_append, none, waits] at brought
  rw [acceptedIn_eq e.others, e.registered, ← brought]
  rfl

/-- What is taken next has joined the lane behind all that has been taken before. -/
theorem next_timely (e : Enlisted v h s) (none : modulesIn v.lanes.ordinary = [])
    (first : s.lanes.ordinary = m :: rest) (served : s.lanes.deserted = false)
    {before between : List Enrolment} {n : Message} (split : h = before ++ .joined n :: between)
    (place : v.lanes.ordinary.length + (linedIn before).length = (begunIn h).length) :
    m = n ∧ acceptedIn before = registeredIn h := by
  obtain ⟨line, eq, -, waits⟩ := e.line
  rw [waits served, first] at eq
  have lined : linedIn h = linedIn before ++ n :: linedIn between := by
    rw [split, linedIn_append]
    rfl
  rw [lined, ← List.append_assoc] at eq
  obtain ⟨ahead, behind⟩ := List.append_inj eq (by simpa using place)
  refine ⟨(List.cons.inj behind).1.symm, ?_⟩
  have others : ∀ n, .joined n ∈ before → n.module? = Option.none :=
    fun n mem => e.others n (split ▸ List.mem_append_left _ mem)
  have brought := congrArg modulesIn ahead
  rw [modulesIn_append, none] at brought
  rw [acceptedIn_eq others, e.registered, ← brought]
  rfl

theorem besides (e : Enlisted v h s) (b : Besides s joined t) :
    Enlisted v (h ++ joined.map .joined) t where
  backlog := b.backlog.trans e.backlog
  log := by rw [b.log, e.log]; simp
  line := by
    obtain ⟨rest, line, waits, served⟩ := e.line
    refine ⟨rest ++ joined, ?_, ?_, fun taken => ?_⟩
    · rw [linedIn_append, linedIn_joined, ← List.append_assoc, line]
      simp
    · rw [modulesIn_append, waits, b.ordinary, modulesIn_append]
    · rw [b.ordinary, served (b.deserted.symm.trans taken)]
  others m mem := by
    rcases List.mem_append.1 mem with mem | mem
    · exact e.others m mem
    · obtain ⟨m', mem, eq⟩ := List.mem_map.1 mem
      cases eq
      exact b.others m mem
  registered := by simpa using e.registered
  timely := e.timely.quiet (by simp [Enrolment.begun?])

theorem registers (e : Enlisted v h s) (accepted : s.registerModule name = (true, t)) :
    Enlisted v (h ++ [.accepted name]) t := by
  obtain ⟨-, ⟨closed, -⟩ | ⟨-, served, rfl⟩⟩ := registerModule_cases accepted
  · rw [e.backlog] at closed
    cases closed
  obtain ⟨rest, line, waits, taken⟩ := e.line
  exact {
    backlog := e.backlog
    log := by rw [e.log]; simp [registeredIn, Enrolment.registered?]
    line := by
      refine ⟨rest ++ [.register name], ?_, ?_, fun _ => ?_⟩
      · rw [linedIn_append, ← List.append_assoc, line]
        simp [linedIn, begunIn, Enrolment.lined?, Enrolment.begun?]
      · rw [modulesIn_append, waits, modulesIn_append]
      · rw [taken served]
    others := fun m mem => e.others m (by simpa using mem)
    registered := by
      rw [registeredIn_append, begunIn_append, modulesIn_append, e.registered]
      rfl
    timely := e.timely.quiet (by simp [Enrolment.begun?]) }

/-- The loop has taken a message, and has given its module to the engine, if it brings one. -/
theorem taken (e : Enlisted v h s) (none : modulesIn v.lanes.ordinary = [])
    (served : s.lanes.deserted = false) (first : s.lanes.ordinary = m :: rest)
    (backlog : t.backlog = s.backlog)
    (log : registrations t.log = registrations s.log ++ modulesIn [m])
    (ordinary : t.lanes.ordinary = rest) :
    Enlisted v (h ++ .began m :: (modulesIn [m]).map .registered) t := by
  obtain ⟨line, eq, -, waits⟩ := e.line
  rw [waits served, first] at eq
  have took := e.timely.took fun _ _ _ split => e.next_timely none first served split
  have timely := @Timely.quiet _ _ ((modulesIn [m]).map .registered)
    (by simp [Enrolment.begun?]) took
  rw [List.append_cons]
  exact {
    backlog := backlog.trans e.backlog
    log := by
      rw [log, e.log]
      simp
    line := by
      refine ⟨rest, ?_, by rw [ordinary], fun _ => ordinary.symm⟩
      simp [eq]
    others := fun n mem => e.others n (by simpa using mem)
    registered := by
      simp [modulesIn_append, e.registered]
    timely := timely }

/-- The loop has ended, with no module in line. -/
theorem deserted (e : Enlisted v h s) (served : modulesIn s.lanes.ordinary = []) :
    Enlisted v h { s with lanes := s.lanes.desert } := by
  obtain ⟨rest, line, waits, -⟩ := e.line
  exact { e with line := ⟨rest, line, waits.trans served, nofun⟩ }

end Enlisted

/-- What has happened since the backlog was handed over agrees with the state to which it has led.
-/
theorem Enrols.enlisted (e : Enrols v h s) (backlog : v.backlog = ⟨true, []⟩)
    (none : modulesIn v.lanes.ordinary = []) : Enlisted v h s := by
  induction e with
  | none =>
    exact ⟨backlog, (List.append_nil _).symm, ⟨_, List.append_nil _, rfl, fun _ => rfl⟩, nofun, rfl,
      fun _ _ _ _ _ pre => by simp at pre⟩
  | besides _ b ih => exact ih.besides b
  | accepted _ a ih => exact ih.registers a
  | @took t h m lanes _ served next turn other ih =>
    obtain ⟨rest, first, rfl⟩ := first_of_turn next turn
    have brings : modulesIn [m] = [] := modulesIn_eq_nil.2 (by simpa using other)
    have taken := @Enlisted.taken _ { t with lanes.ordinary := rest } _ _ _ _ ih none served first
      rfl (by rw [brings, List.append_nil]) rfl
    rwa [brings] at taken
  | @registered t h name lanes _ served next turn free ih =>
    obtain ⟨rest, first, rfl⟩ := first_of_turn next turn
    rw [loadModule_locked (by exact free)]
    exact ih.taken none served first rfl (registrations_append [.register name] t.log) rfl
  | deserted _ served ih => exact ih.deserted (modulesIn_eq_nil.2 served)

end Session
end ScriptHost
