import ScriptHost.Session.Scenario

/-!
# Mended code

Code can end normally, fail, or panic. Where nobody looks at the end — in a job, a task, an
observer, a release, a registration, or an invocation that the loop makes — it can be made normal:
that is the same code, mended. To mend a session is to mend all code that it holds or may still
meet, and to forget how often releases have failed.

## Main definitions

* `Action.isEnd`, `Action.untilEnd` — what ends a list of actions, and what comes before.
* `Action.mend`, `Work.mend`, `Program.mend` — mended code.
* `Reply.blur`, `Entry.blur` — what is seen apart from failed releases.
* `Lanes.map`, `TickQueue.map`, `Readiness.map` — tables with other messages, jobs or observers.
* `Session.mend` — a session with mended code.

## Design notes

Which invocations may be mended is a parameter, since code that invokes a callback on the engine
directly does look at the end. Scripts, the bodies of guarded actions and the engine's own start are
looked at as well: only the code that they hand over is mended in them.

A callback that a program says nothing about does nothing and ends normally, as if empty lists had
been given for it; so of two programs that give different numbers of lists, the shorter one can be
filled up.
-/

namespace ScriptHost

/-- A choice of invocations, by callback and by how often it has been invoked before. -/
abbrev Invocations := UInt64 → Nat → Bool

/-! ## Code -/

namespace Action

/-- Whether an action does nothing but end the list it stands in. -/
def isEnd : Action → Bool
  | .fail _ | .panic => true
  | _ => false

/-- The actions before the first one that ends the list. -/
def untilEnd (actions : List Action) : List Action := actions.takeWhile fun a => !a.isEnd

mutual

/-- The same action; jobs, tasks and observers that it hands over end normally. -/
def mend : Action → Action
  | .tick door noThreads tag actions => .tick door noThreads tag (untilEnd (mendAll actions))
  | .post tag delay actions => .post tag delay (untilEnd (mendAll actions))
  | .observe tag actions => .observe tag (untilEnd (mendAll actions))
  | .guarded body => .guarded (mendAll body)
  | a => a

/-- The same actions, each of them mended. -/
def mendAll : List Action → List Action
  | [] => []
  | a :: rest => a.mend :: mendAll rest

end

end Action

/-- The same job, task or observer, which ends normally. -/
def Work.mend (w : Work) : Work := { w with actions := Action.untilEnd (Action.mendAll w.actions) }

/-- The same message, with the code that it carries mended. -/
def Message.mend : Message → Message
  | .task work => .task work.mend
  | m => m

/-- The same event, with the code that it mentions mended. -/
def Event.mend : Event → Event
  | .accepted job => .accepted job.mend
  | .executed job => .executed job.mend
  | e => e

/-- The same program: the chosen invocations end normally, no release and no registration fails, and
whatever code hands over is mended. -/
def Program.mend (chosen : Invocations) (p : Program) : Program := { p with
  bringUp := Action.mendAll p.bringUp
  scripts := p.scripts.map fun entry => (entry.1, Action.mendAll entry.2)
  callbacks := p.callbacks.map fun entry => (entry.1, entry.2.mapIdx fun before actions =>
    if chosen entry.1 before then Action.untilEnd (Action.mendAll actions)
    else Action.mendAll actions)
  failDispose := []
  panicDispose := []
  moduleEnd := fun _ => .ok () }

/-- Values that are changed by key are looked up as before. -/
theorem lookup_changed {κ α β : Type} [BEq κ] [LawfulBEq κ] (f : κ → α → β) (table : List (κ × α))
    (key : κ) :
    (table.map fun entry => (entry.1, f entry.1 entry.2)).lookup key =
      (table.lookup key).map (f key) := by
  induction table with
  | nil => rfl
  | cons entry rest ih =>
    obtain ⟨name, value⟩ := entry
    rw [List.map_cons, List.lookup_cons, List.lookup_cons, ih]
    cases same : key == name with
    | true => rw [eq_of_beq same]; rfl
    | false => rfl

namespace Program

variable (chosen : Invocations) (p : Program)

theorem scriptActions_mend (name : String) :
    (p.mend chosen).scriptActions name = Action.mendAll (p.scriptActions name) := by
  have found := lookup_changed (fun _ => Action.mendAll) p.scripts name
  unfold scriptActions
  rw [show (p.mend chosen).scripts.lookup name = _ from found]
  cases p.scripts.lookup name with
  | none => simp [Action.mendAll]
  | some actions => rfl

theorem callbackActions_mend (callback : UInt64) (before : Nat) :
    (p.mend chosen).callbackActions callback before =
      if chosen callback before then
        Action.untilEnd (Action.mendAll (p.callbackActions callback before))
      else Action.mendAll (p.callbackActions callback before) := by
  have found := lookup_changed (fun callback (calls : List (List Action)) =>
    calls.mapIdx fun before actions =>
      if chosen callback before then Action.untilEnd (Action.mendAll actions)
      else Action.mendAll actions) p.callbacks callback
  unfold callbackActions
  rw [show (p.mend chosen).callbacks.lookup callback = _ from found]
  cases p.callbacks.lookup callback with
  | none => simp [Action.mendAll, Action.untilEnd]
  | some calls =>
    simp only [Option.map_some, Option.getD_some, List.getElem?_mapIdx]
    cases calls[before]? with
    | none => simp [Action.mendAll, Action.untilEnd]
    | some actions => rfl

end Program

/-! ## What is seen -/

/-- The same counters but for the failed releases. -/
def Statistics.blur (s : Statistics) : Statistics := { s with disposalFailures := 0 }

namespace Reply

mutual

/-- The same reply, but for the failed releases among counters. -/
def blur : Reply → Reply
  | .statistics s => .statistics s.blur
  | .replies rs => .replies (blurAll rs)
  | r => r

/-- The same replies, each of them blurred. -/
def blurAll : List Reply → List Reply
  | [] => []
  | r :: rest => r.blur :: blurAll rest

end

end Reply

/-- The same entry, with its reply blurred. -/
def Entry.blur : Entry → Entry
  | .did action reply => .did action reply.blur
  | e => e

/-! ## Tables -/

namespace Lanes

variable {μ ν : Type}

/-- The same lanes with other messages. -/
def map (f : μ → ν) (l : Lanes μ) : Lanes ν where
  urgent := l.urgent.map f
  ordinary := l.ordinary.map f
  alarms := l.alarms.map fun a => ⟨a.ticket, a.due, f a.message⟩
  nextTicket := l.nextTicket
  closed := l.closed
  deserted := l.deserted

section
variable (f : μ → ν) (l : Lanes μ)

theorem accepts_map : (l.map f).accepts = l.accepts := rfl

theorem ticket?_map : (l.map f).ticket? = l.ticket? := rfl

@[simp] theorem isArmed_map (ticket : Nat) : (l.map f).isArmed ticket = l.isArmed ticket := by
  simp [isArmed, map, Function.comp_def]

@[simp] theorem nextDue?_map : (l.map f).nextDue? = l.nextDue? := by
  simp [nextDue?, map, Function.comp_def]

theorem post_map (m : μ) : (l.map f).post (f m) = Prod.map id (map f) (l.post m) := by
  unfold post
  rw [accepts_map]
  split
  · simp [map]
  · rfl

theorem postUrgent_map (m : μ) :
    (l.map f).postUrgent (f m) = Prod.map id (map f) (l.postUrgent m) := by
  unfold postUrgent
  rw [accepts_map]
  split
  · simp [map]
  · rfl

theorem insertAlarm_map (a : Alarm μ) (alarms : List (Alarm μ)) :
    (insertAlarm a alarms).map (fun a => (⟨a.ticket, a.due, f a.message⟩ : Alarm ν)) =
      insertAlarm ⟨a.ticket, a.due, f a.message⟩
        (alarms.map fun a => ⟨a.ticket, a.due, f a.message⟩) := by
  induction alarms with
  | nil => rfl
  | cons b rest ih =>
    simp only [insertAlarm, List.map_cons]
    split
    · rw [List.map_cons, ih]
    · rfl

theorem arm_map (due : Nat) (m : μ) :
    (l.map f).arm due (f m) = Prod.map id (map f) (l.arm due m) := by
  unfold arm
  rw [ticket?_map]
  split
  · rfl
  · simp [map, insertAlarm_map]

theorem withdraw_map (ticket : Nat) : (l.map f).withdraw ticket = (l.withdraw ticket).map f := by
  simp [withdraw, map, List.filter_map, Function.comp_def]

theorem postLast_map (m : μ) : (l.map f).postLast (f m) = Prod.map id (map f) (l.postLast m) := by
  unfold postLast
  rw [post_map]
  split
  · simp_all [map]
  · simp_all [map]

theorem deliverDue_map (clock : Nat) : (l.map f).deliverDue clock = (l.deliverDue clock).map f := by
  simp [deliverDue, map, List.takeWhile_map, List.dropWhile_map, Function.comp_def]

theorem next?_map : (l.map f).next? = l.next?.map (Prod.map f (map f)) := by
  unfold next?
  cases hu : l.urgent with
  | cons m rest => simp [map, hu]
  | nil =>
    cases ho : l.ordinary with
    | cons m rest => simp [map, hu, ho]
    | nil => simp [map, hu, ho]

end

end Lanes

/-- The same queue with other jobs. -/
def TickQueue.map {α β : Type} (f : α → β) (q : TickQueue α) : TickQueue β where
  jobs := q.jobs.map f
  draining := q.draining

/-- The same readiness with other observers. -/
def Readiness.map {α β : Type} (f : α → β) (r : Readiness α) : Readiness β where
  ready := r.ready
  nextIndex := r.nextIndex
  waiting := r.waiting.map fun entry => (entry.1, f entry.2)

/-- The same session with mended code; failed releases are forgotten. -/
def Session.mend (chosen : Invocations) (s : Session) : Session := { s with
  program := s.program.mend chosen
  lanes := s.lanes.map Message.mend
  custody.failures := 0
  ticks := s.ticks.map Work.mend
  readiness := s.readiness.map Work.mend
  log := s.log.map Entry.blur
  journal := s.journal.map Event.mend }

namespace Session

variable (chosen : Invocations) (s : Session)

@[simp] theorem mend_settings : (s.mend chosen).settings = s.settings := rfl
@[simp] theorem mend_program : (s.mend chosen).program = s.program.mend chosen := rfl
@[simp] theorem mend_phase : (s.mend chosen).phase = s.phase := rfl
@[simp] theorem mend_loop : (s.mend chosen).loop = s.loop := rfl
@[simp] theorem mend_clock : (s.mend chosen).clock = s.clock := rfl
@[simp] theorem mend_lanes : (s.mend chosen).lanes = s.lanes.map Message.mend := rfl
@[simp] theorem mend_lock : (s.mend chosen).lock = s.lock := rfl
@[simp] theorem mend_timers : (s.mend chosen).timers = s.timers := rfl
@[simp] theorem mend_listeners : (s.mend chosen).listeners = s.listeners := rfl
@[simp] theorem mend_ticks : (s.mend chosen).ticks = s.ticks.map Work.mend := rfl
@[simp] theorem mend_helpers : (s.mend chosen).helpers = s.helpers := rfl
@[simp] theorem mend_traffic : (s.mend chosen).traffic = s.traffic := rfl
@[simp] theorem mend_readiness : (s.mend chosen).readiness = s.readiness.map Work.mend := rfl
@[simp] theorem mend_backlog : (s.mend chosen).backlog = s.backlog := rfl
@[simp] theorem mend_sweepTicket : (s.mend chosen).sweepTicket = s.sweepTicket := rfl
@[simp] theorem mend_nextQuery : (s.mend chosen).nextQuery = s.nextQuery := rfl
@[simp] theorem mend_keys : (s.mend chosen).keys = s.keys := rfl

end Session
end ScriptHost
