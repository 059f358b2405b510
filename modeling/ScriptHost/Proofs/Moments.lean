import ScriptHost.Proofs.Happenings
import ScriptHost.Proofs.Partition

/-!
# The moments of a session

Between two messages a session has a state, but much of what is said of it concerns what happens in
the middle of one: a callback runs while its timer is still in the table, and the queue changes
while the last message is being handled. A moment is a session together with what its loop is
doing, and every message is handled in a few steps from moment to moment. What a step does to the
queue is on record, so the course of a session has a history of its queue.

## Main definitions

* `Session.Changed`, `Session.Moved` — what has happened to the queue.
* `Doing`, `Moment` — what the loop is in the middle of.
* `Moment.Act`, `Moment.Next` — what can be done at a moment, and what can happen next.
* `Moment.Course`, `Moment.Later` — one thing after the other.
* `Moment.Balanced` — every pair in custody has one owner, or is between two.
* `Moment.Occurs` — a moment of a session that has been made.

## Main statements

* `Session.Deeds.moved` — code moves the queue in the ways that are open to those who use it.
* `Session.handle_later`, `Session.Reached.later` — a message, and then a session, leads from
  moment to moment.
* `Moment.Later.balanced` — the ledger is balanced at every moment.
* `Session.Reached.occurs` — what a session reaches are its moments.
-/

namespace ScriptHost

/-- The messages that go to the urgent lane. -/
def Message.isUrgent : Message → Bool
  | .ready | .drain => true
  | _ => false

/-- The messages that are armed for a time. -/
def Message.isTimely : Message → Bool
  | .sweep | .fire _ | .task _ => true
  | _ => false

/-- The last message. -/
def Message.isLast : Message → Bool
  | .shutdown _ => true
  | _ => false

/-- What can happen to the queue of a session: every message goes its own way. -/
def Happening.isProper : Happening Message → Bool
  | .posted m => m.isPlain || m.call?.isSome
  | .urged m => m.isUrgent
  | .armed a => a.message.isTimely
  | .last m => m.isLast
  | _ => true

namespace Session

variable {o s t u : Session}

/-- The queue of a session has been changed. -/
structure Changed (s : Session) (h : History Message) (t : Session) : Prop where
  clock : t.clock = s.clock
  lanes : Lanes.Changes s.clock s.lanes h t.lanes
  proper : ∀ e ∈ h, e.isProper = true

/-- Something may have happened to the queue of a session. -/
def Moved (s t : Session) : Prop := ∃ h, Changed s h t

namespace Moved

theorem same (clock : t.clock = s.clock) (lanes : t.lanes = s.lanes) : Moved s t :=
  ⟨[], clock, lanes ▸ .none _, nofun⟩

theorem refl (s : Session) : Moved s s := same rfl rfl

theorem trans (h : Moved s t) (h' : Moved t u) : Moved s u := by
  obtain ⟨h, clock, lanes, proper⟩ := h
  obtain ⟨h', clock', lanes', proper'⟩ := h'
  rw [clock] at lanes' clock'
  refine ⟨h ++ h', clock', lanes.trans lanes', fun e mem => ?_⟩
  exact (List.mem_append.1 mem).elim (proper e) (proper' e)

theorem one {e : Happening Message} {lanes : Lanes Message}
    (c : Lanes.Change s.clock s.lanes e lanes) (proper : e.isProper = true) :
    Moved s { s with lanes } :=
  ⟨[e], rfl, c.one, by simpa using proper⟩

end Moved

/-! ## Operations -/

theorem moved_post (s : Session) {m : Message} (proper : (m.isPlain || m.call?.isSome) = true) :
    Moved s (s.post m).2 := by
  rcases post_cases s m with eq | ⟨accepts, eq⟩ <;> rw [eq]
  · exact .refl s
  · exact .one (.posted (Lanes.post_of_accepts accepts m)) proper

theorem moved_postUrgent (s : Session) {m : Message} (proper : m.isUrgent = true) :
    Moved s (s.postUrgent m).2 := by
  rcases postUrgent_cases s m with eq | ⟨accepts, eq⟩ <;> rw [eq]
  · exact .refl s
  · exact .one (.urged (by simp [Lanes.postUrgent, accepts])) proper

theorem moved_arm (s : Session) (delay : Nat) {m : Message} (proper : m.isTimely = true) :
    Moved s (s.arm delay m).2 := by
  rcases arm_cases s delay m with eq | ⟨isOpen, eq⟩ <;> rw [eq]
  · exact .refl s
  · exact .one (.armed (Nat.le_add_right ..) (Lanes.arm_of_open isOpen _ m)) proper

theorem moved_withdraw (s : Session) (ticket : Option Nat) : Moved s (s.withdraw ticket) := by
  cases ticket with
  | none => exact .refl s
  | some ticket =>
    cases armed : s.lanes.isArmed ticket with
    | true => exact .one (.withdrawn armed) rfl
    | false =>
      have still : s.lanes.withdraw ticket = s.lanes := by
        have all : s.lanes.alarms.filter (·.ticket ≠ ticket) = s.lanes.alarms := by
          refine List.filter_eq_self.2 fun a mem => ?_
          simp only [Lanes.isArmed, List.any_eq_false] at armed
          simpa using armed a mem
        rw [Lanes.withdraw, all]
      refine .same rfl ?_
      exact still

theorem moved_beginShutdown (s : Session) (query : Option Nat) :
    Moved s (s.beginShutdown query).2 := by
  unfold beginShutdown
  split
  · exact .refl s
  next h =>
  have isOpen : s.lanes.closed = false := lanes_open_of_isLive (by simpa using h)
  dsimp only
  generalize hu : withdrawSweep _ = u
  have withdrawn : Moved s u := by
    subst hu
    have shut : Moved s { s with phase := .shuttingDown } := .same rfl rfl
    exact (shut.trans (moved_withdraw _ _)).trans (.same rfl rfl)
  refine withdrawn.trans ?_
  have isOpen : u.lanes.closed = false := by
    subst hu
    rw [withdrawSweep_eq]
    exact isOpen
  cases posted : u.lanes.postLast (.shutdown query) with
  | mk b lanes =>
    cases b with
    | true => exact .one (.last posted) rfl
    | false => exact .one (.closed isOpen posted) rfl

theorem moved_clear (s : Session) : Moved s s.clear := by
  have withdrawn : ∀ (timers : List Timer) (t : Session),
      Moved t (timers.foldl (fun s timer => s.withdraw timer.ticket) t) := by
    intro timers
    induction timers with
    | nil => exact .refl
    | cons timer rest ih => exact fun t => (moved_withdraw t _).trans (ih _)
  have shut : Moved s { s with phase := .shuttingDown, timers := s.timers.clear.2 } := .same rfl rfl
  exact (shut.trans (withdrawn s.timers.clear.1 _)).trans (.same rfl rfl)

theorem moved_desert (s : Session) : Moved s { s with lanes := s.lanes.desert } :=
  .one (.deserted s.lanes) rfl

theorem moved_abandon (s : Session) : Moved s s.abandon := by
  have deserted := s.moved_desert
  cases closed : s.lanes.closed with
  | true => exact deserted.trans (.same rfl (by simp [abandon, Lanes.close, Lanes.desert, closed]))
  | false =>
    -- A queue that has been deserted refuses the last message, but is closed.
    have refused : s.lanes.desert.postLast .ready = (false, s.lanes.desert.close) := by
      simp [Lanes.postLast, Lanes.post, Lanes.accepts, Lanes.desert, Lanes.close, closed]
    have shut := Moved.one (s := { s with lanes := s.lanes.desert }) (.closed closed refused) rfl
    exact (deserted.trans shut).trans (.same rfl rfl)

theorem moved_edits (s : Session) : KeptByEdits (Moved s) where
  counted _ h := h.trans (.same rfl rfl)
  held _ h := h.trans (.same rfl rfl)
  errands _ h := h.trans (.same rfl rfl)
  posted _ _ h := h.trans (moved_post _ rfl)
  dropped _ h := h.trans (.same rfl rfl)
  transported _ h := h.trans (.same rfl rfl)
  sent _ h := h.trans (.same rfl rfl)
  issued _ h := h.trans (.same rfl rfl)
  registered _ h := h.trans (.same rfl rfl)
  buried _ h := h.trans (.same rfl rfl)
  sweepArmed delay h := h.trans (moved_arm _ delay rfl)
  withdrawn ticket h := h.trans (moved_withdraw _ ticket)
  ticketed _ h := h.trans (.same rfl rfl)
  entered _ h := h.trans (.same rfl rfl)
  firingArmed delay _ h := h.trans (moved_arm _ delay rfl)
  timers _ h := h.trans (.same rfl rfl)
  listeners _ h := h.trans (.same rfl rfl)
  ticks _ h := h.trans (.same rfl rfl)
  helpers _ h := h.trans (.same rfl rfl)
  accepted _ h := h.trans (.same rfl rfl)
  urged h := h.trans (moved_postUrgent _ rfl)
  aside aside h := by
    obtain ⟨_, _, _, _, _, _, _, -, -, rfl⟩ := aside
    exact h.trans (.same rfl rfl)
  plain plain h := h.trans (moved_post _ (by simp [plain]))
  taskArmed delay _ h := h.trans (moved_arm _ delay rfl)
  shut query h := h.trans (moved_beginShutdown _ query)
  locked _ h := h.trans (.same rfl rfl)
  called _ _ h := h.trans (.same rfl rfl)

theorem moved_enterLoop (s : Session) : Moved s s.enterLoop :=
  ((moved_edits s).armSweep true (moved_postUrgent s rfl)).trans (.same rfl rfl)

/-- Code moves the queue in the ways that are open to those who use it. -/
theorem Deeds.moved {thread : Thread} (d : Deeds thread s t) : Moved s t :=
  (moved_edits s).deeds d (.refl s)

end Session

/-! ## Moments -/

/-- What the owning thread is in the middle of. -/
inductive Doing where
  /-- It stands between two messages, or outside its loop. -/
  | nothing
  | handling (m : Message)
  /-- It invokes the callback of a timer. -/
  | firing (timer : Timer)
  /-- It invokes a callback of a request. -/
  | delivering (call : Call) (completion : Completion)

namespace Doing

/-- The timer that is firing. -/
def fired : Doing → Option Timer
  | .firing timer => some timer
  | _ => none

/-- The pairs that are between two owners. -/
def hand : Doing → List Pair
  | .delivering call _ => call.pairs
  | _ => []

/-- Whether the last message is being handled. -/
def isLast : Doing → Bool
  | .handling m => m.isLast
  | _ => false

theorem firing_of_fired {doing : Doing} {timer : Timer} (fired : doing.fired = some timer) :
    doing = .firing timer := by
  cases doing with
  | firing other =>
    obtain rfl := Option.some.inj fired
    rfl
  | _ => cases fired

end Doing

/-- A session at a moment, between messages or in the middle of one. -/
structure Moment where
  session : Session
  doing : Doing

namespace Moment

open Session (Changed Deeds Moved)

/-- What is done at a moment, by code or by the owning thread. -/
inductive Act : Moment → Moment → Prop where
  | code {thread : Thread} {s t : Session} (d : Deeds thread s t) (doing : Doing) :
      Act ⟨s, doing⟩ ⟨t, doing⟩
  | locked (s : Session) (lock : Lock Thread) (doing : Doing) :
      Act ⟨s, doing⟩ ⟨{ s with lock := lock }, doing⟩
  | ticks (s : Session) (ticks : TickQueue Work) (doing : Doing) :
      Act ⟨s, doing⟩ ⟨{ s with ticks := ticks }, doing⟩
  | helpers (s : Session) (helpers : Nat) (doing : Doing) :
      Act ⟨s, doing⟩ ⟨{ s with helpers := helpers }, doing⟩
  | begun (s : Session) (job : Work) (thread : Thread) (doing : Doing) :
      Act ⟨s, doing⟩ ⟨(s.record (.executed job)).note (.job job.tag thread), doing⟩
  | announced {s : Session} (initializing : s.phase = .initializing) (readiness : Readiness Work)
      (doing : Doing) : Act ⟨s, doing⟩ ⟨{ s with phase := .ready, readiness := readiness }, doing⟩
  /-- The callback of a timer is about to be invoked. -/
  | fires {s : Session} {timer : Timer} (found : s.timers.find? timer.id = some timer) :
      Act ⟨s, .handling (.fire timer.id)⟩
        ⟨{ s with timers := s.timers.firing timer }, .firing timer⟩
  /-- The callback has returned, and the timer goes on. -/
  | rearmed {s : Session} {timer : Timer} (live : s.timers.isLive timer.id = true)
      (recurring : timer.recurring = true) (isOpen : s.lanes.closed = false) :
      Act ⟨s, .firing timer⟩
        ⟨({ s with timers := s.timers.rearmed timer.id s.lanes.nextTicket }.arm timer.delay
          (.fire timer.id)).2, .nothing⟩
  /-- The callback has returned, and the timer is done. -/
  | retired (s : Session) (timer : Timer) :
      Act ⟨s, .firing timer⟩
        ⟨{ s with timers := s.timers.retired timer.id }.bury timer.pair, .nothing⟩
  /-- The callback of a request has returned. -/
  | delivered (s : Session) (call : Call) (completion : Completion) :
      Act ⟨s, .delivering call completion⟩ ⟨s.buryAll call.pairs, .nothing⟩
  | swept (s : Session) (m : Message) : Act ⟨s, .handling m⟩ ⟨s.sweepGraveyard.2, .handling m⟩
  | sweepArmed (s : Session) (m : Message) : Act ⟨s, .handling m⟩ ⟨s.armSweep true, .handling m⟩
  /-- Nothing more is done about a message that is not the last one. -/
  | done (s : Session) {m : Message} (other : m.isLast = false) :
      Act ⟨s, .handling m⟩ ⟨s, .nothing⟩
  | cleared (s : Session) (query : Option Nat) :
      Act ⟨s, .handling (.shutdown query)⟩ ⟨s.clear, .handling (.shutdown query)⟩
  | lastSweep (s : Session) (query : Option Nat) :
      Act ⟨s, .handling (.shutdown query)⟩ ⟨s.record .lastSweep, .handling (.shutdown query)⟩
  | ended (s : Session) (query : Option Nat) (answers : List (Nat × Except Failure Json.Value)) :
      Act ⟨s, .handling (.shutdown query)⟩ ⟨{ s with
        answers := answers
        phase := .terminated
        loop := .ended
        lanes := s.lanes.desert }, .nothing⟩
  | dropped {s : Session} (gone : s.isGone = true) (doing : Doing) :
      Act ⟨s, doing⟩ ⟨s.forsake, doing⟩
  | entered {s : Session} (starting : s.loop = .starting) :
      Act ⟨s, .nothing⟩ ⟨s.enterLoop, .nothing⟩
  | abandoned {s : Session} (starting : s.loop = .starting) :
      Act ⟨s, .nothing⟩ ⟨s.abandon, .nothing⟩
  | crashed {s : Session} (starting : s.loop = .starting) : Act ⟨s, .nothing⟩ ⟨s.crash, .nothing⟩

variable {m m' m'' : Moment}

/-- Whatever is done, the loop takes nothing from the queue by it. -/
theorem Act.moved (a : Act m m') : Moved m.session m'.session := by
  cases a with
  | code d => exact d.moved
  | rearmed => refine .trans (.same ?_ ?_) (Session.moved_arm _ _ rfl) <;> rfl
  | swept s =>
    obtain ⟨_, _, h, -⟩ := s.sweepGraveyard_eq
    rw [h]
    exact .same rfl rfl
  | sweepArmed s => exact (Session.moved_edits s).armSweep true (.refl s)
  | cleared s => exact Session.moved_clear s
  | ended s => exact (Session.moved_desert s).trans (.same rfl rfl)
  | @entered s => exact Session.moved_enterLoop s
  | @abandoned s => exact Session.moved_abandon s
  | @crashed s => exact (Session.moved_desert s).trans (.same rfl rfl)
  | _ => exact .same rfl rfl

/-- What happens next at a moment, and what it is for the queue. -/
inductive Next : Moment → History Message → Moment → Prop where
  | act {m m' : Moment} {h : History Message} (a : Act m m')
      (c : Changed m.session h m'.session) : Next m h m'
  /-- The loop takes a message. -/
  | took {s : Session} {m : Message} {lanes : Lanes Message} (running : s.loop = .running)
      (next : s.lanes.next? = some (m, lanes)) (other : m.call? = none) :
      Next ⟨s, .nothing⟩ [s.lanes.taking s.clock m] ⟨{ s with lanes }, .handling m⟩
  /-- The loop takes the completion of a request. -/
  | received {s : Session} {call : Call} {completion : Completion} {lanes : Lanes Message}
      (running : s.loop = .running)
      (next : s.lanes.next? = some (.complete call completion, lanes)) :
      Next ⟨s, .nothing⟩ [s.lanes.taking s.clock (.complete call completion)]
        ⟨({ s with lanes } : Session).arrived call, .delivering call completion⟩
  | due (s : Session) :
      Next ⟨s, .nothing⟩ [.due (s.lanes.alarms.takeWhile (·.due ≤ s.clock))]
        ⟨s.deliverDue, .nothing⟩
  /-- Time passes; behind the end of the loop its reading is of no consequence. -/
  | passed {s : Session} {clock : Nat}
      (later : s.loop = .starting ∨ s.loop = .running → s.clock ≤ clock) :
      Next ⟨s, .nothing⟩ [] ⟨{ s with clock := clock }, .nothing⟩

/-- The course of a session from one moment to another, and what it is for the queue. -/
inductive Course : Moment → History Message → Moment → Prop where
  | none (m : Moment) : Course m [] m
  | more {m m' m'' : Moment} {h k : History Message} (c : Course m h m') (n : Next m' k m'') :
      Course m (h ++ k) m''

theorem Course.trans {h k : History Message} (c : Course m h m') (c' : Course m' k m'') :
    Course m (h ++ k) m'' := by
  induction c' with
  | none => simpa using c
  | more _ n ih =>
    rw [← List.append_assoc]
    exact ih.more n

/-- One moment comes after another, whatever has happened in between. -/
def Later (m m' : Moment) : Prop := ∃ h, Course m h m'

namespace Later

theorem refl (m : Moment) : Later m m := ⟨[], .none m⟩

theorem trans (l : Later m m') (l' : Later m' m'') : Later m m'' := by
  obtain ⟨h, c⟩ := l
  obtain ⟨k, c'⟩ := l'
  exact ⟨h ++ k, c.trans c'⟩

theorem next {k : History Message} (l : Later m m') (n : Next m' k m'') : Later m m'' := by
  obtain ⟨h, c⟩ := l
  exact ⟨h ++ k, c.more n⟩

theorem act (l : Later m m') (a : Act m' m'') : Later m m'' := by
  obtain ⟨h, c⟩ := a.moved
  exact l.next (.act a c)

end Later

end Moment

namespace Session

open Moment (Act Later)

variable {o s t : Session}

/-- Whatever the loop does with code comes later. -/
theorem later_kept (m : Moment) (doing : Doing) : KeptByDrains fun s => Later m ⟨s, doing⟩ where
  deeds d l := l.act (.code d doing)
  lock lock l := l.act (.locked _ lock doing)
  ready readiness initializing l := l.act (.announced initializing readiness doing)
  ticks ticks l := l.act (.ticks _ ticks doing)
  helpers helpers l := l.act (.helpers _ helpers doing)
  begun job thread l := l.act (.begun _ job thread doing)

/-- What the loop does with code, while nobody is invoked whose pair is not in custody. -/
theorem held_kept (m : Moment) (doing : Doing) (base : List Pair) :
    KeptByDrains fun s => Later m ⟨s, doing⟩ ∧ Owned doing.fired doing.hand base s where
  deeds d h := ⟨(later_kept m doing).deeds d h.1, owned_kept.deeds d h.2⟩
  lock lock h := ⟨(later_kept m doing).lock lock h.1, owned_kept.lock lock h.2⟩
  ready readiness initializing h :=
    ⟨(later_kept m doing).ready readiness initializing h.1,
      owned_kept.ready readiness initializing h.2⟩
  ticks ticks h := ⟨(later_kept m doing).ticks ticks h.1, owned_kept.ticks ticks h.2⟩
  helpers helpers h := ⟨(later_kept m doing).helpers helpers h.1, owned_kept.helpers helpers h.2⟩
  begun job thread h :=
    ⟨(later_kept m doing).begun job thread h.1, owned_kept.begun job thread h.2⟩

/-- A callback whose pair is in custody is invoked. -/
theorem Owned.invoked_later {m : Moment} {pair : Pair} (doing : Doing)
    (h : Owned doing.fired doing.hand [] s) (live : pair ∈ s.custody.live) (l : Later m ⟨s, doing⟩)
    (arguments : List Json.Value) :
    Later m ⟨s.engaged fun s => (s.invokeLive .loop pair arguments).2, doing⟩ := by
  have based : Owned doing.fired doing.hand [pair] s := h.rebase (by simpa using live)
  have k := held_kept m doing [pair]
  refine (k.toKept.engaged (fun _ h => ?_) ⟨l, based⟩).1
  exact k.toKept.invokeLive
    (fun h dead => ⟨absurd (h.2.based (List.mem_singleton_self pair))
        (by simpa [Custody.isLive] using dead),
      h.2.refuse (by simp) dead⟩) .loop arguments h

theorem swept_later {m : Moment} {msg : Message} (l : Later m ⟨s, .handling msg⟩) :
    Later m ⟨s.engaged fun s => s.sweepGraveyard.2, .handling msg⟩ :=
  (later_kept m _).toKept.engaged (fun _ l => l.act (.swept _ msg)) l

theorem fireTimer_later {m : Moment} {id : Nat} (h : Owned none [] [] s)
    (l : Later m ⟨s, .handling (.fire id)⟩) (d : s.fireTimer id = some t) :
    Later m ⟨t, .nothing⟩ := by
  rcases fireTimer_cases d with ⟨-, eq⟩ | ⟨timer, found, rfl, cases⟩
  · rw [eq]
    exact l.act (.done s rfl)
  obtain ⟨mem, -⟩ := Ledger.find?_mem found
  have begun : Owned (some timer) [] [] { s with timers := s.timers.firing timer } :=
    ⟨h.balanced.begin mem, by simp⟩
  have live : timer.pair ∈ s.custody.live := h.balanced.timer_live mem
  have called : Later m ⟨s.called timer, .firing timer⟩ :=
    Owned.invoked_later (.firing timer) begun live (l.act (.fires found)) []
  rcases cases with ⟨live, recurring, isOpen, eq⟩ | eq <;> rw [eq]
  · exact called.act (.rearmed live recurring isOpen)
  · exact called.act (.retired _ timer)

theorem terminate_later {m : Moment} {bound : Nat} {query : Option Nat}
    (l : Later m ⟨s, .handling (.shutdown query)⟩) (d : s.terminate bound query = some t) :
    Later m ⟨t, .nothing⟩ := by
  have cleared := l.act (.cleared s query)
  obtain ⟨u, drained, d⟩ := terminate_cases d
  have left : Later m ⟨u, .handling (.shutdown query)⟩ := by
    rcases drained with ⟨-, rfl⟩ | drained
    · exact cleared
    · exact (later_kept m _).drain cleared drained
  rw [eq_finish d]
  exact (swept_later (left.act (.lastSweep u query))).act (.ended _ query _)

/-- A message is handled moment by moment. -/
theorem handle_later {bound : Nat} {m : Message} {lanes : Lanes Message} (h : Owned none [] [] s)
    (running : s.loop = .running) (next : s.lanes.next? = some (m, lanes))
    (d : { s with lanes }.handle bound m = some t) : Later ⟨s, .nothing⟩ ⟨t, .nothing⟩ := by
  have owned := h.taken next
  have taken : m.call? = none → Later ⟨s, .nothing⟩ ⟨{ s with lanes }, .handling m⟩ :=
    fun other => (Later.refl _).next (.took running next other)
  by_cases routine : m.isRoutine = true
  · have taken := taken (by cases m <;> first | rfl | cases routine)
    have other : m.isLast = false := by cases m <;> first | rfl | cases routine
    have sub : s.listeners.all ⊆ s.custody.live := h.balanced.listeners_live
    have k := held_kept ⟨s, .nothing⟩ (.handling m) s.listeners.all
    have based : Owned none [] s.listeners.all { s with lanes } := owned.rebase sub
    have done := k.toKept.routine (s := { s with lanes }) (t := t) routine ?_ ?_ ⟨taken, based⟩ d
    · exact done.1.act (.done t other)
    · intro event value _ pair mem u h dead
      have live := h.2.based (s.listeners.of_subset_all event mem)
      simp [Custody.isLive, live] at dead
    · exact fun _ => k.drain ⟨taken, based⟩
  cases m with
  | sweep =>
    rw [eq_handleSweep d]
    exact ((swept_later (taken rfl)).act (.sweepArmed _ .sweep)).act (.done _ rfl)
  | fire id => exact fireTimer_later owned (taken rfl) d
  | complete call completion =>
    have received := h.received next
    have invoked := received.invoked_later (.delivering call completion)
      (received.balanced.hand_live (delivery_mem call completion))
      ((Later.refl _).next (.received running next)) (call.delivery (some completion)).2
    rw [eq_deliver d]
    exact invoked.act (.delivered _ call completion)
  | shutdown query => exact terminate_later (taken rfl) d
  | _ => exact absurd rfl routine

/-! ## The course of a session -/

/-- A session that has just been made. -/
def Spawned (s : Session) : Prop :=
  ∃ isDirectory env settings program modules,
    spawn isDirectory env settings program modules = .ok s

theorem Fresh.later (p : Fresh o) :
    ∃ origin, Spawned origin ∧ Later ⟨origin, .nothing⟩ ⟨o, .nothing⟩ := by
  induction p with
  | spawned h => exact ⟨_, ⟨_, _, _, _, _, h⟩, .refl _⟩
  | early _ step ih =>
    obtain ⟨origin, spawned, l⟩ := ih
    exact ⟨origin, spawned, l.act (.code (earlyStep_deeds step _) .nothing)⟩

theorem Fresh.bringUp_later (p : Fresh o) : Later ⟨o, .nothing⟩ ⟨o.bringUp, .nothing⟩ := by
  obtain ⟨u, d, h⟩ := bringUp_cases o
  have starting : u.unlock.loop = .starting := d.loop.trans p.stage.1
  have left : Later ⟨o, .nothing⟩ ⟨u.unlock, .nothing⟩ :=
    ((Later.refl _).act (.code d .nothing)).act (.locked u u.lock.release .nothing)
  rcases h with h | h | h <;> rw [h]
  · exact left.act (.abandoned starting)
  · exact left.act (.crashed starting)
  · exact left.act (.entered starting)

theorem bringUp_started (s : Session) : s.bringUp.loop ≠ .starting := by
  obtain ⟨u, -, h⟩ := bringUp_cases s
  rcases h with h | h | h <;> rw [h] <;> exact nofun

theorem handle_started {bound : Nat} {m : Message} (started : s.loop ≠ .starting)
    (d : s.handle bound m = some t) : t.loop ≠ .starting := by
  by_cases last : ∃ query, m = .shutdown query
  · obtain ⟨query, rfl⟩ := last
    rw [(terminate_stage d).2.1]
    exact nofun
  · rwa [handle_loop (fun query h => last ⟨query, h⟩) d]

theorem Reached.started {turn : Turn} (r : Reached o turn s) : s.loop ≠ .starting := by
  induction r with
  | broughtUp => exact bringUp_started o
  | handled _ _ _ _ h ih => exact handle_started (by exact ih) h
  | waited _ _ ih => exact ih
  | helped _ h ih => exact fun starting => ih ((runHelpers_loop h).symm.trans starting)
  | due _ ih => exact ih
  | passed _ _ ih => exact ih
  | acted _ _ a ih => exact fun starting => ih ((act_deeds a _).loop.symm.trans starting)
  | asked _ _ asks ih =>
    exact fun starting => ih ((blockingAsk_deeds asks _).loop.symm.trans starting)
  | dropped _ _ ih => exact ih

/-- The course of a session leads from one moment to the next. -/
theorem Reached.later {turn : Turn} (p : Fresh o) (r : Reached o turn s) :
    Later ⟨o.bringUp, .nothing⟩ ⟨s, .nothing⟩ := by
  induction r with
  | broughtUp => exact .refl _
  | handled r _ running next h ih => exact ih.trans (handle_later (r.owned p) running next h)
  | waited _ _ ih => exact ih
  | helped _ h ih => exact (later_kept _ .nothing).runHelpers ih h
  | due _ ih => exact ih.next (.due _)
  | passed r later ih => exact ih.next (.passed fun up => later (up.resolve_left r.started))
  | acted _ _ a ih => exact ih.act (.code (act_deeds a _) .nothing)
  | asked _ _ asks ih => exact ih.act (.code (blockingAsk_deeds asks _) .nothing)
  | dropped _ gone ih => exact ih.act (.dropped gone .nothing)

end Session

/-! ## The ledger at a moment -/

namespace Moment

open Session (Owned Spawned)

variable {m m' : Moment}

/-- Every pair in custody has one owner, or is between two. -/
def Balanced (m : Moment) : Prop := Owned m.doing.fired m.doing.hand [] m.session

theorem Act.balanced (a : Act m m') (h : m.Balanced) : m'.Balanced := by
  cases a with
  | code d => exact d.owned h
  | locked _ lock => exact Session.owned_kept.lock lock h
  | ticks _ ticks => exact Session.owned_kept.ticks ticks h
  | helpers _ helpers => exact Session.owned_kept.helpers helpers h
  | begun _ job thread => exact Session.owned_kept.begun job thread h
  | announced initializing readiness => exact Session.owned_kept.ready readiness initializing h
  | @fires s timer found =>
    exact ⟨Ledger.Balanced.begin h.balanced (Ledger.find?_mem found).1, by simp⟩
  | @rearmed s timer live =>
    have rearmed := h.balanced.rearm (Ledger.mem_ids_of_isLive live) s.lanes.nextTicket
    refine Owned.arm ?_ timer.delay (m := .fire timer.id) rfl
    exact ⟨rearmed, by simp⟩
  | @retired s timer =>
    refine Owned.bury ?_
    exact ⟨h.balanced.retire, by simp⟩
  | delivered s call completion =>
    have held : Owned none (call.pairs ++ []) [] s := (List.append_nil _).symm ▸ h
    exact held.buryAll
  | swept s msg => exact Owned.sweepGraveyard h
  | sweepArmed s msg => exact Session.owned_sweeps.armSweep true h
  | done => exact h
  | cleared s => exact Owned.clear h
  | lastSweep s => exact ⟨h.balanced, h.based⟩
  | ended s =>
    have deserted := Owned.desert h
    exact ⟨deserted.balanced, deserted.based⟩
  | dropped => exact Owned.forsake h
  | @entered s =>
    have armed := Session.owned_sweeps.armSweep true (Owned.postUrgent h (m := .ready) rfl)
    exact ⟨armed.balanced, armed.based⟩
  | @abandoned s =>
    have deserted : Owned none [] [] { s with lanes := s.lanes.close.desert } :=
      Owned.lanes h fun _ => Nat.zero_le _
    exact ⟨deserted.balanced, deserted.based⟩
  | @crashed s =>
    have deserted := Owned.desert h
    exact ⟨deserted.balanced, deserted.based⟩

theorem Next.balanced {k : History Message} (n : Next m k m') (h : m.Balanced) : m'.Balanced := by
  cases n with
  | act a => exact a.balanced h
  | took _ next => exact Owned.taken h next
  | received _ next => exact Owned.received h next
  | due s => exact Session.owned_steady.due h
  | passed => exact Session.owned_steady.passed _ h

theorem Later.balanced (l : Later m m') (h : m.Balanced) : m'.Balanced := by
  obtain ⟨k, c⟩ := l
  induction c with
  | none => exact h
  | more _ n ih => exact n.balanced ih

/-- A moment of a session that has been made. -/
def Occurs (m : Moment) : Prop := ∃ origin, Spawned origin ∧ Later ⟨origin, .nothing⟩ m

theorem Occurs.later (occurs : m.Occurs) (l : Later m m') : m'.Occurs := by
  obtain ⟨origin, spawned, before⟩ := occurs
  exact ⟨origin, spawned, before.trans l⟩

theorem Occurs.balanced (occurs : m.Occurs) : m.Balanced := by
  obtain ⟨origin, ⟨_, _, _, _, _, spawned⟩, l⟩ := occurs
  exact l.balanced (Session.Fresh.spawned spawned).owned

end Moment

theorem Session.Reached.occurs {o s : Session} {turn : Turn} (p : Fresh o) (r : Reached o turn s) :
    Moment.Occurs ⟨s, .nothing⟩ :=
  Moment.Occurs.later p.later (p.bringUp_later.trans (r.later p))

end ScriptHost
