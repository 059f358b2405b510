import ScriptHost.Proofs.Moments

/-!
# The chronicle of a session

The course of a session, step by step, with marks for what matters to its life and to its sweeps:
that it has come into another phase, that something has given cause for a sweep, and that the loop
has handled one. Unlike the mere order of moments, a chronicle keeps to the clock: time passes only
while the loop has nothing to do, and not beyond the next armed message. A sweep is a single stride
of it, from the message to the arming of the next sweep.

## Main definitions

* `Mark` — what is marked.
* `Session.Marked` — what code on a thread can lead to, with its marks.
* `Moment.Stride`, `Moment.Chronicle` — one step of a session, and one after the other.
* `Moment.Leads` — a chronicle leads from one moment to another.

## Main statements

* `Session.Deeds.marked` — whatever code does has its marks.
* `Moment.Chronicle.later` — a chronicle leads from one moment to a later one.
-/

namespace ScriptHost

/-- What is marked in the course of a session. -/
inductive Mark where
  /-- The session has come into another phase. -/
  | entered (phase : Phase)
  /-- A sweep has been asked for, and has been posted. -/
  | asked
  /-- A timer has been cancelled. -/
  | cancelled
  /-- Listeners have been removed. -/
  | unlistened
  /-- The loop has handled a sweep. -/
  | swept
  /-- The loop has handled a sweep, which was skipped since somebody holds the execution lock. -/
  | skipped
deriving DecidableEq

namespace Mark

/-- The phase that a mark tells of. -/
def phase? : Mark → Option Phase
  | .entered phase => some phase
  | _ => none

/-- Whether a sweep has been handled. -/
def isHandled : Mark → Bool
  | .swept | .skipped => true
  | _ => false

/-- Whether something has given cause for a sweep. -/
def isCause : Mark → Bool
  | .asked | .cancelled | .unlistened => true
  | _ => false

end Mark

/-- The phases that a session has come into, in that order. -/
def phasesOf (marks : List Mark) : List Phase := marks.filterMap Mark.phase?

/-- The sweeps. -/
def Message.isSweep : Message → Bool
  | .sweep => true
  | _ => false

namespace Session

variable {s t u : Session}

/-! ## Code and its marks -/

/-- Where code that runs on a thread can lead, and what is marked of it. -/
inductive Marked (thread : Thread) : Session → List Mark → Session → Prop where
  | none (s : Session) : Marked thread s [] s
  | trans {s t u : Session} {marks marks' : List Mark} (d : Marked thread s marks t)
      (e : Marked thread t marks' u) : Marked thread s (marks ++ marks') u
  | aside {s t : Session} (h : Aside s t) : Marked thread s [] t
  | post (s : Session) {m : Message} (h : m.isPlain = true) :
      Marked thread s (if m.isSweep && (s.post m).1 then [.asked] else []) (s.post m).2
  | arm (s : Session) (delay : Nat) (work : Work) :
      Marked thread s [] (s.arm delay (.task work)).2
  | schedule (s : Session) (door : Door) (pair : Pair) (delay : Nat) (recurring : Bool) :
      Marked thread s [] (s.schedule door pair delay recurring).2
  | cancel (s : Session) (door : Door) (id : Nat) :
      Marked thread s (if (s.cancel door id).1 then [.cancelled] else []) (s.cancel door id).2
  | enqueue (s : Session) (door : Door) (noThreads : Bool) (job : Work) :
      Marked thread s [] (s.enqueue door thread noThreads job).2
  | issue (s : Session) (door : Door) (noThreads : Bool) (order : Order) :
      Marked thread s [] (s.issue door noThreads order).2
  | release (s : Session) (key : String) : Marked thread s [] (s.release key).2
  | listen (s : Session) (door : Door) (event : String) (pair : Pair) :
      Marked thread s [] (s.listen door event pair).2
  | unlisten (s : Session) (door : Door) (event : String) :
      Marked thread s (if (s.unlisten door event).1 = 0 then [] else [.unlistened])
        (s.unlisten door event).2
  | pause (s : Session) :
      Marked thread s (if s.pause.1 then [.entered .paused] else []) s.pause.2
  | unpause (s : Session) :
      Marked thread s (if s.unpause.1 then [.entered .ready] else []) s.unpause.2
  /-- A session that is asked to shut down closes, even if nobody takes its last message. -/
  | shutdown (s : Session) (query : Option Nat) :
      Marked thread s (if s.isLive then [.entered .shuttingDown] else [])
        (s.beginShutdown query).2
  | guarded {s t u : Session} {marks : List Mark} (take : takeLock thread s = .ok t)
      (body : Marked thread t marks u) : Marked thread s marks u.unlock
  | leak {s t : Session} (take : takeLock thread s = .ok t) : Marked thread s [] t
  | called (s : Session) (callback : UInt64) (before : Nat) :
      Marked thread s [] (s.record (.called callback before))

/-- Whatever code does has its marks. -/
theorem Deeds.marked {thread : Thread} (d : Deeds thread s t) :
    ∃ marks, Marked thread s marks t := by
  induction d with
  | none s => exact ⟨_, .none s⟩
  | trans _ _ ih ih' =>
    obtain ⟨_, d⟩ := ih
    obtain ⟨_, e⟩ := ih'
    exact ⟨_, d.trans e⟩
  | aside h => exact ⟨_, .aside h⟩
  | post s plain => exact ⟨_, .post s plain⟩
  | arm s delay work => exact ⟨_, .arm s delay work⟩
  | schedule s door pair delay recurring => exact ⟨_, .schedule s door pair delay recurring⟩
  | cancel s door id => exact ⟨_, .cancel s door id⟩
  | enqueue s door noThreads job => exact ⟨_, .enqueue s door noThreads job⟩
  | issue s door noThreads order => exact ⟨_, .issue s door noThreads order⟩
  | release s key => exact ⟨_, .release s key⟩
  | listen s door event pair => exact ⟨_, .listen s door event pair⟩
  | unlisten s door event => exact ⟨_, .unlisten s door event⟩
  | pause s => exact ⟨_, .pause s⟩
  | unpause s => exact ⟨_, .unpause s⟩
  | shutdown s query => exact ⟨_, .shutdown s query⟩
  | guarded take _ ih =>
    obtain ⟨_, body⟩ := ih
    exact ⟨_, .guarded take body⟩
  | leak take => exact ⟨_, .leak take⟩
  | called s callback before => exact ⟨_, .called s callback before⟩

/-- The marks take nothing away from what code can lead to. -/
theorem Marked.deeds {thread : Thread} {marks : List Mark} (d : Marked thread s marks t) :
    Deeds thread s t := by
  induction d with
  | none s => exact .none s
  | trans _ _ ih ih' => exact ih.trans ih'
  | aside h => exact .aside h
  | post s plain => exact .post s plain
  | arm s delay work => exact .arm s delay work
  | schedule s door pair delay recurring => exact .schedule s door pair delay recurring
  | cancel s door id => exact .cancel s door id
  | enqueue s door noThreads job => exact .enqueue s door noThreads job
  | issue s door noThreads order => exact .issue s door noThreads order
  | release s key => exact .release s key
  | listen s door event pair => exact .listen s door event pair
  | unlisten s door event => exact .unlisten s door event
  | pause s => exact .pause s
  | unpause s => exact .unpause s
  | shutdown s query => exact .shutdown s query
  | guarded take _ ih => exact .guarded take ih
  | leak take => exact .leak take
  | called s callback before => exact .called s callback before

end Session

/-! ## Strides -/

namespace Moment

open Session (Marked)

/-- One step of a session, and what is marked of it. -/
inductive Stride : Moment → List Mark → Moment → Prop where
  | code {thread : Thread} {s t : Session} {marks : List Mark} (d : Marked thread s marks t)
      (doing : Doing) : Stride ⟨s, doing⟩ marks ⟨t, doing⟩
  | locked (s : Session) (lock : Lock Thread) (doing : Doing) :
      Stride ⟨s, doing⟩ [] ⟨{ s with lock := lock }, doing⟩
  | ticks (s : Session) (ticks : TickQueue Work) (doing : Doing) :
      Stride ⟨s, doing⟩ [] ⟨{ s with ticks := ticks }, doing⟩
  | helpers (s : Session) (helpers : Nat) (doing : Doing) :
      Stride ⟨s, doing⟩ [] ⟨{ s with helpers := helpers }, doing⟩
  | begun (s : Session) (job : Work) (thread : Thread) (doing : Doing) :
      Stride ⟨s, doing⟩ [] ⟨(s.record (.executed job)).note (.job job.tag thread), doing⟩
  | announced {s : Session} (running : s.loop = .running)
      (initializing : s.phase = .initializing) (doing : Doing) :
      Stride ⟨s, doing⟩ [.entered .ready]
        ⟨{ s with phase := .ready, readiness := s.readiness.announce.2 }, doing⟩
  /-- The loop takes a message that is neither a completion nor a sweep nor the last one. -/
  | took {s : Session} {m : Message} {lanes : Lanes Message} (running : s.loop = .running)
      (next : s.lanes.next? = some (m, lanes)) (other : m.call? = none)
      (another : m.isSweep = false) (early : m.isLast = false) :
      Stride ⟨s, .nothing⟩ [] ⟨{ s with lanes }, .handling m⟩
  | received {s : Session} {call : Call} {completion : Completion} {lanes : Lanes Message}
      (running : s.loop = .running)
      (next : s.lanes.next? = some (.complete call completion, lanes)) :
      Stride ⟨s, .nothing⟩ []
        ⟨({ s with lanes } : Session).arrived call, .delivering call completion⟩
  | fires {s : Session} {timer : Timer} (found : s.timers.find? timer.id = some timer) :
      Stride ⟨s, .handling (.fire timer.id)⟩ []
        ⟨{ s with timers := s.timers.firing timer }, .firing timer⟩
  | rearmed {s : Session} {timer : Timer} (live : s.timers.isLive timer.id = true)
      (recurring : timer.recurring = true) (isOpen : s.lanes.closed = false) :
      Stride ⟨s, .firing timer⟩ []
        ⟨({ s with timers := s.timers.rearmed timer.id s.lanes.nextTicket }.arm timer.delay
          (.fire timer.id)).2, .nothing⟩
  | retired (s : Session) (timer : Timer) :
      Stride ⟨s, .firing timer⟩ []
        ⟨{ s with timers := s.timers.retired timer.id }.bury timer.pair, .nothing⟩
  | delivered (s : Session) (call : Call) (completion : Completion) :
      Stride ⟨s, .delivering call completion⟩ [] ⟨s.buryAll call.pairs, .nothing⟩
  | done (s : Session) {m : Message} (other : m.isLast = false) :
      Stride ⟨s, .handling m⟩ [] ⟨s, .nothing⟩
  /-- The loop handles a sweep; it skips it if it has kept the lock itself. -/
  | swept {s : Session} {lanes : Lanes Message} (running : s.loop = .running)
      (next : s.lanes.next? = some (.sweep, lanes)) (going : s.isKeptOut = false) :
      Stride ⟨s, .nothing⟩ [if s.lock = .free then .swept else .skipped]
        ⟨({ s with lanes } : Session).afterSweep, .nothing⟩
  /-- The loop takes the last message and empties the tables. -/
  | last {s : Session} {query : Option Nat} {lanes : Lanes Message} (running : s.loop = .running)
      (next : s.lanes.next? = some (.shutdown query, lanes)) (closing : s.phase = .shuttingDown) :
      Stride ⟨s, .nothing⟩ [] ⟨({ s with lanes } : Session).clear, .handling (.shutdown query)⟩
  | lastSweep (s : Session) (query : Option Nat) :
      Stride ⟨s, .handling (.shutdown query)⟩ []
        ⟨s.record .lastSweep, .handling (.shutdown query)⟩
  /-- The sweep of the last message. -/
  | released {s : Session} (query : Option Nat) (closing : s.phase = .shuttingDown) :
      Stride ⟨s, .handling (.shutdown query)⟩ []
        ⟨s.sweepGraveyard.2, .handling (.shutdown query)⟩
  | ended {s : Session} (query : Option Nat) (answers : List (Nat × Except Failure Json.Value))
      (closing : s.phase = .shuttingDown) :
      Stride ⟨s, .handling (.shutdown query)⟩ [.entered .terminated] ⟨{ s with
        answers := answers
        phase := .terminated
        loop := .ended
        lanes := s.lanes.desert }, .nothing⟩
  | dropped {s : Session} (gone : s.isGone = true) (doing : Doing) :
      Stride ⟨s, doing⟩ [] ⟨s.forsake, doing⟩
  | entered {s : Session} (starting : s.loop = .starting) :
      Stride ⟨s, .nothing⟩ [] ⟨s.enterLoop, .nothing⟩
  | abandoned {s : Session} (starting : s.loop = .starting) :
      Stride ⟨s, .nothing⟩ [.entered .terminated] ⟨s.abandon, .nothing⟩
  | crashed {s : Session} (starting : s.loop = .starting) :
      Stride ⟨s, .nothing⟩ [] ⟨s.crash, .nothing⟩
  | due (s : Session) : Stride ⟨s, .nothing⟩ [] ⟨s.deliverDue, .nothing⟩
  /-- Time passes while the loop has nothing to do, and not beyond the next armed message. -/
  | passed {s : Session} {clock : Nat} (running : s.loop = .running) (later : s.clock ≤ clock)
      (idle : s.lanes.next? = none) (early : ∀ due, s.lanes.nextDue? = some due → clock ≤ due) :
      Stride ⟨s, .nothing⟩ [] ⟨{ s with clock := clock }, .nothing⟩
  /-- Behind the end of the loop the reading of the clock is of no consequence. -/
  | idled {s : Session} {clock : Nat} (ended : s.loop = .ended) :
      Stride ⟨s, .nothing⟩ [] ⟨{ s with clock := clock }, .nothing⟩

/-- The course of a session from one moment to another, with its marks. -/
inductive Chronicle : Moment → List Mark → Moment → Prop where
  | none (m : Moment) : Chronicle m [] m
  | more {m m' m'' : Moment} {marks marks' : List Mark} (c : Chronicle m marks m')
      (n : Stride m' marks' m'') : Chronicle m (marks ++ marks') m''

variable {m m' m'' : Moment} {marks marks' : List Mark}

theorem Chronicle.trans (c : Chronicle m marks m') (c' : Chronicle m' marks' m'') :
    Chronicle m (marks ++ marks') m'' := by
  induction c' with
  | none => simpa using c
  | more _ n ih =>
    rw [← List.append_assoc]
    exact ih.more n

/-- What has no marks adds none. -/
theorem Chronicle.quietly (c : Chronicle m marks m') (n : Stride m' [] m'') :
    Chronicle m marks m'' :=
  List.append_nil marks ▸ c.more n

theorem sweep_later {s : Session} {lanes : Lanes Message} (running : s.loop = .running)
    (next : s.lanes.next? = some (.sweep, lanes)) :
    Later ⟨s, .nothing⟩ ⟨({ s with lanes } : Session).afterSweep, .nothing⟩ := by
  have taken : Later ⟨s, .nothing⟩ ⟨{ s with lanes }, .handling .sweep⟩ :=
    (Later.refl _).next (.took running next rfl)
  exact ((Session.swept_later taken).act (.sweepArmed _ .sweep)).act (.done _ rfl)

theorem Stride.later (n : Stride m marks m') : Later m m' := by
  cases n with
  | code d doing => exact (Later.refl _).act (.code d.deeds doing)
  | locked s lock doing => exact (Later.refl _).act (.locked s lock doing)
  | ticks s ticks doing => exact (Later.refl _).act (.ticks s ticks doing)
  | helpers s helpers doing => exact (Later.refl _).act (.helpers s helpers doing)
  | begun s job thread doing => exact (Later.refl _).act (.begun s job thread doing)
  | announced _ initializing doing =>
    exact (Later.refl _).act (.announced initializing _ doing)
  | took running next other => exact (Later.refl _).next (.took running next other)
  | received running next => exact (Later.refl _).next (.received running next)
  | fires found => exact (Later.refl _).act (.fires found)
  | rearmed live recurring isOpen => exact (Later.refl _).act (.rearmed live recurring isOpen)
  | retired s timer => exact (Later.refl _).act (.retired s timer)
  | delivered s call completion => exact (Later.refl _).act (.delivered s call completion)
  | done s other => exact (Later.refl _).act (.done s other)
  | swept running next => exact sweep_later running next
  | last running next =>
    exact ((Later.refl _).next (.took running next rfl)).act (.cleared _ _)
  | lastSweep s query => exact (Later.refl _).act (.lastSweep s query)
  | released query => exact (Later.refl _).act (.swept _ _)
  | ended query answers => exact (Later.refl _).act (.ended _ query answers)
  | dropped gone doing => exact (Later.refl _).act (.dropped gone doing)
  | entered starting => exact (Later.refl _).act (.entered starting)
  | abandoned starting => exact (Later.refl _).act (.abandoned starting)
  | crashed starting => exact (Later.refl _).act (.crashed starting)
  | due s => exact (Later.refl _).next (.due s)
  | passed _ later => exact (Later.refl _).next (.passed fun _ => later)
  | @idled s clock ended =>
    refine (Later.refl _).next (.passed fun up => ?_)
    rcases up with up | up <;> cases ended.symm.trans up

theorem Chronicle.later (c : Chronicle m marks m') : Later m m' := by
  induction c with
  | none => exact .refl _
  | more _ n ih => exact ih.trans n.later

/-- A chronicle leads from one moment to another, whatever its marks. -/
def Leads (m m' : Moment) : Prop := ∃ marks, Chronicle m marks m'

namespace Leads

theorem refl (m : Moment) : Leads m m := ⟨[], .none m⟩

theorem trans (l : Leads m m') (l' : Leads m' m'') : Leads m m'' := by
  obtain ⟨_, c⟩ := l
  obtain ⟨_, c'⟩ := l'
  exact ⟨_, c.trans c'⟩

theorem stride {marks : List Mark} (l : Leads m m') (n : Stride m' marks m'') : Leads m m'' := by
  obtain ⟨_, c⟩ := l
  exact ⟨_, c.more n⟩

theorem code {thread : Thread} {s t : Session} {doing : Doing} (l : Leads m ⟨s, doing⟩)
    (d : Session.Deeds thread s t) : Leads m ⟨t, doing⟩ := by
  obtain ⟨_, d⟩ := d.marked
  exact l.stride (.code d doing)

end Leads

end Moment
end ScriptHost
