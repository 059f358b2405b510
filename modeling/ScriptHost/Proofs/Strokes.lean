import ScriptHost.Proofs.Chronicle
import ScriptHost.Proofs.Unlocked

/-!
# The strokes of timers

The course of a session with everything that becomes of its timers on a tape: when one is accepted,
when it is cancelled, and when the loop comes to one of its firings. Between two strokes the table
of timers stays as it is.

## Main definitions

* `Booking` — a timer as it has been accepted; `Stroke` — what is put on the tape.
* `Moment.Beat`, `Moment.Tape` — one step of a session, and one after the other, with their strokes.
* `Moment.Tapes` — a tape leads from one moment to another.

## Main statements

* `Moment.Tapes.code` — whatever code does goes on the tape.
* `Moment.Tape.leads` — a tape tells no more than a chronicle.
* `Moment.Tape.missed` — a firing is missed only where code has kept the execution lock.
* `Session.handle_tapes` — what the loop does to handle a message goes on the tape.

## Design notes

A firing is one step, from the message to the entry that the engine leaves when it invokes the
callback. A firing for which the loop finds that it has kept the execution lock itself is on the
tape as well, as one that has not been invoked. A loop that has to wait for another thread that
keeps the lock does not come to a firing.
-/

namespace ScriptHost

/-- A timer as it has been accepted, and when. -/
structure Booking where
  id : Nat
  pair : Pair
  delay : Nat
  recurring : Bool
  since : Nat
deriving DecidableEq

/-- What becomes of a timer. -/
inductive Stroke where
  | accepted (b : Booking)
  | cancelled (id : Nat)
  /-- The loop has come to a firing of a live timer, at this time. The callback has been invoked,
  unless the loop keeps the execution lock. -/
  | fired (id : Nat) (pair : Pair) (clock : Nat) (invoked : Bool)
deriving DecidableEq

namespace Session

variable {s t u : Session}

/-- The engine has been called for a callback without arguments, with the lock held, and has left
its entry. -/
def struck (s : Session) (pair : Pair) : Session :=
  { s.note (.invoke pair [] .loop) with
    lock := ⟨some .loop⟩
    invocations := (pair.callback, s.invoked pair.callback + 1) ::
      s.invocations.filter (·.1 != pair.callback) }

/-- A timer whose pair is in custody fires: the engine is called and the callback plays its part, or
the lock is with somebody else and nothing happens. -/
theorem called_cases {timer : Timer} (live : timer.pair ∈ s.custody.live) :
    s.lock ≠ .free ∧ s.called timer = { s with timers := s.timers.firing timer } ∨
      s.lock = .free ∧ ∃ u, Deeds .loop
        ({ s with timers := s.timers.firing timer }.struck timer.pair) u ∧
          s.called timer = u.unlock := by
  by_cases free : s.lock = .free
  · have live : (({ s with
        timers := s.timers.firing timer
        lock := ⟨some .loop⟩ } : Session).custody.isLive timer.pair) = true := by
      simpa [Custody.isLive] using live
    refine .inr ⟨free, _, playScripted_deeds .loop (s.program.callbackActions timer.pair.callback
      (s.invoked timer.pair.callback)) _, ?_⟩
    rw [called, engaged_free (by exact free)]
    simp only [invokeLive, live, if_true]
    rfl
  · exact .inl ⟨free, engaged_held (by exact free) _⟩

/-! ## What leaves the table of timers as it is -/

/-- The table of timers is as it was. -/
def SameTimers (s t : Session) : Prop := t.timers = s.timers

theorem SameTimers.refl (s : Session) : SameTimers s s := rfl

theorem sameTimers_listening (s : Session) : KeptByListening (SameTimers s) where
  registered _ h := h
  buried _ h := h
  sweepArmed _ h := h
  withdrawn ticket h := by
    rw [withdraw_eq]
    exact h
  ticketed _ h := h
  entered _ h := h
  listeners _ h := h

theorem sameTimers_requests (s : Session) : KeptByRequests (SameTimers s) where
  toKeptByCustody := (sameTimers_listening s).toKeptByCustody
  counted _ h := h
  held _ h := h
  errands _ h := h
  posted _ _ h := h
  dropped _ h := h
  transported _ h := h
  sent _ h := h
  issued _ h := h

theorem sameTimers_enqueuing (s : Session) : KeptByEnqueuing (SameTimers s) where
  ticks _ h := h
  helpers _ h := h
  accepted _ h := h
  urged h := h

theorem sameTimers_sweepGraveyard (s : Session) : SameTimers s s.sweepGraveyard.2 := by
  obtain ⟨released, failures, h, -⟩ := s.sweepGraveyard_eq
  rw [h]
  rfl

theorem sameTimers_afterSweep (s : Session) : SameTimers s s.afterSweep := by
  have swept : SameTimers s (s.engaged fun s => s.sweepGraveyard.2) := by
    unfold engaged
    split
    · exact sameTimers_sweepGraveyard { s with lock := ⟨some .loop⟩ }
    · rfl
  exact (sameTimers_listening s).armSweep true swept

theorem sameTimers_enterLoop (s : Session) : SameTimers s s.enterLoop :=
  (sameTimers_listening s).armSweep (s := (s.postUrgent .ready).2) true rfl

theorem cancel_refused {door : Door} {id : Nat} (refused : (s.cancel door id).1 = false) :
    (s.cancel door id).2 = s := by
  unfold cancel at refused ⊢
  split
  · rfl
  next admitted =>
    rw [if_neg admitted] at refused
    split
    · rfl
    · next heq => simp [heq] at refused
    · next heq => simp [heq] at refused

end Session

/-! ## The tape -/

namespace Moment

open Session (Deeds)

/-- Nothing has happened to the timers, and the loop has not come to a firing. -/
structure Calm (m m' : Moment) : Prop where
  timers : m'.session.timers = m.session.timers
  fired : m'.doing.fired = m.doing.fired
  quiet : ∀ id, m'.doing ≠ .handling (.fire id)

theorem Calm.idle {m : Moment} {t : Session} (timers : t.timers = m.session.timers)
    (fired : m.doing.fired = none) : Calm m ⟨t, .nothing⟩ :=
  ⟨timers, fired.symm, nofun⟩

/-- One step of a session, with what it puts on the tape. -/
inductive Beat : Moment → List Stroke → Moment → Prop where
  | calm {m m' : Moment} {marks : List Mark} (n : Stride m marks m') (h : Calm m m') : Beat m [] m'
  | accepted {s t : Session} {door : Door} {pair : Pair} {delay id : Nat} {recurring : Bool}
      (h : s.schedule door pair delay recurring = (some id, t)) (doing : Doing) :
      Beat ⟨s, doing⟩ [.accepted ⟨id, pair, delay, recurring, s.clock⟩] ⟨t, doing⟩
  | cancelled {s t : Session} {door : Door} {id : Nat} (h : s.cancel door id = (true, t))
      (doing : Doing) : Beat ⟨s, doing⟩ [.cancelled id] ⟨t, doing⟩
  /-- The loop comes to a firing of a timer that is gone. -/
  | stale {s : Session} {id : Nat} {lanes : Lanes Message} (running : s.loop = .running)
      (next : s.lanes.next? = some (.fire id, lanes)) (gone : s.timers.find? id = none) :
      Beat ⟨s, .nothing⟩ [] ⟨{ s with lanes }, .nothing⟩
  /-- The loop comes to a firing while the lock is free, and invokes the callback. -/
  | fired {s : Session} {timer : Timer} {lanes : Lanes Message} (running : s.loop = .running)
      (next : s.lanes.next? = some (.fire timer.id, lanes))
      (found : s.timers.find? timer.id = some timer) (free : s.lock = .free) :
      Beat ⟨s, .nothing⟩ [.fired timer.id timer.pair s.clock true]
        ⟨({ s with lanes, timers := s.timers.firing timer } : Session).struck timer.pair,
          .firing timer⟩
  /-- The loop comes to a firing while it keeps the lock itself, since code on it has kept it. -/
  | missed {s : Session} {timer : Timer} {lanes : Lanes Message} (running : s.loop = .running)
      (next : s.lanes.next? = some (.fire timer.id, lanes))
      (found : s.timers.find? timer.id = some timer) (kept : s.KeptBy .loop) :
      Beat ⟨s, .nothing⟩ [.fired timer.id timer.pair s.clock false]
        ⟨{ s with lanes, timers := s.timers.firing timer }, .firing timer⟩
  | rearmed {s : Session} {timer : Timer} (h : s.goesOn timer) :
      Beat ⟨s, .firing timer⟩ []
        ⟨({ s with timers := s.timers.rearmed timer.id s.lanes.nextTicket }.arm timer.delay
          (.fire timer.id)).2, .nothing⟩
  | retired {s : Session} {timer : Timer} (h : ¬ s.goesOn timer) :
      Beat ⟨s, .firing timer⟩ []
        ⟨{ s with timers := s.timers.retired timer.id }.bury timer.pair, .nothing⟩
  /-- The loop takes the last message and empties the tables. -/
  | last {s : Session} {query : Option Nat} {lanes : Lanes Message} (running : s.loop = .running)
      (next : s.lanes.next? = some (.shutdown query, lanes)) (closing : s.phase = .shuttingDown) :
      Beat ⟨s, .nothing⟩ [] ⟨({ s with lanes } : Session).clear, .handling (.shutdown query)⟩

/-- The course of a session from one moment to another, with its tape. -/
inductive Tape : Moment → List Stroke → Moment → Prop where
  | none (m : Moment) : Tape m [] m
  | more {m m' m'' : Moment} {tape strokes : List Stroke} (c : Tape m tape m')
      (n : Beat m' strokes m'') : Tape m (tape ++ strokes) m''

/-- A tape leads from one moment to another, whatever is on it. -/
def Tapes (m m' : Moment) : Prop := ∃ tape, Tape m tape m'

variable {m m' m'' : Moment} {tape tape' strokes : List Stroke}

theorem Tape.trans (c : Tape m tape m') (c' : Tape m' tape' m'') : Tape m (tape ++ tape') m'' := by
  induction c' with
  | none => simpa using c
  | more _ n ih =>
    rw [← List.append_assoc]
    exact ih.more n

namespace Tapes

theorem refl (m : Moment) : Tapes m m := ⟨[], .none m⟩

theorem trans (l : Tapes m m') (l' : Tapes m' m'') : Tapes m m'' := by
  obtain ⟨_, c⟩ := l
  obtain ⟨_, c'⟩ := l'
  exact ⟨_, c.trans c'⟩

theorem beat (l : Tapes m m') (n : Beat m' strokes m'') : Tapes m m'' := by
  obtain ⟨_, c⟩ := l
  exact ⟨_, c.more n⟩

theorem calm {marks : List Mark} (l : Tapes m m') (n : Stride m' marks m'') (h : Calm m' m'') :
    Tapes m m'' := l.beat (.calm n h)

end Tapes

/-! ## Code and its strokes -/

variable {s t : Session} {doing : Doing}

theorem Tapes.still {thread : Thread} (l : Tapes m ⟨s, doing⟩)
    (quiet : ∀ id, doing ≠ .handling (.fire id)) (d : Deeds thread s t)
    (same : s.SameTimers t) : Tapes m ⟨t, doing⟩ := by
  obtain ⟨_, marked⟩ := d.marked
  exact l.calm (.code marked doing) ⟨same, rfl, quiet⟩

theorem Tapes.locked (l : Tapes m ⟨s, doing⟩) (quiet : ∀ id, doing ≠ .handling (.fire id))
    (lock : Lock Thread) : Tapes m ⟨{ s with lock := lock }, doing⟩ :=
  l.calm (.locked s lock doing) ⟨rfl, rfl, quiet⟩

/-- Whatever code does goes on the tape. -/
theorem Tapes.code {thread : Thread} (l : Tapes m ⟨s, doing⟩)
    (quiet : ∀ id, doing ≠ .handling (.fire id)) (d : Deeds thread s t) : Tapes m ⟨t, doing⟩ := by
  have still : ∀ {s t : Session}, Tapes m ⟨s, doing⟩ → Deeds thread s t → s.SameTimers t →
      Tapes m ⟨t, doing⟩ := fun l d same => l.still quiet d same
  induction d with
  | none s => exact l
  | trans _ _ ih ih' => exact ih' (ih l)
  | aside h =>
    obtain ⟨_, _, _, _, _, _, _, -, -, rfl⟩ := id h
    exact still l (.aside h) rfl
  | post s plain => exact still l (.post s plain) rfl
  | arm s delay work => exact still l (.arm s delay work) rfl
  | schedule s door pair delay recurring =>
    cases given : s.schedule door pair delay recurring with
    | mk result t =>
      rcases Session.schedule_ends s door pair delay recurring with h | ⟨_, -, -, h⟩
      · cases given.symm.trans h
        exact l
      · cases given.symm.trans h
        exact l.beat (.accepted given doing)
  | cancel s door id =>
    cases cancelled : s.cancel door id with
    | mk found t =>
      cases found with
      | true => exact l.beat (.cancelled cancelled doing)
      | false =>
        have same := Session.cancel_refused (congrArg Prod.fst cancelled)
        rw [cancelled] at same
        exact same ▸ l
  | enqueue s door noThreads job =>
    exact still l (.enqueue s door noThreads job)
      ((Session.sameTimers_enqueuing s).enqueue door _ noThreads job (.refl s))
  | issue s door noThreads order =>
    exact still l (.issue s door noThreads order)
      ((Session.sameTimers_requests s).issue door noThreads order (.refl s))
  | release s key =>
    exact still l (.release s key) ((Session.sameTimers_requests s).release key (.refl s))
  | listen s door event pair =>
    exact still l (.listen s door event pair)
      ((Session.sameTimers_listening s).listen door event pair (.refl s))
  | unlisten s door event =>
    exact still l (.unlisten s door event)
      ((Session.sameTimers_listening s).unlisten door event (.refl s))
  | pause s => exact still l (.pause s) ((Session.sameTimers_listening s).pause (.refl s))
  | unpause s => exact still l (.unpause s) ((Session.sameTimers_listening s).unpause (.refl s))
  | shutdown s query =>
    exact still l (.shutdown s query)
      ((Session.sameTimers_listening s).beginShutdown (fun h => h) (fun h => h) (.refl s))
  | guarded take _ ih =>
    obtain ⟨-, -, rfl⟩ := Session.takeLock_eq_ok.1 take
    exact (ih (l.locked quiet _)).locked quiet _
  | leak take =>
    obtain ⟨-, -, rfl⟩ := Session.takeLock_eq_ok.1 take
    exact l.locked quiet _
  | called s callback before => exact still l (.called s callback before) rfl

/-! ## A tape and its chronicle -/

theorem Beat.leads (n : Beat m strokes m') : Leads m m' := by
  cases n with
  | calm n => exact (Leads.refl _).stride n
  | @accepted s t door pair delay id recurring h =>
    have d : Deeds .loop s (s.schedule door pair delay recurring).2 := .schedule ..
    rw [h] at d
    exact (Leads.refl _).code d
  | @cancelled s t door id h =>
    have d : Deeds .loop s (s.cancel door id).2 := .cancel ..
    rw [h] at d
    exact (Leads.refl _).code d
  | stale running next =>
    exact ((Leads.refl _).stride (.took running next rfl rfl rfl)).stride (.done _ rfl)
  | @fired s timer lanes running next found =>
    have fires := ((Leads.refl _).stride (.took running next rfl rfl rfl)).stride
      (.fires (s := { s with lanes }) found)
    let begun : Session := { s with lanes, timers := s.timers.firing timer }
    have noted : Deeds .loop { begun with lock := ⟨some .loop⟩ } (begun.struck timer.pair) :=
      .aside ⟨_, _, _, _, _, _, [.invoke timer.pair [] .loop], by simp [Entry.isAside], rfl, rfl⟩
    exact (fires.stride (.locked begun ⟨some .loop⟩ _)).code noted
  | @missed s timer lanes running next found =>
    exact ((Leads.refl _).stride (.took running next rfl rfl rfl)).stride
      (.fires (s := { s with lanes }) found)
  | rearmed h => exact (Leads.refl _).stride (.rearmed h.1 h.2.1 h.2.2)
  | retired => exact (Leads.refl _).stride (.retired _ _)
  | last running next closing => exact (Leads.refl _).stride (.last running next closing)

/-- A tape tells no more than a chronicle. -/
theorem Tape.leads (c : Tape m tape m') : Leads m m' := by
  induction c with
  | none => exact .refl _
  | more _ n ih => exact ih.trans n.leads

theorem Tapes.leads (l : Tapes m m') : Leads m m' := by
  obtain ⟨_, c⟩ := l
  exact c.leads

/-! ## Firings that are missed -/

/-- Nothing is taken off the log. -/
theorem Stride.grows {marks : List Mark} (n : Stride m marks m') :
    Session.Grows m.session m'.session := by
  cases n with
  | code d => exact d.deeds.grows
  | begun => exact List.suffix_cons _ _
  | @rearmed s timer =>
    let rearmed : Session := { s with timers := s.timers.rearmed timer.id s.lanes.nextTicket }
    exact .same (congrArg Stage.log (rearmed.stage_arm timer.delay (.fire timer.id)))
  | @swept s lanes =>
    refine Session.Grows.trans ?_
      (.same (congrArg Stage.log (Session.stage_armSweep _ true)) : Session.Grows
        (({ s with lanes } : Session).engaged fun s => s.sweepGraveyard.2) _)
    have swept := Session.Kept.swept (Q := fun g => s.log <:+ g.log)
      (Session.grows_kept s.log).toKept Session.grows_released (s := { s with lanes })
      List.suffix_rfl
    exact swept
  | @last s query lanes =>
    obtain ⟨_, cleared⟩ := Session.stage_clear { s with lanes }
    exact .same (congrArg Stage.log cleared)
  | released =>
    obtain ⟨_, _, eq, -⟩ := Session.sweepGraveyard_eq _
    rw [eq]
    exact List.suffix_append _ _
  | @entered s =>
    exact .same (congrArg Stage.log (Session.stage_armSweep (s.postUrgent .ready).2 true))
  | _ => exact .same rfl

theorem Leads.grows (l : Leads m m') : Session.Grows m.session m'.session := by
  obtain ⟨_, c⟩ := l
  induction c with
  | none => exact .refl _
  | more _ n ih => exact ih.trans n.grows

/-- Where a firing has been missed, code on the loop has been told that it keeps the lock. -/
theorem Tape.missed (c : Tape m tape m') {id clock : Nat} {pair : Pair}
    (mem : .fired id pair clock false ∈ tape) : ∃ e ∈ m'.session.log, e.keepsLock = true := by
  induction c with
  | none => cases mem
  | more _ n ih =>
    suffices told : ∃ e ∈ _, Entry.keepsLock e = true by
      obtain ⟨e, logged, keeps⟩ := told
      exact ⟨e, n.leads.grows.subset logged, keeps⟩
    rcases List.mem_append.1 mem with mem | mem
    · exact ih mem
    · cases n with
      | missed running next found kept => exact kept.2
      | _ => simp at mem

end Moment

namespace Session

open Moment (Tapes)

variable {o s t : Session}

/-! ## Messages -/

/-- Code goes on the tape, as long as nobody is invoked whose pair is not in custody. -/
theorem tapes_kept (m : Moment) (doing : Doing) (base : List Pair)
    (quiet : ∀ id, doing ≠ .handling (.fire id)) :
    KeptByJobs fun s => Tapes m ⟨s, doing⟩ ∧ Owned doing.fired doing.hand base s where
  deeds d h := ⟨h.1.code quiet d, owned_kept.deeds d h.2⟩
  lock lock h := ⟨h.1.locked quiet lock, owned_kept.lock lock h.2⟩
  ticks ticks h :=
    ⟨h.1.calm (.ticks _ ticks doing) ⟨rfl, rfl, quiet⟩, owned_kept.ticks ticks h.2⟩
  helpers helpers h :=
    ⟨h.1.calm (.helpers _ helpers doing) ⟨rfl, rfl, quiet⟩, owned_kept.helpers helpers h.2⟩
  begun job thread h :=
    ⟨h.1.calm (.begun _ job thread doing) ⟨rfl, rfl, quiet⟩, owned_kept.begun job thread h.2⟩

/-- A callback whose pair is in custody is invoked. -/
theorem Owned.invoked_tapes {m : Moment} {pair : Pair} (doing : Doing)
    (quiet : ∀ id, doing ≠ .handling (.fire id)) (h : Owned doing.fired doing.hand [] s)
    (live : pair ∈ s.custody.live) (l : Tapes m ⟨s, doing⟩) (arguments : List Json.Value) :
    Tapes m ⟨s.engaged fun s => (s.invokeLive .loop pair arguments).2, doing⟩ := by
  have based : Owned doing.fired doing.hand [pair] s := h.rebase (by simpa using live)
  have k := tapes_kept m doing [pair] quiet
  refine (k.engaged (fun _ h => ?_) ⟨l, based⟩).1
  exact k.invokeLive
    (fun h dead => ⟨absurd (h.2.based (List.mem_singleton_self pair))
        (by simpa [Custody.isLive] using dead),
      h.2.refuse (by simp) dead⟩) .loop arguments h

theorem becomeReady_tapes {m : Moment} (h : Owned none [] [] s) (running : s.loop = .running)
    (l : Tapes m ⟨s, .handling .ready⟩) : Tapes m ⟨s.becomeReady, .nothing⟩ := by
  have calm : ∀ t : Session, Moment.Calm ⟨t, .handling .ready⟩ ⟨t, .nothing⟩ :=
    fun _ => ⟨rfl, rfl, nofun⟩
  unfold becomeReady
  split
  · exact l.calm (.done s rfl) (calm s)
  next initializing =>
    have announced := l.calm (.announced running (Decidable.not_not.1 initializing) _)
      ⟨rfl, rfl, nofun⟩
    have owned := owned_kept.ready s.readiness.announce.2 (Decidable.not_not.1 initializing) h
    have told := (tapes_kept m (.handling .ready) [] nofun).tell s.readiness.announce.1
      ⟨announced, owned⟩
    exact told.1.calm (.done _ rfl) (calm _)

/-- If the lock is neither free nor with another thread, code on the loop has kept it. -/
theorem KeepsLock.onLoop (keeps : s.KeepsLock) (held : s.lock ≠ .free)
    (going : s.isKeptOut = false) : s.KeptBy .loop := by
  have own : s.lock = ⟨some .loop⟩ := by
    rcases holder : s.lock with ⟨_ | thread⟩
    · exact absurd holder held
    · simpa [isKeptOut, holder] using going
  refine ⟨own, keeps.resolve_left fun host => ?_⟩
  cases own.symm.trans host

/-- The loop comes to a firing: the timer is gone, or it fires and then goes on or not. -/
theorem fireTimer_tapes {id : Nat} {lanes : Lanes Message} (h : Owned none [] [] s)
    (unlocked : s.lock = .free ∨ s.KeepsLock) (running : s.loop = .running)
    (next : s.lanes.next? = some (.fire id, lanes))
    (d : ({ s with lanes } : Session).fireTimer id = some t) :
    Tapes ⟨s, .nothing⟩ ⟨t, .nothing⟩ := by
  rcases fireTimer_cases d with ⟨gone, eq⟩ | ⟨timer, found, rfl, -⟩
  · rw [eq]
    exact (Tapes.refl _).beat (.stale running next gone)
  obtain ⟨mem, -⟩ := Ledger.find?_mem found
  have live : timer.pair ∈ s.custody.live := h.balanced.timer_live mem
  have going : s.isKeptOut = false := by
    have fired := fireTimer_isSome (s := { s with lanes }) found
    rw [d] at fired
    simpa [isKeptOut] using fired
  have called : Tapes ⟨s, .nothing⟩ ⟨({ s with lanes } : Session).called timer, .firing timer⟩ := by
    rcases @called_cases { s with lanes } timer live with ⟨held, eq⟩ | ⟨free, u, d, eq⟩ <;> rw [eq]
    · have kept := (unlocked.resolve_left held).onLoop held going
      exact (Tapes.refl _).beat (.missed running next found kept)
    · have fired := (Tapes.refl _).beat (.fired running next found free)
      exact (fired.code (by simp) d).locked (by simp) _
  rcases fireTimer_ends found d with ⟨on, eq⟩ | ⟨off, eq⟩ <;> rw [eq]
  · exact called.beat (.rearmed on)
  · exact called.beat (.retired off)

/-- A session that shuts down is not brought back by code. -/
theorem Deeds.closing {thread : Thread} (d : Deeds thread s t) (h : s.phase = .shuttingDown) :
    t.phase = .shuttingDown := by
  obtain ⟨back, on⟩ := d.stirred.phase
  refine (on (.inr h)).resolve_left fun initializing => ?_
  cases h.symm.trans (back initializing)

/-- What code does behind the last message. -/
theorem closing_kept (m : Moment) (query : Option Nat) :
    KeptByJobs fun s => Tapes m ⟨s, .handling (.shutdown query)⟩ ∧ s.phase = .shuttingDown where
  deeds d h := ⟨h.1.code nofun d, d.closing h.2⟩
  lock lock h := ⟨h.1.locked nofun lock, h.2⟩
  ticks ticks h := ⟨h.1.calm (.ticks _ ticks _) ⟨rfl, rfl, nofun⟩, h.2⟩
  helpers helpers h := ⟨h.1.calm (.helpers _ helpers _) ⟨rfl, rfl, nofun⟩, h.2⟩
  begun job thread h := ⟨h.1.calm (.begun _ job thread _) ⟨rfl, rfl, nofun⟩, h.2⟩

theorem terminate_tapes {m : Moment} {bound : Nat} {query : Option Nat}
    (l : Tapes m ⟨s.clear, .handling (.shutdown query)⟩)
    (closing : s.clear.phase = .shuttingDown) (d : s.terminate bound query = some t) :
    Tapes m ⟨t, .nothing⟩ := by
  have k := closing_kept m query
  obtain ⟨u, drained, d⟩ := terminate_cases d
  have left : Tapes m ⟨u, .handling (.shutdown query)⟩ ∧ u.phase = .shuttingDown := by
    rcases drained with ⟨-, rfl⟩ | drained
    · exact ⟨l, closing⟩
    · exact k.drain ⟨l, closing⟩ drained
  rw [eq_finish d]
  have swept := k.engaged (f := fun s => s.sweepGraveyard.2) (fun v h => ?_)
    (s := u.record .lastSweep) ⟨left.1.calm (.lastSweep u query) ⟨rfl, rfl, nofun⟩, left.2⟩
  · exact swept.1.calm (.ended query _ swept.2) (.idle rfl rfl)
  · refine ⟨h.1.calm (.released query h.2) ⟨sameTimers_sweepGraveyard v, rfl, nofun⟩, ?_⟩
    obtain ⟨released, failures, eq, -⟩ := sweepGraveyard_eq v
    rw [eq]
    exact h.2

/-- Everything that becomes of timers while a message is handled goes on the tape. -/
theorem handle_tapes {bound : Nat} {m : Message} {lanes : Lanes Message} (h : Owned none [] [] s)
    (unlocked : s.lock = .free ∨ s.KeepsLock) (running : s.loop = .running)
    (next : s.lanes.next? = some (m, lanes))
    (closing : m.isLast = true → s.phase = .shuttingDown)
    (d : { s with lanes }.handle bound m = some t) : Tapes ⟨s, .nothing⟩ ⟨t, .nothing⟩ := by
  have owned := h.taken next
  by_cases routine : m.isRoutine = true
  · have early : m.isLast = false := by cases m <;> first | rfl | cases routine
    have quiet : ∀ id, Doing.handling m ≠ .handling (.fire id) := by
      rintro id same
      cases same
      cases routine
    have taken : Tapes ⟨s, .nothing⟩ ⟨{ s with lanes }, .handling m⟩ :=
      (Tapes.refl _).calm (.took running next (by cases m <;> first | rfl | cases routine)
        (by cases m <;> first | rfl | cases routine) early) ⟨rfl, rfl, quiet⟩
    have sub : s.listeners.all ⊆ s.custody.live := h.balanced.listeners_live
    have k := tapes_kept ⟨s, .nothing⟩ (.handling m) s.listeners.all quiet
    have based : Owned none [] s.listeners.all { s with lanes } := owned.rebase sub
    by_cases ready : m = .ready
    · subst ready
      cases d
      exact becomeReady_tapes owned running taken
    have done := k.toKeptByCode.routine (s := { s with lanes }) (t := t) routine ?_
      (absurd · ready) ?_ ⟨taken, based⟩ d
    · exact done.1.calm (.done t early) (.idle rfl rfl)
    · intro event value _ pair mem u h dead
      have live := h.2.based (s.listeners.of_subset_all event mem)
      simp [Custody.isLive, live] at dead
    · exact fun _ => k.drain ⟨taken, based⟩
  cases m with
  | sweep =>
    obtain ⟨_, swept, -⟩ := Option.bind_eq_some_iff.1 d
    have going : ({ s with lanes } : Session).isKeptOut = false := going_of_withEngine swept
    rw [eq_handleSweep d]
    exact (Tapes.refl _).calm (.swept running next going)
      ⟨sameTimers_afterSweep { s with lanes }, rfl, by simp⟩
  | fire id => exact fireTimer_tapes h unlocked running next d
  | complete call completion =>
    rw [eq_deliver d]
    have received := h.received next
    have invoked := received.invoked_tapes (.delivering call completion) (by simp)
      (received.balanced.hand_live (delivery_mem call completion))
      ((Tapes.refl _).calm (.received running next) ⟨rfl, rfl, by simp⟩)
      (call.delivery (some completion)).2
    exact invoked.calm (.delivered _ call completion) (.idle rfl rfl)
  | shutdown query =>
    have cleared := (Tapes.refl _).beat (.last running next (closing rfl))
    refine terminate_tapes cleared ?_ d
    obtain ⟨alarms, -, eq⟩ := clear_eq { s with lanes }
    rw [eq]
    rfl
  | _ => exact absurd rfl routine

end Session
end ScriptHost
