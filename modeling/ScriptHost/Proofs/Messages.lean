import Mathlib.Data.List.Nodup
import ScriptHost.Proofs.Turns

/-!
# What the handling of a message does

The messages that do more than run code: sweeps, firings, completions and the last message. What
each of them does around the code that it runs is written out here once.

## Main statements

* `Session.sweepGraveyard_eq` — a sweep works on custody and the log.
* `Session.fireTimer_cases` — a firing ends with its timer retired or armed again.
* `Session.terminate_cases` — the stages of the last message.
* `Session.handle_scene`, `Session.handle_clock` — what the handling of a message leaves alone.
-/

namespace ScriptHost

/-- Pairs have been released. -/
def Stage.released (g : Stage) (pairs : List Pair) : Stage :=
  { g with log := (pairs.map Entry.dispose).reverse ++ g.log }

/-- What of a stage stays as it is until the last message. -/
def Stage.scene (g : Stage) : Stage :=
  { g.fixed with
    running := none
    told := false
    ticks := .empty
    executed := []
    atLastSweep := none }

/-- What comes of a release does not matter to those behind it. -/
theorem Custody.retireAll_cons_snd {σ : Type} (dispose : Disposer σ) (pair : Pair)
    (rest : List Pair) (s : Custody × σ) :
    (retireAll dispose (pair :: rest) s).2 =
      (retireAll dispose rest (retire dispose pair s).2).2 := by
  simp only [retireAll]
  split <;> rfl

namespace Timers

/-- The table while a timer fires. -/
def firing (t : Timers) (timer : Timer) : Timers :=
  { t with
    live := t.live.map fun other =>
      if other.id = timer.id then { timer with ticket := none } else other
    running := some timer.id }

/-- The table after a firing whose timer has been armed again. -/
def rearmed (t : Timers) (id ticket : Nat) : Timers :=
  { t with
    live := t.live.map fun other =>
      if other.id = id then { other with ticket := some ticket } else other
    running := none }

/-- The table after a firing that was the last one of its timer. -/
def retired (t : Timers) (id : Nat) : Timers := { t.remove id with running := none }

theorem firing_ids (t : Timers) (timer : Timer) :
    (t.firing timer).live.map Timer.id = t.live.map Timer.id := by
  simp only [firing, List.map_map]
  refine List.map_congr_left fun other _ => ?_
  by_cases same : other.id = timer.id <;> simp [same]

theorem rearmed_ids (t : Timers) (id ticket : Nat) :
    (t.rearmed id ticket).live.map Timer.id = t.live.map Timer.id := by
  simp only [rearmed, List.map_map]
  refine List.map_congr_left fun other _ => ?_
  by_cases same : other.id = id <;> simp [same]

theorem rearmed_pairs (t : Timers) (id ticket : Nat) :
    (t.rearmed id ticket).live.map Timer.pair = t.live.map Timer.pair := by
  simp only [rearmed, List.map_map]
  refine List.map_congr_left fun other _ => ?_
  by_cases same : other.id = id <;> simp [same]

theorem begin_of_find? {t : Timers} {id : Nat} {timer : Timer} (found : t.find? id = some timer) :
    timer.id = id ∧ t.begin id = (some { timer with ticket := none }, t.firing timer) := by
  have same : timer.id = id := by simpa using List.find?_some found
  exact ⟨same, by simp [begin, found, firing, same]⟩

theorem finish_cases {t : Timers} {timer : Timer} (running : t.running = some timer.id)
    (ticket : Option Nat) :
    (t.isLive timer.id = true ∧ timer.recurring = true ∧
        ∃ k, ticket = some k ∧ t.finish timer ticket = (.rearmed k, t.rearmed timer.id k)) ∨
      ¬ (t.isLive timer.id = true ∧ timer.recurring = true ∧ ticket ≠ none) ∧
        t.finish timer ticket = (.retire timer.pair, t.retired timer.id) := by
  have ended : ({ t with running := none } : Timers).isLive timer.id = t.isLive timer.id := rfl
  cases live : t.isLive timer.id with
  | false =>
    have gone : t.live.filter (·.id ≠ timer.id) = t.live := by
      refine List.filter_eq_self.2 fun other mem => ?_
      simp only [isLive, find?, Option.isSome_eq_false_iff, Option.isNone_iff_eq_none,
        List.find?_eq_none] at live
      simpa using live other mem
    refine .inr ⟨by simp, ?_⟩
    rw [retired, remove, gone]
    simp [finish, running, ended, live]
  | true =>
    -- Only a recurring timer for which there is a ticket goes on.
    cases recurring : timer.recurring with
    | false =>
      exact .inr ⟨by simp, by simp [finish, running, ended, live, recurring, retired, remove]⟩
    | true =>
      cases ticket with
      | none =>
        exact .inr ⟨by simp, by simp [finish, running, ended, live, recurring, retired, remove]⟩
      | some k =>
        exact .inl ⟨rfl, rfl, k, rfl, by simp [finish, running, ended, live, recurring, rearmed]⟩

end Timers

namespace Session

variable {s t : Session}

/-! ## Sweeps -/

theorem dispose_snd (pair : Pair) (s : Session) :
    (s.dispose pair).2 = s.note (.dispose pair) := by
  unfold dispose
  dsimp only
  split
  · rfl
  split <;> rfl

theorem retire_disposer (pair : Pair) (c : Custody) (s : Session) :
    (c.isLive pair = true ∧ ∃ failures, (Custody.retire disposer pair (c, s)).2 =
        ({ c with live := c.live.erase pair, failures := failures }, s.note (.dispose pair))) ∨
      c.isLive pair = false ∧ (Custody.retire disposer pair (c, s)).2 = (c, s) := by
  cases live : c.isLive pair with
  | false => exact .inr ⟨rfl, by simp [Custody.retire, live]⟩
  | true =>
    refine .inl ⟨rfl, ?_⟩
    rw [← dispose_snd]
    generalize hd : s.dispose pair = d
    obtain ⟨result, u⟩ := d
    simp only [Custody.retire, live, if_true, disposer, hd]
    cases result with
    | failed e => exact ⟨_, rfl⟩
    | ok _ => exact ⟨_, rfl⟩
    | panicked => exact ⟨_, rfl⟩

/-- Of some pairs those are released, in order, that are live when their turn comes. -/
theorem retireAll_disposer (pairs : List Pair) (c : Custody) (s : Session) :
    ∃ released failures, (Custody.retireAll disposer pairs (c, s)).2 =
        ({ c with live := c.live.diff released, failures := failures },
          { s with log := (released.map Entry.dispose).reverse ++ s.log }) ∧
      (pairs.Nodup → pairs ⊆ c.live → released = pairs) := by
  induction pairs generalizing c s with
  | nil => exact ⟨[], c.failures, rfl, fun _ _ => rfl⟩
  | cons pair rest ih =>
    rw [Custody.retireAll_cons_snd]
    rcases retire_disposer pair c s with ⟨live, failures, h⟩ | ⟨dead, h⟩
    · -- The pair is gone from custody when those behind it are looked at, so they must be others.
      rw [h]
      obtain ⟨released, failures, h, all⟩ :=
        ih { c with live := c.live.erase pair, failures := failures } (s.note (.dispose pair))
      refine ⟨pair :: released, failures, ?_, ?_⟩
      · rw [h]
        simp [note]
      · intro nodup sub
        obtain ⟨fresh, nodup⟩ := List.nodup_cons.1 nodup
        congr 1
        refine all nodup fun q mem => ?_
        have other : q ≠ pair := fun same => fresh (same ▸ mem)
        exact (List.mem_erase_of_ne other).2 (sub (List.mem_cons_of_mem _ mem))
    · rw [h]
      obtain ⟨released, failures, h, -⟩ := ih c s
      refine ⟨released, failures, h, fun _ sub => ?_⟩
      simp [Custody.isLive, sub (List.mem_cons_self ..)] at dead

/-- A sweep releases what is in line, as far as it is live, and changes nothing else. -/
theorem sweepGraveyard_eq (s : Session) :
    ∃ released failures, s.sweepGraveyard.2 = { s with
        custody := ⟨s.custody.live.diff released, [], failures⟩
        log := (released.map Entry.dispose).reverse ++ s.log
        journal := .swept s.custody.buried :: s.journal } ∧
      (s.custody.buried.Nodup → s.custody.buried ⊆ s.custody.live →
        released = s.custody.buried) := by
  obtain ⟨released, failures, h, all⟩ := retireAll_disposer s.custody.buried
    { s.custody with buried := [] } (s.record (.swept s.custody.buried))
  have swept : s.sweepGraveyard.2 =
      let r := (Custody.retireAll disposer s.custody.buried
        ({ s.custody with buried := [] }, s.record (.swept s.custody.buried))).2
      { r.2 with custody := r.1 } := rfl
  refine ⟨released, failures, ?_, all⟩
  rw [swept, h]
  rfl

/-- Where the loop goes on behind a sweep. -/
def afterSweep (s : Session) : Session := (s.engaged fun s => s.sweepGraveyard.2).armSweep true

theorem eq_handleSweep (d : s.handleSweep = some t) :
    t = (s.engaged fun s => s.sweepGraveyard.2).armSweep true := by
  obtain ⟨u, swept, d⟩ := Option.bind_eq_some_iff.1 d
  cases d
  rw [eq_engaged swept]

/-! ## Deliveries -/

/-- The completion of a request has come to the loop. -/
def arrived (s : Session) (call : Call) : Session :=
  { s with traffic.inFlight := s.traffic.inFlight - 1 }.record (.delivered call)

/-- A request is no longer in flight when its callback is invoked, and afterwards its pairs are in
line. -/
theorem deliver_eq (s : Session) (call : Call) (completion : Completion) :
    s.deliver call completion = if s.isKeptOut then none else
      some (((s.arrived call).engaged fun s => (s.invokeLive .loop
        (call.delivery (some completion)).1 (call.delivery (some completion)).2).2).buryAll
          [call.successPair, call.errorPair]) := by
  have invoked : s.deliver call completion =
      ((s.arrived call).withEngine fun s => (s.invokeLive .loop
        (call.delivery (some completion)).1 (call.delivery (some completion)).2).2).bind fun s =>
          some (s.buryAll [call.successPair, call.errorPair]) := rfl
  have same : (s.arrived call).isKeptOut = s.isKeptOut := rfl
  rw [invoked, withEngine_eq, same]
  cases s.isKeptOut <;> rfl

theorem eq_deliver {call : Call} {completion : Completion}
    (d : s.deliver call completion = some t) :
    t = ((s.arrived call).engaged fun s => (s.invokeLive .loop (call.delivery (some completion)).1
      (call.delivery (some completion)).2).2).buryAll [call.successPair, call.errorPair] := by
  rw [deliver_eq] at d
  split at d
  · cases d
  · exact (Option.some.inj d).symm

/-! ## Firings -/

theorem running_kept (id : Option Nat) : Kept fun s => s.timers.running = id where
  deeds d h := (congrArg Stage.running d.fixed_eq).trans h
  lock _ h := h
  ready _ _ h := h

/-- The firing of a timer has begun, and its callback has been invoked. -/
def called (s : Session) (timer : Timer) : Session :=
  { s with timers := s.timers.firing timer }.engaged fun s => (s.invokeLive .loop timer.pair []).2

/-- Whether a timer goes on behind its callback. -/
def goesOn (s : Session) (timer : Timer) : Prop :=
  s.timers.isLive timer.id = true ∧ timer.recurring = true ∧ s.lanes.closed = false

/-- A timer that has fired is armed again if it goes on; otherwise it leaves the table and its pair
is buried. -/
theorem fireTimer_ends {timer : Timer} (found : s.timers.find? timer.id = some timer)
    (d : s.fireTimer timer.id = some t) :
    let u := s.called timer
    u.goesOn timer ∧
        t = ({ u with timers := u.timers.rearmed timer.id u.lanes.nextTicket }.arm timer.delay
          (.fire timer.id)).2 ∨
      ¬ u.goesOn timer ∧ t = { u with timers := u.timers.retired timer.id }.bury timer.pair := by
  obtain ⟨-, begun⟩ := Timers.begin_of_find? found
  -- Whatever the callback does to the timers, the table still knows which one is firing.
  have running : (s.called timer).timers.running = some timer.id :=
    (running_kept _).engaged (fun _ => (running_kept _).invokeLive (fun h _ => h) .loop []) rfl
  simp only [fireTimer, begun, Option.bind_eq_bind, Option.bind_eq_some_iff] at d
  obtain ⟨v, called, d⟩ := d
  obtain rfl : v = s.called timer := eq_engaged called
  intro u
  rcases @Timers.finish_cases _ { timer with ticket := none } running
    (s.called timer).lanes.ticket? with ⟨live, recurring, k, ticket, h⟩ | ⟨other, h⟩
  · simp only [Lanes.ticket?] at ticket
    split at ticket
    · cases ticket
    next closed =>
      cases ticket
      rw [h] at d
      cases d
      exact .inl ⟨⟨live, recurring, by simpa using closed⟩, rfl⟩
  · refine .inr ⟨fun on => other ⟨on.1, on.2.1, ?_⟩, ?_⟩
    · simp [Lanes.ticket?, show (s.called timer).lanes.closed = false from on.2.2]
    · rw [h] at d
      cases d
      rfl

/-- A firing comes to its end unless the loop is kept out. -/
theorem fireTimer_isSome {timer : Timer} (found : s.timers.find? timer.id = some timer) :
    (s.fireTimer timer.id).isSome = !s.isKeptOut := by
  obtain ⟨-, begun⟩ := Timers.begin_of_find? found
  have engaged := withEngine_eq (fun s => (s.invokeLive .loop timer.pair []).2)
    { s with timers := s.timers.firing timer }
  have same : ({ s with timers := s.timers.firing timer } : Session).isKeptOut = s.isKeptOut := rfl
  simp only [fireTimer, begun, engaged, same]
  cases s.isKeptOut with
  | true => rfl
  | false =>
    simp only [Bool.false_eq_true, if_false, Option.bind_eq_bind, Option.bind_some]
    split <;> rfl

/-- A firing of a timer that is gone is nothing; otherwise the timer is armed again, or it leaves
the table and its pair is buried. -/
theorem fireTimer_cases {id : Nat} (d : s.fireTimer id = some t) :
    s.timers.find? id = none ∧ t = s ∨
      ∃ timer, s.timers.find? id = some timer ∧ timer.id = id ∧
        let u := s.called timer
        (u.timers.isLive id = true ∧ timer.recurring = true ∧ u.lanes.closed = false ∧
            t = ({ u with timers := u.timers.rearmed id u.lanes.nextTicket }.arm timer.delay
              (.fire id)).2 ∨
          t = { u with timers := u.timers.retired id }.bury timer.pair) := by
  cases found : s.timers.find? id with
  | none =>
    simp only [fireTimer, Timers.begin, found] at d
    exact .inl ⟨rfl, (Option.some.inj d).symm⟩
  | some timer =>
    obtain ⟨rfl, -⟩ := Timers.begin_of_find? found
    refine .inr ⟨timer, rfl, rfl, ?_⟩
    rcases fireTimer_ends found d with ⟨⟨live, recurring, isOpen⟩, h⟩ | ⟨-, h⟩
    · exact .inl ⟨live, recurring, isOpen, h⟩
    · exact .inr h

/-! ## The last message -/

theorem withdrawAll_eq (timers : List Timer) (s : Session) :
    ∃ alarms, alarms.Sublist s.lanes.alarms ∧
      timers.foldl (fun s timer => s.withdraw timer.ticket) s =
        { s with lanes.alarms := alarms } := by
  induction timers generalizing s with
  | nil => exact ⟨s.lanes.alarms, .refl _, rfl⟩
  | cons timer rest ih =>
    obtain ⟨alarms, sub, h⟩ := ih (s.withdraw timer.ticket)
    rw [withdraw_eq] at sub h
    exact ⟨alarms, sub.trans List.filter_sublist, by rw [List.foldl_cons, withdraw_eq, h]⟩

/-- The tables of timers and listeners are emptied into the line. -/
theorem clear_eq (s : Session) :
    ∃ alarms : List (Alarm Message), alarms.Sublist s.lanes.alarms ∧ s.clear = { s with
      phase := .shuttingDown
      timers := s.timers.clear.2
      listeners := .empty
      lanes.alarms := alarms }.buryAll (s.timers.clear.1.map Timer.pair ++ s.listeners.all) := by
  obtain ⟨alarms, sub, withdrawn⟩ := withdrawAll_eq s.timers.clear.1
    { s with phase := .shuttingDown, timers := s.timers.clear.2 }
  refine ⟨alarms, sub, ?_⟩
  unfold clear
  dsimp only
  rw [withdrawn]

/-- The loop ends behind the last sweep. -/
def ended (query : Option Nat) (s : Session) : Session :=
  let s := match query with
    | some query => s.answer query (.ok .null)
    | none => s
  { s with phase := .terminated, loop := .ended, lanes := s.lanes.desert }

theorem finish_eq (query : Option Nat) (s : Session) : s.finish query =
    ((s.record .lastSweep).withEngine fun s => s.sweepGraveyard.2).map (ended query) :=
  Option.map_eq_bind.symm

theorem eq_finish {query : Option Nat} (d : s.finish query = some t) :
    let swept := (s.record .lastSweep).engaged fun s => s.sweepGraveyard.2
    t = { swept with
      answers := (query.map fun query => (query, .ok .null)).toList ++ swept.answers
      phase := .terminated
      loop := .ended
      lanes := swept.lanes.desert } := by
  rw [finish_eq] at d
  obtain ⟨u, swept, rfl⟩ := Option.map_eq_some_iff.1 d
  obtain rfl := eq_engaged swept
  cases query <;> rfl

theorem terminate_eq (bound : Nat) (query : Option Nat) (s : Session) :
    s.terminate bound query = (if s.clear.ticks.jobs.isEmpty then some s.clear
      else s.clear.drain bound .loop).bind fun s => s.finish query := by
  unfold terminate
  dsimp only
  split <;> rfl

/-- The stages of the last message: registrations are buried, the jobs that are left run, and what
is in line is released. -/
theorem terminate_cases {bound : Nat} {query : Option Nat} (d : s.terminate bound query = some t) :
    ∃ u, (s.clear.ticks.jobs = [] ∧ u = s.clear ∨ s.clear.drain bound .loop = some u) ∧
      u.finish query = some t := by
  rw [terminate_eq] at d
  obtain ⟨u, left, d⟩ := Option.bind_eq_some_iff.1 d
  refine ⟨u, ?_, d⟩
  split at left
  · next none =>
    cases left
    exact .inl ⟨List.isEmpty_iff.1 none, rfl⟩
  · exact .inr left

/-! ## Properties of the stage -/

theorem stage_sweepGraveyard (s : Session) :
    ∃ released, s.sweepGraveyard.2.stage = s.stage.released released := by
  obtain ⟨released, failures, swept, -⟩ := s.sweepGraveyard_eq
  exact ⟨released, by rw [swept]; rfl⟩

theorem stage_swept (s : Session) :
    ∃ pairs lock, (s.engaged fun s => s.sweepGraveyard.2).stage =
      { s.stage.released pairs with lock := lock } := by
  unfold engaged
  split
  · obtain ⟨pairs, swept⟩ := stage_sweepGraveyard { s with lock := ⟨some .loop⟩ }
    exact ⟨pairs, .free, congrArg (fun g : Stage => { g with lock := .free }) swept⟩
  · exact ⟨[], s.lock, rfl⟩

theorem stage_clear (s : Session) :
    ∃ running, s.clear.stage = { s.stage with phase := .shuttingDown, running := running } := by
  obtain ⟨alarms, -, h⟩ := clear_eq s
  exact ⟨s.timers.clear.2.running, by rw [h]; rfl⟩

namespace Kept

variable {Q : Stage → Prop} (k : Kept fun s => Q s.stage)
include k

/-- A sweep adds to the log only. -/
theorem swept (released : ∀ {g} pairs, Q g → Q (g.released pairs)) (h : Q s.stage) :
    Q (s.engaged fun s => s.sweepGraveyard.2).stage := by
  refine k.engaged (fun u h => ?_) h
  obtain ⟨pairs, swept⟩ := u.stage_sweepGraveyard
  rw [swept]
  exact released pairs h

theorem called (running : ∀ {g} id, Q g → Q { g with running := id }) (timer : Timer)
    (h : Q s.stage) : Q (s.called timer).stage :=
  k.engaged (fun _ => k.invokeLive (fun h _ => h) .loop []) (running (some timer.id) h)

theorem fireTimer (running : ∀ {g} id, Q g → Q { g with running := id }) {id : Nat}
    (h : Q s.stage) (d : s.fireTimer id = some t) : Q t.stage := by
  rcases fireTimer_cases d with ⟨-, fired⟩ | ⟨timer, -, -, ⟨-, -, -, fired⟩ | fired⟩
  · rw [fired]
    exact h
  · rw [fired, stage_arm]
    exact running none (k.called running timer h)
  · rw [fired]
    exact running none (k.called running timer h)

/-- A property of the stage that is kept comes through every message if it comes through drains and
the last one. -/
theorem handle {bound : Nat} {m : Message} (released : ∀ {g} pairs, Q g → Q (g.released pairs))
    (running : ∀ {g} id, Q g → Q { g with running := id })
    (last : ∀ query, m = .shutdown query → s.terminate bound query = some t → Q t.stage)
    (drained : m = .drain → s.drain bound .loop = some t → Q t.stage)
    (h : Q s.stage) (d : s.handle bound m = some t) : Q t.stage := by
  by_cases routine : m.isRoutine = true
  · exact k.routine routine (fun _ _ _ _ _ _ h _ => h) drained h d
  cases m with
  | sweep =>
    rw [eq_handleSweep d, stage_armSweep]
    exact k.swept released h
  | fire id => exact k.fireTimer running h d
  | complete call completion =>
    rw [eq_deliver d]
    exact k.engaged (fun _ => k.invokeLive (fun h _ => h) .loop _) (s := s.arrived call) h
  | shutdown query => exact last query rfl d
  | _ => exact absurd rfl routine

end Kept

/-! ## What stays as it is -/

/-- What stays as it is until the last message. -/
def scene (s : Session) : Stage := s.stage.scene

theorem scene_kept (scene : Stage) : KeptByDrains fun s => s.scene = scene where
  deeds d h := by
    rw [← h, Session.scene, Session.scene, Stage.scene, Stage.scene, d.fixed_eq]
  lock _ h := h
  ticks _ h := h
  helpers _ h := h
  begun _ _ h := h
  ready _ _ h := h

/-- Whatever message is handled, unless it is the last one. -/
theorem handle_scene {bound : Nat} {m : Message} (other : ∀ query, m ≠ .shutdown query)
    (d : s.handle bound m = some t) : t.scene = s.scene :=
  Kept.handle (Q := fun g => g.scene = s.scene) (scene_kept s.scene).toKept (fun _ h => h)
    (fun _ h => h) (fun query same => absurd same (other query)) (fun _ => (scene_kept _).drain rfl)
    rfl d

theorem handle_loop {bound : Nat} {m : Message} (other : ∀ query, m ≠ .shutdown query)
    (d : s.handle bound m = some t) : t.loop = s.loop :=
  congrArg Stage.loop (handle_scene other d)

theorem runHelpers_scene {bound : Nat} (d : s.runHelpers bound = some t) : t.scene = s.scene :=
  (scene_kept s.scene).runHelpers rfl d

theorem runHelpers_loop {bound : Nat} (d : s.runHelpers bound = some t) : t.loop = s.loop :=
  congrArg Stage.loop (runHelpers_scene d)

theorem clear_scene (s : Session) : s.clear.scene = s.scene := by
  obtain ⟨alarms, -, h⟩ := clear_eq s
  rw [h]
  rfl

/-- The last message ends the loop and leaves the clock alone. -/
theorem terminate_stage {bound : Nat} {query : Option Nat} (d : s.terminate bound query = some t) :
    t.phase = .terminated ∧ t.loop = .ended ∧ t.clock = s.clock := by
  obtain ⟨u, drained, d⟩ := terminate_cases d
  have same : u.scene = s.scene := by
    rcases drained with ⟨-, rfl⟩ | drained
    · exact clear_scene s
    · exact ((scene_kept _).drain rfl drained).trans (clear_scene s)
  have swept := Kept.swept (Q := fun g => g.scene = s.scene) (scene_kept s.scene).toKept
    (fun _ h => h) (s := u.record .lastSweep) same
  obtain rfl := eq_finish d
  exact ⟨rfl, rfl, congrArg Stage.clock swept⟩

theorem handle_clock {bound : Nat} {m : Message} (d : s.handle bound m = some t) :
    t.clock = s.clock := by
  by_cases last : ∃ query, m = .shutdown query
  · obtain ⟨query, rfl⟩ := last
    exact (terminate_stage d).2.2
  · exact congrArg Stage.clock (handle_scene (fun query h => last ⟨query, h⟩) d)

end Session
end ScriptHost
