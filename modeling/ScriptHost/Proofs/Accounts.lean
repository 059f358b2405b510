import ScriptHost.Proofs.Calls
import ScriptHost.Proofs.Chronicled
import ScriptHost.Proofs.Waiting

/-!
# How calls are accounted for

What the loop does about calls is a path of its desk: it takes their messages from the line, one
after the other, and answers each of them when it is done with it. The calls that have been answered
and those that have not are all the calls there are, in the order of their numbers, as long as
somebody takes messages; and nothing is behind the message that ends the loop.

## Main definitions

* `Desk.Arises` — a desk of a session that has been made.
* `Desk.Sound` — how the numbers of calls are accounted for.

## Main statements

* `Session.handle_path`, `Session.run_path`, `Session.Reached.path` — the course of a session is a
    path of its desk.
* `Desk.Step.sound`, `Desk.Arises.sound` — the account is kept at every step, so it holds always.
-/

namespace ScriptHost

namespace Session

open Desk (Path)

variable {o s t u : Session} {d : Desk} {k : List Taking} {hand : Option Taking} {n : Nat}

/-! ## The loop -/

theorem engaged_path {f : Session → Session}
    (inner : ∀ {s n}, Path d k ⟨s, hand, n⟩ → Path d k ⟨f s, hand, n⟩)
    (p : Path d k ⟨s, hand, n⟩) : Path d k ⟨s.engaged f, hand, n⟩ := by
  unfold engaged
  split
  · next free => exact locked_path free .loop inner p
  · exact p

theorem engagedResult_path {f : Session → Outcome EngineFailure Json.Value × Session}
    (what : String) (inner : ∀ {s n}, Path d k ⟨s, hand, n⟩ → Path d k ⟨(f s).2, hand, n⟩)
    (p : Path d k ⟨s, hand, n⟩) : Path d k ⟨(s.engagedResult what f).2, hand, n⟩ := by
  unfold engagedResult
  dsimp only
  split
  · next free => exact locked_path (f := fun s => (f s).2) free .loop inner p
  · exact p

/-- What a caller is told of what runs with the execution lock held. -/
theorem engagedResult_told (s : Session) (what : String)
    (f : Session → Outcome EngineFailure Json.Value × Session) :
    (s.engagedResult what f).1 =
      told what (if s.lock = .free then (f { s with lock := ⟨some .loop⟩ }).1 else .panicked) := by
  unfold engagedResult
  dsimp only
  split
  · cases (f { s with lock := ⟨some .loop⟩ }).1 <;> rfl
  · rfl

theorem swept_path (p : Path d k ⟨s, hand, n⟩) :
    Path d k ⟨s.engaged fun s => s.sweepGraveyard.2, hand, n⟩ :=
  engaged_path (fun p => (unasked_sweepGraveyard _).path p) p

theorem becomeReady_path (p : Path d k ⟨s, hand, n⟩) : Path d k ⟨s.becomeReady, hand, n⟩ := by
  have told : ∀ (observers : List Work) {s : Session}, Path d k ⟨s, hand, n⟩ →
      Path d k ⟨observers.foldl tell s, hand, n⟩ := by
    intro observers
    induction observers with
    | nil => exact id
    | cons work rest ih =>
      exact fun p => ih (runWork_path engineAccess_paths.outside .loop _ work p)
  unfold becomeReady
  split
  · exact p
  · exact told _ (same_path p rfl rfl rfl rfl rfl rfl)

theorem dispatchEvent_path {event : String} {value : Json.Value} (p : Path d k ⟨s, hand, n⟩)
    (h : s.dispatchEvent event value = some t) : Path d k ⟨t, hand, n⟩ := by
  have invoked : ∀ (pairs : List Pair) {s : Session} {n : Nat}, Path d k ⟨s, hand, n⟩ →
      Path d k ⟨pairs.foldl (fun s pair => (s.invokeLive .loop pair [value]).2) s, hand, n⟩ := by
    intro pairs
    induction pairs with
    | nil => exact fun p => p
    | cons pair rest ih => exact fun p => ih (invokeLive_path .loop pair [value] p)
  rcases dispatchEvent_cases h with ⟨-, rfl⟩ | ⟨-, rfl⟩
  · exact p
  · exact engaged_path (invoked _) p

theorem fireTimer_path {id : Nat} (p : Path d k ⟨s, hand, n⟩) (h : s.fireTimer id = some t) :
    Path d k ⟨t, hand, n⟩ := by
  rcases fireTimer_cases h with ⟨-, rfl⟩ | ⟨timer, -, -, cases⟩
  · exact p
  have called : Path d k ⟨s.called timer, hand, n⟩ :=
    engaged_path (invokeLive_path .loop _ _) (same_path p rfl rfl rfl rfl rfl rfl)
  rcases cases with ⟨-, -, -, rfl⟩ | rfl
  · exact (unasked_arm _ _ rfl).path (same_path called rfl rfl rfl rfl rfl rfl)
  · exact same_path called rfl rfl rfl rfl rfl rfl

theorem terminate_path {bound : Nat} {query : Option Nat} {taken : Session}
    (p : Path d k ⟨s, some (.shutdown query, taken), 0⟩) (h : s.terminate bound query = some t) :
    Path d k ⟨t, none, 0⟩ := by
  have cleared := (unasked_clear s).path p
  obtain ⟨u, drained, h⟩ := terminate_cases h
  have left : Path d k ⟨u, some (.shutdown query, taken), 0⟩ := by
    rcases drained with ⟨-, rfl⟩ | drained
    · exact cleared
    · exact drain_path cleared drained
  have swept := swept_path (same_path (t := u.record .lastSweep) left rfl rfl rfl rfl rfl rfl)
  have ended := swept.step (.ended _ query taken)
  rw [eq_finish h]
  cases query <;> exact ended

/-- The loop answers the call that it takes, and no other. -/
theorem handle_path {bound : Nat} {m : Message} {lanes : Lanes Message}
    (running : s.loop = .running)
    (next : s.lanes.next? = some (m, lanes)) (h : { s with lanes }.handle bound m = some t)
    (p : Path d k ⟨s, none, 0⟩) :
    Path d (k ++ if m.isCall then [(m, { s with lanes })] else []) ⟨t, none, 0⟩ := by
  cases asks : m.isCall with
  | false =>
    rw [if_neg Bool.false_ne_true, List.append_nil]
    have taken := (Unasked.taken next asks).path p
    cases m with
    | ready => cases h; exact becomeReady_path taken
    | sweep =>
      rw [eq_handleSweep h]
      exact ((unasked_tables _).armSweep true (.refl _)).path (swept_path taken)
    | fire id => exact fireTimer_path taken h
    | drain => exact drain_path taken h
    | complete call completion =>
      rw [eq_deliver h]
      have invoked := engaged_path
        (invokeLive_path .loop (call.delivery (some completion)).1
          (call.delivery (some completion)).2)
        (same_path (t := ({ s with lanes } : Session).arrived call) taken rfl rfl rfl rfl rfl rfl)
      exact same_path invoked rfl rfl rfl rfl rfl rfl
    | emit event value => exact dispatchEvent_path taken h
    | register name =>
      rw [eq_engaged (f := fun s => (s.loadModule name).2) h]
      exact engaged_path (fun p => same_path p rfl rfl rfl rfl rfl rfl) taken
    | task work =>
      rw [eq_engaged h]
      exact engaged_path (runWork_path engineAccess_paths .loop _ work) taken
    | _ => cases asks
  | true =>
    rw [if_pos rfl]
    have going : ({ s with lanes } : Session).isKeptOut = false := going_of_call asks h
    have took := p.took running next asks going
    cases m with
    | script source name query =>
      have answered := (engagedResult_path name (runScript_path .loop source name) took).step
        (.answered _ rfl rfl _)
      rwa [← show _ = outcome _ _ from engagedResult_told _ name _, ← handle_script h] at answered
    | require path query =>
      have answered := (engagedResult_path path (loadPath_path .loop path) took).step
        (.answered _ rfl rfl _)
      rwa [← show _ = outcome _ _ from engagedResult_told _ path _, ← handle_require h] at answered
    | shutdown query => exact terminate_path took h
    | _ => cases asks

/-! ## The course of a session -/

/-- Bring-up runs code with the lock held, and then the loop is entered, or there is none. -/
theorem bringUp_path (starting : s.loop = .starting) (p : Path d k ⟨s, none, 1⟩) :
    ∃ u, Path d k ⟨u, none, 0⟩ ∧ u.loop = .starting ∧
      (s.bringUp = u.enterLoop ∨ s.bringUp = u.abandon ∨ s.bringUp = u.crash) := by
  let entry : Entry := .bringUp s.locale s.settings.density s.settings.formFactor
  have noted : Path d k ⟨s.note entry, none, 1⟩ := same_path p rfl rfl rfl rfl rfl rfl
  have up : (s.note entry).loop = .starting := starting
  unfold bringUp
  dsimp only
  generalize s.note _ = t at noted up ⊢
  have played := playScripted_path .loop t.program.bringUp noted
  have up := (playScripted_deeds .loop t.program.bringUp t).loop.trans up
  split
  · next u heq =>
    rw [heq] at played up
    exact ⟨u.unlock, played.step (.unlocked u none 0), up, .inr (.inl rfl)⟩
  · next u heq =>
    rw [heq] at played up
    exact ⟨u.unlock, played.step (.unlocked u none 0), up, .inr (.inr rfl)⟩
  next u heq =>
  rw [heq] at played up
  have loaded := loadAll_path played
  have up := (loadAll_deeds u).loop.trans up
  split
  · next v heq =>
    rw [heq] at loaded up
    exact ⟨v.unlock, loaded.step (.unlocked v none 0), up, .inl rfl⟩
  · next v heq =>
    rw [heq] at loaded up
    exact ⟨v.unlock, loaded.step (.unlocked v none 0), up, .inr (.inr rfl)⟩

/-- The course of a session from bring-up on is a path of its desk. -/
theorem Reached.path {turn : Turn} (r : Reached o turn s) :
    ∃ k, Path ⟨o.bringUp, none, 0⟩ k ⟨s, none, 0⟩ := by
  induction r with
  | broughtUp => exact ⟨[], .none⟩
  | handled _ _ running next h ih =>
    obtain ⟨k, p⟩ := ih
    exact ⟨_, handle_path running next h p⟩
  | waited _ _ ih => exact ih
  | helped _ h ih => exact ih.imp fun _ p => runHelpers_path p h
  | due _ ih => exact ih.imp fun _ p => p.step (.due _)
  | passed _ _ ih =>
    obtain ⟨k, p⟩ := ih
    exact ⟨k, same_path p rfl rfl rfl rfl rfl rfl⟩
  | acted _ _ a ih => exact ih.imp fun _ p => act_path a p
  | asked _ _ asks ih => exact ih.imp fun _ p => blockingAsk_path asks p
  | dropped _ _ ih =>
    obtain ⟨k, p⟩ := ih
    exact ⟨k, same_path p rfl rfl rfl rfl rfl rfl⟩

/-- Every message at the present instant is handled. -/
theorem settle_path {bound : Nat} (p : Path d k ⟨s, none, 0⟩) (h : s.settle bound = some t) :
    ∃ l, Path d l ⟨t, none, 0⟩ ∧ (t.loop = .running → t.lanes.next? = none) := by
  induction bound generalizing s k with
  | zero => cases h
  | succ bound ih =>
    rw [settle_succ] at h
    split at h
    · next ended =>
      cases h
      exact ⟨k, p, fun running => absurd running ended⟩
    next running =>
    have running := Decidable.not_not.1 running
    split at h
    · next m lanes next =>
      obtain ⟨u, handled, h⟩ := Option.bind_eq_some_iff.1 h
      have first := handle_path running next handled p
      obtain ⟨v, ⟨-, rfl⟩ | ⟨-, helped⟩, settled⟩ := follow_cases h
      · exact ih first settled
      · exact ih (runHelpers_path first helped) settled
    · next next =>
      split at h
      · split at h
        · exact ih (p.step (.due s)) h
        · cases h
          exact ⟨k, p, fun _ => next⟩
      · cases h
        exact ⟨k, p, fun _ => next⟩

/-- The loop goes from one armed message to the next. -/
theorem runTo_path {bound target : Nat} (p : Path d k ⟨s, none, 0⟩)
    (h : s.runTo bound target = some t) :
    ∃ l, Path d l ⟨t, none, 0⟩ ∧ (t.loop = .running → t.lanes.next? = none) := by
  induction bound generalizing s k with
  | zero => cases h
  | succ bound ih =>
    simp only [runTo, Option.bind_eq_bind, Option.bind_eq_some_iff] at h
    obtain ⟨u, settled, h⟩ := h
    obtain ⟨l, first, idle⟩ := settle_path p settled
    have passed (clock : Nat) : Path d l ⟨{ u with clock }, none, 0⟩ :=
      same_path first rfl rfl rfl rfl rfl rfl
    split at h
    · cases h
      exact ⟨l, first, idle⟩
    split at h
    · split at h
      · exact ih ((passed _).step (.due _)) h
      · cases h
        exact ⟨l, passed target, idle⟩
    · cases h
      exact ⟨l, passed target, idle⟩

theorem run_path {bound ms : Nat} (p : Path d k ⟨s, none, 0⟩) (h : s.run bound ms = some t) :
    ∃ l, Path d l ⟨t, none, 0⟩ ∧ (t.loop = .running → t.lanes.next? = none) := by
  unfold run at h
  split at h
  · next ended =>
    cases h
    exact ⟨k, p, fun running => absurd running ended⟩
  · simp only [Option.bind_eq_bind, Option.bind_eq_some_iff] at h
    obtain ⟨u, ran, h⟩ := h
    obtain ⟨l, first, idle⟩ := runTo_path (p.step (.due s)) ran
    cases h
    split
    · exact ⟨l, first, idle⟩
    · next ended =>
      exact ⟨l, same_path first rfl rfl rfl rfl rfl rfl, fun running => absurd running ended⟩

end Session

namespace Desk

open Session (Spawned)

variable {a b d : Desk} {k : List Taking}

/-- A desk of a session that has been made: its owning thread holds the lock until it has been
brought up. -/
def Arises (d : Desk) : Prop := ∃ origin k, Spawned origin ∧ Path ⟨origin, none, 1⟩ k d

theorem Arises.path (h : a.Arises) (p : Path a k b) : b.Arises := by
  obtain ⟨origin, l, spawned, before⟩ := h
  exact ⟨origin, l ++ k, spawned, before.trans p⟩

end Desk

theorem Session.Fresh.desk {o : Session} (p : Fresh o) : Desk.Arises ⟨o, none, 1⟩ := by
  induction p with
  | spawned h => exact ⟨_, [], ⟨_, _, _, _, _, h⟩, .none⟩
  | early _ step ih => exact ih.path (Session.earlyStep_path step .none)

namespace Desk

open Session (Spawned)

variable {a b d d' : Desk} {k : List Taking} {hand : Option Taking} {n : Nat}

/-! ## The numbers of calls -/

/-- The calls that have not been answered, the one in hand first. -/
def pending (d : Desk) : List Message := (d.hand.map (·.1)).toList ++ d.session.waiting

/-- The calls that have been answered, the first ones first. -/
def settled (d : Desk) : List Nat := d.session.answers.reverse.map (·.1)

/-- How the numbers of calls are accounted for. While somebody takes messages, the calls that have
been answered and those that have not are all the calls, in the order of their numbers; the last
message is behind all of them. -/
structure Sound (d : Desk) : Prop where
  urgent : ∀ m ∈ d.session.lanes.urgent, m.isCall = false
  alarms : ∀ a ∈ d.session.lanes.alarms, a.message.isCall = false
  up : d.session.lanes.deserted = false ↔
    d.session.loop = .starting ∨ d.session.loop = .running
  begun : d.session.loop = .starting → d.session.answers = []
  idle : d.session.loop ≠ .running → d.hand = none
  numbered : d.session.lanes.deserted = false →
    d.settled ++ d.pending.filterMap Message.query? = List.range d.session.nextQuery
  distinct : d.settled.Nodup
  below : ∀ n ∈ d.settled, n < d.session.nextQuery
  isOpen : d.session.lanes.closed = false → ∀ m ∈ d.pending, m.isLast = false
  closed : d.session.lanes.closed = true → d.session.lanes.deserted = false →
    ∃ front last, d.pending = front ++ [last] ∧ last.isLast = true ∧ ∀ m ∈ front, m.isLast = false

/-- Nothing has been asked or answered, and the loop is as it was. -/
theorem Sound.still {s t : Session} (h : Sound ⟨s, hand, n⟩)
    (u : Session.Unasked s t) : Sound ⟨t, hand, n⟩ := by
  have pending : pending ⟨t, hand, n⟩ = pending ⟨s, hand, n⟩ := by
    simp only [Desk.pending, u.waiting]
  have settled : settled ⟨t, hand, n⟩ = settled ⟨s, hand, n⟩ := by
    simp only [Desk.settled, u.answers]
  refine ⟨fun m mem => ?_, fun a mem => ?_, ?_, ?_, ?_, ?_, ?_, ?_, ?_, ?_⟩
  · exact (u.urgent m mem).elim (h.urgent m) id
  · exact (u.alarms a mem).elim (h.alarms a) id
  · simpa only [u.deserted, u.loop] using h.up
  · simpa only [u.loop, u.answers] using h.begun
  · simpa only [u.loop] using h.idle
  · simpa only [u.deserted, u.nextQuery, pending, settled] using h.numbered
  · simpa only [settled] using h.distinct
  · simpa only [settled, u.nextQuery] using h.below
  · simpa only [u.closed, pending] using h.isOpen
  · simpa only [u.closed, u.deserted, pending] using h.closed

/-- A call joins the end of the line. -/
theorem Sound.join {s t : Session} {m : Message}
    (h : Sound ⟨s, hand, n⟩) (isOpen : s.lanes.closed = false) (taken : s.lanes.deserted = false)
    (call : m.isCall = true) (ordinary : t.lanes.ordinary = s.lanes.ordinary ++ [m])
    (number : List.range t.nextQuery = List.range s.nextQuery ++ m.query?.toList)
    (closed : t.lanes.closed = m.isLast) (urgent : t.lanes.urgent = s.lanes.urgent)
    (alarms : t.lanes.alarms ⊆ s.lanes.alarms) (deserted : t.lanes.deserted = s.lanes.deserted)
    (loop : t.loop = s.loop) (answers : t.answers = s.answers) : Sound ⟨t, hand, n⟩ := by
  have pending : pending ⟨t, hand, n⟩ = pending ⟨s, hand, n⟩ ++ [m] := by
    simp [Desk.pending, Session.waiting, ordinary, call]
  have settled : settled ⟨t, hand, n⟩ = settled ⟨s, hand, n⟩ := by simp only [Desk.settled, answers]
  have early := h.isOpen isOpen
  refine ⟨fun m mem => h.urgent m (urgent ▸ mem), fun a mem => h.alarms a (alarms mem), ?_, ?_, ?_,
    fun _ => ?_, ?_, fun n mem => ?_, fun stillOpen m' mem => ?_, fun shut _ => ?_⟩
  · simpa only [deserted, loop] using h.up
  · simpa only [loop, answers] using h.begun
  · simpa only [loop] using h.idle
  · have numbered := h.numbered taken
    rw [pending, settled, number, List.filterMap_append, ← List.append_assoc, numbered]
    cases query : m.query? <;> simp [query]
  · simpa only [settled] using h.distinct
  · have less : n < s.nextQuery := h.below n (settled ▸ mem)
    have longer := congrArg List.length number
    simp only [List.length_append, List.length_range] at longer
    show n < t.nextQuery
    omega
  · rw [pending] at mem
    rcases List.mem_append.1 mem with mem | mem
    · exact early m' mem
    · rw [List.mem_singleton.1 mem, ← closed, stillOpen]
  · exact ⟨_, m, pending, closed ▸ shut, early⟩

/-- A call is asked for; it is refused if nothing is accepted or nobody takes it. -/
theorem Sound.asked {s : Session} {message : Nat → Message}
    (h : Sound ⟨s, hand, n⟩) (own : ∀ n, (message n).query? = some n)
    (early : ∀ n, (message n).isLast = false) : Sound ⟨(s.ask message).2, hand, n⟩ := by
  cases live : s.isLive with
  | false => rwa [Session.ask_refused live]
  | true =>
    cases deserted : s.lanes.deserted with
    | true => rwa [Session.ask_of_deserted live deserted]
    | false =>
      have isOpen := Session.lanes_open_of_isLive live
      rw [Session.ask_of_taken live deserted]
      refine h.join isOpen deserted (Message.isCall_of_query? (own _)) rfl ?_ ?_ rfl
        (List.Subset.refl _) rfl rfl rfl
      · rw [own]
        exact List.range_succ
      · rw [early]
        exact isOpen

/-- The shutdown is asked for. -/
theorem Sound.last {s : Session} (h : Sound ⟨s, hand, n⟩) (live : s.isLive = true)
    (taken : s.lanes.deserted = false) (query : Option Nat) (next : Nat)
    (number : List.range next = List.range s.nextQuery ++ query.toList) :
    Sound ⟨{ (s.beginShutdown query).2 with nextQuery := next }, hand, n⟩ := by
  rw [Session.beginShutdown_of_taken live taken, Session.withdrawSweep_eq]
  exact h.join (Session.lanes_open_of_isLive live) taken (m := .shutdown query) rfl rfl number rfl
    rfl (List.filter_subset_self _) rfl rfl rfl

/-- The shutdown is asked for where nobody takes it: the queue is closed. -/
theorem Sound.lost {s : Session} (h : Sound ⟨s, hand, n⟩)
    (live : s.isLive = true) (deserted : s.lanes.deserted = true) (query : Option Nat) :
    Sound ⟨(s.beginShutdown query).2, hand, n⟩ := by
  have withdrawn := (Session.unasked_tables s).withdrawSweep
    (.same rfl rfl rfl rfl rfl rfl : Session.Unasked s { s with phase := .shuttingDown })
  rw [Session.beginShutdown_of_deserted live deserted]
  exact { h.still withdrawn with
    isOpen := nofun
    closed := fun _ taken => nomatch (withdrawn.deserted.trans deserted).symm.trans taken }

theorem beginShutdown_refused {s : Session} (dead : s.isLive = false) (query : Option Nat) :
    s.beginShutdown query = (false, s) := by
  simp [Session.beginShutdown, dead]

/-- The loop has taken the call that is next. -/
theorem Sound.took {s : Session} {m : Message} {lanes : Lanes Message} (h : Sound ⟨s, none, 0⟩)
    (running : s.loop = .running) (next : s.lanes.next? = some (m, lanes))
    (call : m.isCall = true) : Sound ⟨{ s with lanes }, some (m, { s with lanes }), 0⟩ := by
  -- Calls do not come to the urgent lane.
  have patient : m ∉ s.lanes.urgent := fun mem => by cases call.symm.trans (h.urgent m mem)
  obtain ⟨-, ordinary, heq, rfl⟩ := Lanes.next?_turn next patient
  have pending : pending ⟨{ s with lanes.ordinary := ordinary },
      some (m, { s with lanes.ordinary := ordinary }), 0⟩ = pending ⟨s, none, 0⟩ := by
    simp [Desk.pending, Session.waiting, heq, call]
  exact { h with
    idle := fun down => absurd running down
    numbered := by rw [pending]; exact h.numbered
    isOpen := by rw [pending]; exact h.isOpen
    closed := by rw [pending]; exact h.closed }

/-- While a call is in hand the loop runs, and the call is the first one that has not been answered.
-/
theorem Sound.busy {s taken : Session} {m : Message} (h : Sound ⟨s, some (m, taken), 0⟩) :
    s.loop = .running ∧ s.lanes.deserted = false ∧
      settled ⟨s, none, 0⟩ ++ (m.query?.toList ++ s.waiting.filterMap Message.query?) =
        List.range s.nextQuery := by
  have running : s.loop = .running := by
    by_contra down
    cases h.idle down
  have deserted := h.up.2 (.inr running)
  refine ⟨running, deserted, ?_⟩
  have numbered := h.numbered deserted
  rw [← numbered]
  cases query : m.query? <;> simp [Desk.pending, query, settled]

/-- The call in hand has been answered. -/
theorem Sound.answered {s taken : Session} {m : Message} {query : Nat}
    (h : Sound ⟨s, some (m, taken), 0⟩) (own : m.query? = some query) (early : m.isLast = false)
    (result : Except Failure Json.Value) : Sound ⟨s.answer query result, none, 0⟩ := by
  obtain ⟨running, taken, numbered⟩ := h.busy
  have settled : settled ⟨s.answer query result, none, 0⟩ = settled ⟨s, none, 0⟩ ++ [query] := by
    simp [Desk.settled, Session.answer]
  have whole : Desk.settled ⟨s.answer query result, none, 0⟩ ++ s.waiting.filterMap Message.query? =
      List.range s.nextQuery := by
    rw [settled, ← numbered, own]
    simp
  have distinct := whole ▸ List.nodup_range (n := s.nextQuery)
  refine { h with
    begun := fun starting => nomatch running.symm.trans starting
    idle := fun _ => rfl
    numbered := fun _ => whole
    distinct := (List.nodup_append.1 distinct).1
    below := fun n mem => List.mem_range.1 (whole ▸ List.mem_append_left _ mem)
    isOpen := fun isOpen m' mem => h.isOpen isOpen m' (List.mem_cons_of_mem _ mem)
    closed := fun closed taken => ?_ }
  obtain ⟨front, last, line, isLast, ahead⟩ := h.closed closed taken
  cases front with
  | nil =>
    obtain ⟨rfl, -⟩ := List.cons.inj (show m :: s.waiting = last :: [] from line)
    cases early.symm.trans isLast
  | cons first front =>
    obtain ⟨-, line⟩ := List.cons.inj (show m :: s.waiting = first :: (front ++ [last]) from line)
    exact ⟨front, last, line, isLast, fun m' mem => ahead m' (List.mem_cons_of_mem _ mem)⟩

/-- When the last call is in hand, no other one is left. -/
theorem Sound.alone {s taken : Session} {query : Option Nat}
    (h : Sound ⟨s, some (.shutdown query, taken), 0⟩) :
    s.waiting = [] ∧ settled ⟨s, none, 0⟩ ++ query.toList = List.range s.nextQuery := by
  obtain ⟨-, deserted, numbered⟩ := h.busy
  have closed : s.lanes.closed = true := by
    by_contra isOpen
    cases h.isOpen (by simpa using isOpen) (.shutdown query) (List.mem_cons_self ..)
  obtain ⟨front, last, line, -, ahead⟩ := h.closed closed deserted
  have none : s.waiting = [] := by
    cases front with
    | nil => exact (List.cons.inj (show _ :: s.waiting = last :: [] from line)).2
    | cons first front =>
      obtain ⟨rfl, -⟩ := List.cons.inj (show _ :: s.waiting = first :: (front ++ [last]) from line)
      cases ahead _ (List.mem_cons_self ..)
  rw [none] at numbered
  exact ⟨none, by simpa [Message.query?] using numbered⟩

/-- When the loop has ended all calls have been answered. -/
theorem Sound.ended {s taken : Session} {query : Option Nat}
    (h : Sound ⟨s, some (.shutdown query, taken), 0⟩) :
    let t := { s with
      answers := (query.map fun query => (query, .ok .null)).toList ++ s.answers
      phase := .terminated
      loop := .ended
      lanes := s.lanes.desert }
    Sound ⟨t, none, 0⟩ ∧ settled ⟨t, none, 0⟩ = List.range t.nextQuery := by
  obtain ⟨-, numbered⟩ := h.alone
  intro t
  have settled : settled ⟨t, none, 0⟩ = List.range t.nextQuery := by
    rw [← show _ = List.range t.nextQuery from numbered]
    cases query <;> simp [t, Desk.settled]
  refine ⟨?_, settled⟩
  exact {
    urgent := nofun
    alarms := nofun
    up := ⟨nofun, nofun⟩
    begun := nofun
    idle := fun _ => rfl
    numbered := nofun
    distinct := settled ▸ List.nodup_range
    below := fun n mem => List.mem_range.1 (settled ▸ mem)
    isOpen := fun _ => nofun
    closed := fun _ => nofun }

/-- If bring-up fails, what waits is lost. -/
theorem Sound.failed {s t : Session} (h : Sound ⟨s, none, 0⟩) (starting : s.loop = .starting)
    (down : t.loop = .ended ∨ t.loop = .crashed) (urgent : t.lanes.urgent = [])
    (ordinary : t.lanes.ordinary = []) (alarms : t.lanes.alarms = [])
    (deserted : t.lanes.deserted = true) (answers : t.answers = s.answers) :
    Sound ⟨t, none, 0⟩ := by
  have none : settled ⟨t, none, 0⟩ = [] := by
    rw [settled, answers, show s.answers = [] from h.begun starting]
    rfl
  have line : pending ⟨t, Option.none, 0⟩ = [] := by simp [pending, Session.waiting, ordinary]
  exact {
    urgent := by simp [urgent]
    alarms := by simp [alarms]
    up := by rcases down with down | down <;> simp [down, deserted]
    begun := fun starting => by rcases down with down | down <;> cases down.symm.trans starting
    idle := fun _ => rfl
    numbered := fun taken => absurd (taken.symm.trans deserted) Bool.false_ne_true
    distinct := none ▸ List.nodup_nil
    below := by simp [none]
    isOpen := by simp [line]
    closed := fun _ taken => absurd (taken.symm.trans deserted) Bool.false_ne_true }

/-- No call comes due. -/
theorem Sound.due {s : Session} (h : Sound ⟨s, hand, n⟩) :
    Session.Unasked s s.deliverDue := by
  have none : ((s.lanes.alarms.takeWhile (·.due ≤ s.clock)).map (·.message)).filter
      Message.isCall = [] := by
    refine List.filter_eq_nil_iff.2 fun m mem => ?_
    obtain ⟨a, among, rfl⟩ := List.mem_map.1 mem
    simp [h.alarms a ((List.takeWhile_sublist _).subset among)]
  refine { Session.Unasked.refl s with waiting := ?_, alarms := fun a mem => .inl ?_ }
  · simp only [Session.waiting, Session.deliverDue, Lanes.deliverDue, List.filter_append, none,
      List.append_nil]
  · exact (List.dropWhile_sublist _).subset mem

/-- The loop is entered with the line as it is. -/
theorem unasked_entered (s : Session) :
    Session.Unasked s ((s.postUrgent .ready).2.armSweep true) :=
  (Session.unasked_tables s).armSweep true (Session.unasked_postUrgent s rfl)

theorem Step.sound (n : Step d d') (h : d.Sound) : d'.Sound := by
  cases n with
  | still u => exact h.still u
  | locked | unlocked | kept => exact { h with }
  | asked s own early => exact h.asked own early
  | shut s hand n =>
    cases live : s.isLive with
    | false => rwa [beginShutdown_refused live]
    | true =>
      cases deserted : s.lanes.deserted with
      | true => exact h.lost live deserted none
      | false =>
        have last := h.last live deserted none s.nextQuery (by simp)
        rw [Session.beginShutdown_of_taken live deserted, Session.withdrawSweep_eq] at last ⊢
        exact last
  | askedShutdown s hand n =>
    cases live : s.isLive with
    | false => rwa [Session.askShutdown_refused live]
    | true =>
      unfold Session.askShutdown
      dsimp only
      cases deserted : s.lanes.deserted with
      | true =>
        have lost := h.lost live deserted (some s.nextQuery)
        rw [Session.beginShutdown_of_deserted live deserted] at lost ⊢
        exact lost
      | false =>
        have last := h.last live deserted (some s.nextQuery) (s.nextQuery + 1) List.range_succ
        rw [Session.beginShutdown_of_taken live deserted] at last ⊢
        exact last
  | answered s own early taken => exact h.answered own early _
  | ended s query taken => exact h.ended.1
  | due s => exact h.still h.due
  | @entered s starting =>
    have armed := h.still (unasked_entered s)
    have kept := (unasked_entered s).loop.trans starting
    exact { armed with
      up := ⟨fun _ => .inr rfl, fun _ => armed.up.2 (.inl kept)⟩
      begun := nofun
      idle := fun _ => rfl }
  | @abandoned s starting => exact h.failed starting (.inl rfl) rfl rfl rfl rfl rfl
  | @crashed s starting => exact h.failed starting (.inr rfl) rfl rfl rfl rfl rfl

theorem Path.sound (p : Path d k d') (h : d.Sound) : d'.Sound := by
  induction p with
  | none => exact h
  | step _ n ih => exact n.sound ih
  | took _ running next call _ ih => exact ih.took running next call

theorem Arises.sound (h : d.Arises) : d.Sound := by
  obtain ⟨origin, k, spawned, p⟩ := h
  obtain ⟨settings, locale, program, modules, rfl⟩ := Moment.spawned_eq spawned
  exact p.sound {
    urgent := nofun
    alarms := nofun
    up := ⟨fun _ => .inl rfl, fun _ => rfl⟩
    begun := fun _ => rfl
    idle := fun _ => rfl
    numbered := fun _ => rfl
    distinct := .nil
    below := nofun
    isOpen := fun _ => nofun
    closed := nofun }

end Desk
end ScriptHost
