import Mathlib.Data.List.Range
import ScriptHost.Proofs.Moments

/-!
# Calls that are answered

A script that is to be run, a path that is to be required, and the shutdown are asked for by
messages, and for each of them somebody may wait. A call gets a number when it is accepted, its
message waits in line, the loop takes it in hand, and then the call is answered. Whatever else a
session does, it neither asks nor answers.

## Main definitions

* `Message.isCall`, `Message.query?` — the messages of calls, and their numbers.
* `Session.outcome` — what comes of a call when the loop takes its message.
* `Session.Unasked` — nothing has been asked or answered.
* `Desk` — a session, and the call that its loop has in hand; `Desk.Step`, `Desk.Path` — what can
  happen at it.

## Main statements

* `Session.perform_path`, `Session.play_path`, … — code asks for calls, and answers none.
* `Session.drain_path`, `Session.runHelpers_path` — so do drains.
-/

namespace ScriptHost

/-- The messages of calls. -/
def Message.isCall : Message → Bool
  | .script .. | .require .. | .shutdown _ => true
  | _ => false

/-- The number of the call that a message belongs to, if somebody waits for it. -/
def Message.query? : Message → Option Nat
  | .script _ _ query | .require _ query => some query
  | .shutdown query => query
  | _ => none

theorem Message.isCall_of_query? {m : Message} {query : Nat} (h : m.query? = some query) :
    m.isCall = true := by
  cases m <;> first | rfl | cases h

namespace Session

variable {s t u : Session}

/-- What a caller is told about the end of what it has asked for. -/
def told (what : String) : Outcome EngineFailure Json.Value → Except Failure Json.Value
  | .ok v => .ok v
  | .failed f => .error (.engine f)
  | .panicked => .error (.engine (.script ("'" ++ what ++ "' panicked")))

/-- What comes of a call when the loop has taken its message: what the engine gives for it with the
execution lock held. If the loop itself has kept the lock the engine is not called, and the caller
is told as if it had panicked. -/
def outcome (s : Session) : Message → Except Failure Json.Value
  | .script source name _ =>
    told name (if s.lock = .free
      then ({ s with lock := ⟨some .loop⟩ }.runScript .loop source name).1 else .panicked)
  | .require path _ =>
    told path (if s.lock = .free
      then ({ s with lock := ⟨some .loop⟩ }.loadPath .loop path).1 else .panicked)
  | _ => .ok .null

/-- The calls in line. -/
def waiting (s : Session) : List Message := s.lanes.ordinary.filter Message.isCall

/-! ## What is no call -/

/-- Nothing has been asked or answered, and the lock has not changed hands. -/
structure Unasked (s t : Session) : Prop where
  waiting : t.waiting = s.waiting
  urgent : ∀ m ∈ t.lanes.urgent, m ∈ s.lanes.urgent ∨ m.isCall = false
  alarms : ∀ a ∈ t.lanes.alarms, a ∈ s.lanes.alarms ∨ a.message.isCall = false
  closed : t.lanes.closed = s.lanes.closed
  deserted : t.lanes.deserted = s.lanes.deserted
  loop : t.loop = s.loop
  nextQuery : t.nextQuery = s.nextQuery
  answers : t.answers = s.answers
  program : t.program = s.program
  lock : t.lock = s.lock

namespace Unasked

theorem same (lanes : t.lanes = s.lanes) (loop : t.loop = s.loop)
    (nextQuery : t.nextQuery = s.nextQuery) (answers : t.answers = s.answers)
    (program : t.program = s.program) (lock : t.lock = s.lock) : Unasked s t where
  waiting := by rw [Session.waiting, lanes]; rfl
  urgent m mem := .inl (lanes ▸ mem)
  alarms _ mem := .inl (lanes ▸ mem)
  closed := by rw [lanes]
  deserted := by rw [lanes]
  loop := loop
  nextQuery := nextQuery
  answers := answers
  program := program
  lock := lock

theorem refl (s : Session) : Unasked s s := same rfl rfl rfl rfl rfl rfl

theorem trans (h : Unasked s t) (h' : Unasked t u) : Unasked s u where
  waiting := h'.waiting.trans h.waiting
  urgent m mem := (h'.urgent m mem).elim (h.urgent m) .inr
  alarms a mem := (h'.alarms a mem).elim (h.alarms a) .inr
  closed := h'.closed.trans h.closed
  deserted := h'.deserted.trans h.deserted
  loop := h'.loop.trans h.loop
  nextQuery := h'.nextQuery.trans h.nextQuery
  answers := h'.answers.trans h.answers
  program := h'.program.trans h.program
  lock := h'.lock.trans h.lock

/-- Alarms are taken back. -/
theorem fewer {alarms : List (Alarm Message)} (sub : alarms ⊆ s.lanes.alarms) :
    Unasked s { s with lanes.alarms := alarms } :=
  { refl s with alarms := fun _ mem => .inl (sub mem) }

/-- A message that is no call has been taken from the queue. -/
theorem taken {m : Message} {lanes : Lanes Message} (next : s.lanes.next? = some (m, lanes))
    (other : m.isCall = false) : Unasked s { s with lanes } := by
  rcases Lanes.next?_cases next with ⟨urgent, heq, rfl⟩ | ⟨-, ordinary, heq, rfl⟩
  · refine { refl s with urgent := fun m' mem => .inl ?_ }
    exact heq ▸ List.mem_cons_of_mem _ mem
  · exact { refl s with waiting := by simp [Session.waiting, heq, other] }

end Unasked

theorem unasked_post (s : Session) {m : Message} (other : m.isCall = false) :
    Unasked s (s.post m).2 := by
  rcases post_cases s m with eq | ⟨-, eq⟩ <;> rw [eq]
  · exact .refl s
  · exact { Unasked.refl s with waiting := by simp [waiting, other] }

theorem unasked_postUrgent (s : Session) {m : Message} (other : m.isCall = false) :
    Unasked s (s.postUrgent m).2 := by
  rcases postUrgent_cases s m with eq | ⟨-, eq⟩ <;> rw [eq]
  · exact .refl s
  · refine { Unasked.refl s with urgent := fun m' mem => ?_ }
    rcases List.mem_append.1 mem with mem | mem
    · exact .inl mem
    · exact .inr (List.mem_singleton.1 mem ▸ other)

theorem unasked_arm (s : Session) (delay : Nat) {m : Message} (other : m.isCall = false) :
    Unasked s (s.arm delay m).2 := by
  rcases arm_cases s delay m with eq | ⟨-, eq⟩ <;> rw [eq]
  · exact .refl s
  · refine { Unasked.refl s with alarms := fun a mem => ?_ }
    rcases List.mem_cons.1 ((Lanes.insertAlarm_perm _ _).mem_iff.1 mem) with rfl | mem
    · exact .inr other
    · exact .inl mem

theorem unasked_withdraw (s : Session) (ticket : Option Nat) : Unasked s (s.withdraw ticket) := by
  rw [withdraw_eq]
  exact .fewer (List.filter_subset_self _)

theorem unasked_tables (s : Session) : KeptByTables (Unasked s) where
  registered _ h := h.trans (.same rfl rfl rfl rfl rfl rfl)
  buried _ h := h.trans (.same rfl rfl rfl rfl rfl rfl)
  sweepArmed delay h := h.trans (unasked_arm _ delay rfl)
  withdrawn ticket h := h.trans (unasked_withdraw _ ticket)
  ticketed _ h := h.trans (.same rfl rfl rfl rfl rfl rfl)
  entered _ h := h.trans (.same rfl rfl rfl rfl rfl rfl)
  listeners _ h := h.trans (.same rfl rfl rfl rfl rfl rfl)
  firingArmed delay _ h := h.trans (unasked_arm _ delay rfl)
  timers _ h := h.trans (.same rfl rfl rfl rfl rfl rfl)

theorem unasked_requests (s : Session) : KeptByRequests (Unasked s) where
  toKeptByCustody := (unasked_tables s).toKeptByCustody
  counted _ h := h.trans (.same rfl rfl rfl rfl rfl rfl)
  held _ h := h.trans (.same rfl rfl rfl rfl rfl rfl)
  errands _ h := h.trans (.same rfl rfl rfl rfl rfl rfl)
  posted _ _ h := h.trans (unasked_post _ rfl)
  dropped _ h := h.trans (.same rfl rfl rfl rfl rfl rfl)
  transported _ h := h.trans (.same rfl rfl rfl rfl rfl rfl)
  sent _ h := h.trans (.same rfl rfl rfl rfl rfl rfl)
  issued _ h := h.trans (.same rfl rfl rfl rfl rfl rfl)

theorem unasked_enqueuing (s : Session) : KeptByEnqueuing (Unasked s) where
  ticks _ h := h.trans (.same rfl rfl rfl rfl rfl rfl)
  helpers _ h := h.trans (.same rfl rfl rfl rfl rfl rfl)
  accepted _ h := h.trans (.same rfl rfl rfl rfl rfl rfl)
  urged h := h.trans (unasked_postUrgent _ rfl)

theorem unasked_emit (s : Session) (event : String) (value : Json.Value) :
    Unasked s (s.emit event value).2 := by
  unfold emit
  split
  · exact unasked_post s rfl
  · exact .refl s

theorem unasked_registerModule (s : Session) (name : String) :
    Unasked s (s.registerModule name).2 := by
  unfold registerModule
  split
  · exact .refl s
  split
  · exact unasked_post s rfl
  · exact .same rfl rfl rfl rfl rfl rfl

theorem unasked_postWork (s : Session) (delay : Nat) (work : Work) :
    Unasked s (s.postWork delay work).2 := by
  unfold postWork
  split
  · exact .refl s
  split
  · exact unasked_post s rfl
  · exact unasked_arm s delay rfl

theorem unasked_sweepNow (s : Session) : Unasked s s.sweepNow.2 := by
  unfold sweepNow
  split
  · exact unasked_post s rfl
  · exact .refl s

theorem unasked_scriptResult (s : Session) (key : String) : Unasked s (s.scriptResult key).2 := by
  unfold scriptResult
  split
  · exact .refl s
  split
  · exact .refl s
  · exact .same rfl rfl rfl rfl rfl rfl

theorem unasked_sweepGraveyard (s : Session) : Unasked s s.sweepGraveyard.2 := by
  obtain ⟨released, failures, h, -⟩ := s.sweepGraveyard_eq
  rw [h]
  exact .same rfl rfl rfl rfl rfl rfl

theorem unasked_clear (s : Session) : Unasked s s.clear := by
  obtain ⟨alarms, sub, h⟩ := s.clear_eq
  rw [h]
  exact (Unasked.fewer sub.subset).trans (.same rfl rfl rfl rfl rfl rfl)

end Session

/-! ## At the desk -/

/-- The message of a call that the loop has taken, and the session as it was then. -/
abbrev Taking := Message × Session

/-- A session, and the call that its loop has in hand, if any. -/
structure Desk where
  session : Session
  hand : Option Taking
  /-- The guards of the execution lock that are still to be released. -/
  guards : Nat

namespace Desk

open Session (Unasked)

/-- What can happen while the loop takes no call. -/
inductive Step : Desk → Desk → Prop where
  | still {s t : Session} (h : Unasked s t) (hand : Option Taking) (n : Nat) :
      Step ⟨s, hand, n⟩ ⟨t, hand, n⟩
  /-- A thread takes the execution lock, and will release it. -/
  | locked {s : Session} (free : s.lock = .free) (thread : Thread) (hand : Option Taking)
      (n : Nat) : Step ⟨s, hand, n⟩ ⟨{ s with lock := ⟨some thread⟩ }, hand, n + 1⟩
  | unlocked (s : Session) (hand : Option Taking) (n : Nat) :
      Step ⟨s, hand, n + 1⟩ ⟨s.unlock, hand, n⟩
  /-- A thread takes the execution lock for good. -/
  | kept {s : Session} (free : s.lock = .free) (thread : Thread) (hand : Option Taking) (n : Nat) :
      Step ⟨s, hand, n⟩ ⟨{ s with lock := ⟨some thread⟩ }, hand, n⟩
  /-- Somebody asks for a script or a path. -/
  | asked (s : Session) {message : Nat → Message} (own : ∀ n, (message n).query? = some n)
      (early : ∀ n, (message n).isLast = false) (hand : Option Taking) (n : Nat) :
      Step ⟨s, hand, n⟩ ⟨(s.ask message).2, hand, n⟩
  /-- Somebody asks for the shutdown, and does not wait for it. -/
  | shut (s : Session) (hand : Option Taking) (n : Nat) :
      Step ⟨s, hand, n⟩ ⟨(s.beginShutdown none).2, hand, n⟩
  /-- Somebody asks for the shutdown. -/
  | askedShutdown (s : Session) (hand : Option Taking) (n : Nat) :
      Step ⟨s, hand, n⟩ ⟨s.askShutdown.2, hand, n⟩
  /-- The loop answers the call that it has in hand. -/
  | answered (s : Session) {m : Message} {query : Nat} (own : m.query? = some query)
      (early : m.isLast = false) (taken : Session) :
      Step ⟨s, some (m, taken), 0⟩ ⟨s.answer query (taken.outcome m), none, 0⟩
  /-- The loop answers the last call and ends. -/
  | ended (s : Session) (query : Option Nat) (taken : Session) :
      Step ⟨s, some (.shutdown query, taken), 0⟩ ⟨{ s with
        answers := (query.map fun query => (query, .ok .null)).toList ++ s.answers
        phase := .terminated
        loop := .ended
        lanes := s.lanes.desert }, none, 0⟩
  | due (s : Session) : Step ⟨s, none, 0⟩ ⟨s.deliverDue, none, 0⟩
  | entered {s : Session} (starting : s.loop = .starting) :
      Step ⟨s, none, 0⟩ ⟨s.enterLoop, none, 0⟩
  | abandoned {s : Session} (starting : s.loop = .starting) :
      Step ⟨s, none, 0⟩ ⟨s.abandon, none, 0⟩
  | crashed {s : Session} (starting : s.loop = .starting) :
      Step ⟨s, none, 0⟩ ⟨s.crash, none, 0⟩

/-- One thing after the other, and the calls that the loop takes meanwhile, the first ones first. -/
inductive Path (a : Desk) : List Taking → Desk → Prop where
  | none : Path a [] a
  | step {k : List Taking} {b c : Desk} (p : Path a k b) (n : Step b c) : Path a k c
  /-- The loop takes the message of a call; it would stand still if another thread kept the lock. -/
  | took {k : List Taking} {s : Session} {m : Message} {lanes : Lanes Message}
      (p : Path a k ⟨s, Option.none, 0⟩) (running : s.loop = .running)
      (next : s.lanes.next? = some (m, lanes)) (call : m.isCall = true)
      (going : s.isKeptOut = false) :
      Path a (k ++ [(m, { s with lanes })]) ⟨{ s with lanes }, some (m, { s with lanes }), 0⟩

theorem Path.trans {a b c : Desk} {k l : List Taking} (p : Path a k b) (q : Path b l c) :
    Path a (k ++ l) c := by
  induction q with
  | none => simpa using p
  | step _ n ih => exact ih.step n
  | took _ running next call going ih =>
    rw [← List.append_assoc]
    exact ih.took running next call going

end Desk

namespace Session

open Desk (Path)

variable {s t u : Session} {d : Desk} {k : List Taking} {hand : Option Taking} {n : Nat}

theorem Unasked.path (h : Unasked s t) (p : Path d k ⟨s, hand, n⟩) : Path d k ⟨t, hand, n⟩ :=
  p.step (.still h hand n)

theorem same_path (p : Path d k ⟨s, hand, n⟩) (lanes : t.lanes = s.lanes) (loop : t.loop = s.loop)
    (nextQuery : t.nextQuery = s.nextQuery) (answers : t.answers = s.answers)
    (program : t.program = s.program) (lock : t.lock = s.lock) : Path d k ⟨t, hand, n⟩ :=
  (Unasked.same lanes loop nextQuery answers program lock).path p

/-! ## Code -/

theorem askScript_path (source name : String) (p : Path d k ⟨s, hand, n⟩) :
    Path d k ⟨(s.askScript source name).2, hand, n⟩ :=
  p.step (.asked s (fun _ => rfl) (fun _ => rfl) hand n)

theorem askRequire_path (path : String) (p : Path d k ⟨s, hand, n⟩) :
    Path d k ⟨(s.askRequire path).2, hand, n⟩ :=
  p.step (.asked s (fun _ => rfl) (fun _ => rfl) hand n)

theorem blockingAsk_path {a : Action} {ask : Session → Except Failure Nat × Session}
    (asks : blockingAsk a = some ask) (p : Path d k ⟨s, hand, n⟩) :
    Path d k ⟨(ask s).2, hand, n⟩ := by
  unfold blockingAsk at asks
  split at asks
  · cases asks; exact askScript_path _ _ p
  · cases asks; exact askRequire_path _ p
  · cases asks; exact p.step (.askedShutdown s hand n)
  · cases asks

theorem beginScript_path (key source name : String) (p : Path d k ⟨s, hand, n⟩) :
    Path d k ⟨(s.beginScript key source name).2, hand, n⟩ := by
  have asked := askScript_path source name p
  unfold beginScript
  split
  · next heq => rw [heq] at asked; exact same_path asked rfl rfl rfl rfl rfl rfl
  · next heq => rw [heq] at asked; exact asked

theorem askFrom_path (thread : Thread) {ask : Session → Except Failure Nat × Session}
    (p : Path d k ⟨s, hand, n⟩) (asked : Path d k ⟨(ask s).2, hand, n⟩) :
    Path d k ⟨(askFrom thread ask s).2, hand, n⟩ := by
  unfold askFrom
  split
  · exact p
  · split
    · next heq => rw [heq] at asked; exact asked
    · next heq => rw [heq] at asked; exact asked

theorem shutdownFrom_path (thread : Thread) (p : Path d k ⟨s, hand, n⟩) :
    Path d k ⟨(shutdownFrom thread s).2, hand, n⟩ := by
  have begun := p.step (.shut s hand n)
  have asked := p.step (.askedShutdown s hand n)
  unfold shutdownFrom
  split
  · split <;> next heq => rw [heq] at begun; exact begun
  · split <;> next heq => rw [heq] at asked; exact asked

/-- Calls to the engine, where it is at hand, ask for calls and answer none. -/
def AccessPaths : EngineAccess → Prop :=
  EngineAccess.All fun engine => ∀ {d : Desk} {k : List Taking} {hand : Option Taking} {n : Nat}
    thread call s, Path d k ⟨s, hand, n⟩ → Path d k ⟨(engine thread call s).2, hand, n⟩

theorem callEngine_path {access : EngineAccess} (h : AccessPaths access) (thread : Thread)
    (call : EngineCall) (p : Path d k ⟨s, hand, n⟩) :
    Path d k ⟨(callEngine access thread call s).2, hand, n⟩ := by
  unfold callEngine
  split
  · exact p
  next engine given =>
    have called := h.1 engine given thread call s p
    split <;> next heq => rw [heq] at called; exact called

mutual

theorem perform_path {access : EngineAccess} {n : Nat} (h : AccessPaths access) (thread : Thread) :
    (a : Action) → {s : Session} → Path d k ⟨s, hand, n⟩ →
      Path d k ⟨(perform access thread a s).2, hand, n⟩
  | .schedule door pair delay recurring, s, p =>
    ((unasked_tables s).schedule door pair delay recurring (.refl s)).path p
  | .cancel door timer, s, p => ((unasked_tables s).cancel door timer (.refl s)).path p
  | .tick door noThreads tag actions, s, p =>
    ((unasked_enqueuing s).enqueue door thread noThreads ⟨tag, actions⟩ (.refl s)).path p
  | .request door noThreads order, s, p =>
    ((unasked_requests s).issue door noThreads order (.refl s)).path p
  | .on door event pair, s, p => ((unasked_tables s).listen door event pair (.refl s)).path p
  | .off door event, s, p => ((unasked_tables s).unlisten door event (.refl s)).path p
  | .phase _, _, p => p
  | .locale _, _, p => p
  | .isTimerLive _, _, p => p
  | .emit event value, s, p => (unasked_emit s event value).path p
  | .emitFlag event value, s, p => (unasked_emit s event (.bool value)).path p
  | .register name, s, p => (unasked_registerModule s name).path p
  | .post tag delay actions, s, p => (unasked_postWork s delay ⟨tag, actions⟩).path p
  | .pause, s, p => ((unasked_tables s).pause (.refl s)).path p
  | .unpause, s, p => ((unasked_tables s).unpause (.refl s)).path p
  | .sweep, s, p => (unasked_sweepNow s).path p
  | .readiness, _, p => p
  | .awaitReady, _, p => p
  | .interval, _, p => p
  | .statistics, _, p => p
  | .observe tag actions, s, p => by
    have told := play_path h.outside thread actions
      (same_path (t := s.note (.observer tag thread)) p rfl rfl rfl rfl rfl rfl)
    unfold perform
    cases s.readiness.ready with
    | false => exact same_path p rfl rfl rfl rfl rfl rfl
    | true => exact same_path told rfl rfl rfl rfl rfl rfl
  | .unobserve _, _, p => same_path p rfl rfl rfl rfl rfl rfl
  | .release key, s, p => ((unasked_requests s).release key (.refl s)).path p
  | .guarded body, s, p => by
    unfold perform
    split
    · exact p
    next u take =>
      obtain ⟨-, free, rfl⟩ := takeLock_eq_ok.1 take
      have inner := collect_path h.inside thread body (p.step (.locked free thread hand n))
      split <;> next heq => rw [heq] at inner; exact inner.step (.unlocked _ hand n)
  | .leakLock, s, p => by
    unfold perform
    split
    · exact p
    next u take =>
      obtain ⟨-, free, rfl⟩ := takeLock_eq_ok.1 take
      exact p.step (.kept free thread hand n)
  | .script source name, _, p => askFrom_path thread p (askScript_path source name p)
  | .require path, _, p => askFrom_path thread p (askRequire_path path p)
  | .shutdown, _, p => shutdownFrom_path thread p
  | .beginScript key source name, _, p => beginScript_path key source name p
  | .scriptResult key, s, p => (unasked_scriptResult s key).path p
  | .callScript source name, _, p => callEngine_path h thread (.script source name) p
  | .callBack pair arguments, _, p => callEngine_path h thread (.invoke pair arguments) p
  | .fail _, _, p => p
  | .panic, _, p => p

theorem play_path {access : EngineAccess} {n : Nat} (h : AccessPaths access) (thread : Thread) :
    (actions : List Action) → {s : Session} → Path d k ⟨s, hand, n⟩ →
      Path d k ⟨(play access thread actions s).2, hand, n⟩
  | [], _, p => p
  | a :: rest, s, p => by
    have first := perform_path h thread a p
    unfold play
    split
    · next reply t heq =>
      rw [heq] at first
      exact play_path h thread rest
        (same_path (t := t.note (.did a.name reply)) first rfl rfl rfl rfl rfl rfl)
    · next heq => rw [heq] at first; exact first
    · next heq => rw [heq] at first; exact first

theorem collect_path {access : EngineAccess} {n : Nat} (h : AccessPaths access) (thread : Thread) :
    (actions : List Action) → {s : Session} → Path d k ⟨s, hand, n⟩ →
      Path d k ⟨(collect access thread actions s).2, hand, n⟩
  | [], _, p => p
  | a :: rest, s, p => by
    have first := perform_path h thread a p
    unfold collect
    split
    · next reply t heq =>
      rw [heq] at first
      have others := collect_path h thread rest first
      split <;> next heq => rw [heq] at others; exact others
    · next heq => rw [heq] at first; exact first

end

/-! ## What plays actions -/

theorem playScripted_path (thread : Thread) (actions : List Action) (p : Path d k ⟨s, hand, n⟩) :
    Path d k ⟨(playScripted thread actions s).2, hand, n⟩ := by
  have played := play_path EngineAccess.all_nowhere thread actions p
  unfold playScripted
  split <;> next heq => rw [heq] at played; exact played

theorem invoke_path (thread : Thread) (pair : Pair) (arguments : List Json.Value)
    (p : Path d k ⟨s, hand, n⟩) : Path d k ⟨(invoke thread pair arguments s).2, hand, n⟩ :=
  playScripted_path thread _ (same_path p rfl rfl rfl rfl rfl rfl)

theorem runScript_path (thread : Thread) (source name : String) (p : Path d k ⟨s, hand, n⟩) :
    Path d k ⟨(runScript thread source name s).2, hand, n⟩ := by
  rw [runScript_eq]
  exact playScripted_path thread _ (same_path p rfl rfl rfl rfl rfl rfl)

theorem loadPath_path (thread : Thread) (path : String) (p : Path d k ⟨s, hand, n⟩) :
    Path d k ⟨(loadPath thread path s).2, hand, n⟩ :=
  playScripted_path thread _ (same_path (t := s.note (.require path)) p rfl rfl rfl rfl rfl rfl)

theorem engineAccess_paths : AccessPaths engineAccess := by
  refine EngineAccess.all_engineAccess ?_
  intro d k hand n thread call s p
  cases call with
  | script source name => exact runScript_path thread source name p
  | invoke pair arguments =>
    exact invoke_path thread pair arguments (same_path p rfl rfl rfl rfl rfl rfl)

theorem invokeLive_path (thread : Thread) (pair : Pair) (arguments : List Json.Value)
    (p : Path d k ⟨s, hand, n⟩) : Path d k ⟨(s.invokeLive thread pair arguments).2, hand, n⟩ := by
  unfold invokeLive
  split
  · exact invoke_path thread pair arguments p
  · exact same_path p rfl rfl rfl rfl rfl rfl

theorem runWork_path {access : EngineAccess} (h : AccessPaths access) (thread : Thread)
    (entry : Entry) (work : Work) (p : Path d k ⟨s, hand, n⟩) :
    Path d k ⟨s.runWork access thread entry work, hand, n⟩ :=
  play_path h thread work.actions
    (same_path (t := s.note entry) p rfl rfl rfl rfl rfl rfl)

theorem act_path (a : Action) (p : Path d k ⟨s, hand, n⟩) : Path d k ⟨(s.act a).2, hand, n⟩ := by
  have done := perform_path engineAccess_paths.outside .host a p
  unfold act
  split <;> next heq => rw [heq] at done; exact done

theorem earlyStep_path (h : HostStep) (p : Path d k ⟨s, hand, n⟩) :
    Path d k ⟨(s.earlyStep h).2.2, hand, n⟩ := by
  cases h with
  | run ms => exact p
  | drop => exact p
  | act a =>
    unfold earlyStep
    dsimp only
    split
    · next asks => exact blockingAsk_path asks p
    · exact act_path a p

theorem loadModules_path (names : List String) (p : Path d k ⟨s, hand, n⟩) :
    Path d k ⟨(loadModules names s).2, hand, n⟩ := by
  induction names generalizing s with
  | nil => exact p
  | cons name rest ih =>
    have loaded : Path d k ⟨(s.loadModule name).2, hand, n⟩ := same_path p rfl rfl rfl rfl rfl rfl
    unfold loadModules
    split
    · next heq => rw [heq] at loaded; exact loaded
    · next heq => rw [heq] at loaded; exact ih loaded

theorem loadAll_path (p : Path d k ⟨s, hand, n⟩) : Path d k ⟨s.loadAll.2, hand, n⟩ := by
  have modules := loadModules_path s.backlog.names
    (same_path (t := { s with backlog := ⟨true, []⟩ }) p rfl rfl rfl rfl rfl rfl)
  unfold loadAll
  split
  · next heq => rw [heq] at modules; exact modules
  next heq =>
    rw [heq] at modules
    split
    · exact modules
    next path _ =>
      have loaded := loadPath_path .loop path modules
      split <;> next heq => rw [heq] at loaded; exact loaded

/-! ## Under the execution lock -/

/-- What a thread does with the lock held, it does between two steps. -/
theorem locked_path {f : Session → Session} (free : s.lock = .free) (thread : Thread)
    (inner : ∀ {s n}, Path d k ⟨s, hand, n⟩ → Path d k ⟨f s, hand, n⟩)
    (p : Path d k ⟨s, hand, n⟩) :
    Path d k ⟨(f { s with lock := ⟨some thread⟩ }).unlock, hand, n⟩ :=
  (inner (p.step (.locked free thread hand n))).step (.unlocked _ hand n)

theorem drainFrom_path {bound executed : Nat} {thread : Thread} {r : Drained}
    (p : Path d k ⟨s, hand, n⟩) (h : s.drainFrom bound executed thread = some (r, t)) :
    Path d k ⟨t, hand, n⟩ := by
  have ran : ∀ (jobs : List Work) {s : Session} {n : Nat}, Path d k ⟨s, hand, n⟩ →
      Path d k ⟨jobs.foldl (fun s job => s.runJob thread job) s, hand, n⟩ := by
    intro jobs
    induction jobs with
    | nil => exact fun p => p
    | cons job rest ih =>
      exact fun p => ih (runWork_path engineAccess_paths thread _ job
        (same_path p rfl rfl rfl rfl rfl rfl))
  induction bound generalizing executed s with
  | zero => simp [drainFrom] at h
  | succ bound ih =>
    rcases drainFrom_cases h with ⟨-, rfl⟩ | ⟨-, -, draining, rfl⟩ | ⟨-, free, _, h⟩
    · exact same_path p rfl rfl rfl rfl rfl rfl
    · exact same_path p rfl rfl rfl rfl rfl rfl
    · have taken := same_path (t := { s with ticks := ⟨[], true⟩ }) p rfl rfl rfl rfl rfl rfl
      have ran := locked_path (s := { s with ticks := ⟨[], true⟩ }) free thread
        (ran s.ticks.jobs) taken
      exact ih ran h

theorem drain_path {bound : Nat} {thread : Thread} (p : Path d k ⟨s, hand, n⟩)
    (h : s.drain bound thread = some t) : Path d k ⟨t, hand, n⟩ := by
  simp only [drain, Option.map_eq_some_iff] at h
  obtain ⟨⟨r, t⟩, h, rfl⟩ := h
  exact drainFrom_path p h

theorem runHelpers_path {bound : Nat} (p : Path d k ⟨s, hand, n⟩)
    (h : s.runHelpers bound = some t) : Path d k ⟨t, hand, n⟩ :=
  runHelpers_induct (P := fun s => Path d k ⟨s, hand, n⟩)
    (fun p => same_path p rfl rfl rfl rfl rfl rfl) drain_path p h

end Session
end ScriptHost
