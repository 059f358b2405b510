import ScriptHost.Proofs.Aftermath
import ScriptHost.Proofs.Calls

/-!
# Who waits for the loop

A call that is answered by the loop posts its message and waits. The owning thread is refused
beforehand, or told that its shutdown has been posted; any other thread waits, also one that holds
the execution lock, and then the loop that is to answer waits for the lock and the session stands
still for good: a lock stays with its holder until the holder goes on.

## Main definitions

* `Session.HeldFor` — the execution lock is with a thread, and nobody else can change that.

## Main statements

* `Session.asked_cases` — a call that is answered is posted, or refused.
* `Session.held_for` — a lock stays with its holder whatever all others do.
* `Session.waits_with_lock` — which threads wait while they hold the lock.
-/

namespace ScriptHost
namespace Session

variable {o s t : Session}

/-! ## Calls that are answered -/

section
variable (live : s.isLive = true)
include live

theorem ask_of_taken (taken : s.lanes.deserted = false) (message : Nat → Message) :
    s.ask message = (.ok s.nextQuery, { s with
      lanes.ordinary := s.lanes.ordinary ++ [message s.nextQuery]
      nextQuery := s.nextQuery + 1 }) := by
  have accepts : s.lanes.accepts = true := by
    simp [Lanes.accepts, lanes_open_of_isLive live, taken]
  simp [ask, live, post, Lanes.post_of_accepts accepts]

theorem ask_of_deserted (deserted : s.lanes.deserted = true) (message : Nat → Message) :
    s.ask message = (.error .closed, s) := by
  have refuses : s.lanes.accepts = false := by simp [Lanes.accepts, deserted]
  simp [ask, live, post, Lanes.post_of_not_accepts refuses]

theorem beginShutdown_of_taken (taken : s.lanes.deserted = false) (query : Option Nat) :
    let t := { s with phase := .shuttingDown }.withdrawSweep
    s.beginShutdown query = (true, { t with
      lanes.ordinary := t.lanes.ordinary ++ [.shutdown query]
      lanes.closed := true }) := by
  simp [beginShutdown, live, Lanes.postLast, Lanes.post, Lanes.accepts, withdrawSweep_eq,
    lanes_open_of_isLive live, taken]

theorem beginShutdown_of_deserted (deserted : s.lanes.deserted = true) (query : Option Nat) :
    let t := { s with phase := .shuttingDown }.withdrawSweep
    s.beginShutdown query = (false, { t with lanes.closed := true }) := by
  simp [beginShutdown, live, Lanes.postLast, Lanes.post, Lanes.accepts, withdrawSweep_eq,
    lanes_open_of_isLive live, deserted]

end

/-- A call that is answered joins the end of the line if work is accepted and somebody takes it, and
is refused otherwise. The lock has no part in it. -/
theorem asked_cases {a : Action} {ask : Session → Except Failure Nat × Session}
    (asks : blockingAsk a = some ask) (s : Session) :
    (s.isLive = true ∧ s.lanes.deserted = false) ∧
        (∃ m t, ask s = (.ok s.nextQuery, t) ∧ t.lanes.ordinary = s.lanes.ordinary ++ [m] ∧
          t.lock = s.lock) ∨
      ¬ (s.isLive = true ∧ s.lanes.deserted = false) ∧
        ∃ t, ask s = (.error .closed, t) ∧ t.lanes.ordinary = s.lanes.ordinary ∧
          t.lock = s.lock := by
  have posted : ∀ message : Nat → Message,
      (s.isLive = true ∧ s.lanes.deserted = false) ∧ (∃ m t, s.ask message = (.ok s.nextQuery, t) ∧
          t.lanes.ordinary = s.lanes.ordinary ++ [m] ∧ t.lock = s.lock) ∨
        ¬ (s.isLive = true ∧ s.lanes.deserted = false) ∧ ∃ t, s.ask message = (.error .closed, t) ∧
          t.lanes.ordinary = s.lanes.ordinary ∧ t.lock = s.lock := by
    intro message
    cases live : s.isLive with
    | false => exact .inr ⟨nofun, s, ask_refused live message, rfl, rfl⟩
    | true =>
      cases deserted : s.lanes.deserted with
      | false => exact .inl ⟨⟨rfl, rfl⟩, _, _, ask_of_taken live deserted message, rfl, rfl⟩
      | true => exact .inr ⟨nofun, s, ask_of_deserted live deserted message, rfl, rfl⟩
  unfold blockingAsk at asks
  split at asks
  · cases asks; exact posted _
  · cases asks; exact posted _
  · cases asks
    cases live : s.isLive with
    | false => exact .inr ⟨nofun, s, askShutdown_refused live, rfl, rfl⟩
    | true =>
      cases deserted : s.lanes.deserted with
      | false =>
        refine .inl ⟨⟨rfl, rfl⟩, .shutdown (some s.nextQuery), ?_⟩
        simp [askShutdown, beginShutdown_of_taken live deserted, withdrawSweep_eq]
      | true =>
        refine .inr ⟨nofun, ?_⟩
        simp [askShutdown, beginShutdown_of_deserted live deserted, withdrawSweep_eq]
  · cases asks

/-- The owning thread never waits for itself. -/
theorem perform_on_loop (access : EngineAccess) {a : Action}
    {ask : Session → Except Failure Nat × Session} (asks : blockingAsk a = some ask)
    (s : Session) : (perform access .loop a s).1 ≠ .ok .stuck := by
  unfold blockingAsk at asks
  split at asks
  · simp [perform, askFrom]
  · simp [perform, askFrom]
  · unfold perform shutdownFrom
    simp only [if_true]
    split <;> simp
  · cases asks

/-- Any other thread waits when its message has been posted. -/
theorem perform_elsewhere {access : EngineAccess} {thread : Thread} (other : thread ≠ .loop)
    {a : Action} {ask : Session → Except Failure Nat × Session} (asks : blockingAsk a = some ask)
    (s : Session) : perform access thread a s =
      match ask s with
      | (.ok _, t) => (.ok .stuck, t)
      | (.error f, t) => (.ok (.failed f), t) := by
  unfold blockingAsk at asks
  split at asks
  · cases asks
    rw [perform]
    exact if_neg other
  · cases asks
    rw [perform]
    exact if_neg other
  · cases asks
    rw [perform]
    exact if_neg other
  · cases asks

/-! ## The loop waits, too -/

/-- The shutdown comes to its last sweep, whether jobs are left or not, with the lock as it was if
another thread keeps it. -/
theorem going_of_terminate {bound : Nat} {query : Option Nat}
    (d : s.terminate bound query = some t) : s.isKeptOut = false := by
  by_contra out
  have held : s.clear.lock ≠ .free := by
    rw [clear_lock]
    intro free
    simp [isKeptOut, free, Lock.free] at out
  obtain ⟨u, drained, d⟩ := terminate_cases d
  have same : u.lock = s.lock := by
    rcases drained with ⟨-, rfl⟩ | drained
    · exact clear_lock s
    · exact (drain_held held drained).trans (clear_lock s)
  obtain ⟨v, swept, -⟩ := Option.bind_eq_some_iff.1 d
  have going : (u.record .lastSweep).isKeptOut = false := going_of_withEngine swept
  have going : u.lock.holder.any (· ≠ .loop) = false := going
  rw [same] at going
  exact out going

/-- A loop that answers a call has not been kept out by another thread. -/
theorem going_of_call {bound : Nat} {m : Message} (call : m.isCall = true)
    (d : s.handle bound m = some t) : s.isKeptOut = false := by
  cases m with
  | script source name query =>
    obtain ⟨r, ran, -⟩ := Option.bind_eq_some_iff.1 d
    exact going_of_withEngineResult ran
  | require path query =>
    obtain ⟨r, ran, -⟩ := Option.bind_eq_some_iff.1 d
    exact going_of_withEngineResult ran
  | shutdown query => exact going_of_terminate d
  | _ => cases call

/-! ## The lock stays with its holder -/

/-- The execution lock is with a thread, and stays there whatever any other code, the loop and the
helpers do. The loop is not given the engine; where it is not the holder itself it stands still as
soon as it needs it, and so it answers no call. -/
structure HeldFor (thread : Thread) (s : Session) : Prop where
  holder : s.lock = ⟨some thread⟩
  code : ∀ {other t}, Deeds other s t → t.lock = s.lock
  loop : ∀ {bound m t}, s.handle bound m = some t → t.lock = s.lock
  helpers : ∀ {bound t}, s.runHelpers bound = some t → t.lock = s.lock
  engine : ∀ f : Session → Session, s.withEngine f = if thread = .loop then some s else none
  calls : thread ≠ .loop → ∀ {bound m}, m.isCall = true → s.handle bound m = none

theorem held_for {thread : Thread} (holder : s.lock = ⟨some thread⟩) : s.HeldFor thread := by
  have held : s.lock ≠ .free := by rw [holder]; exact nofun
  have out : s.isKeptOut = decide (thread ≠ .loop) := by simp [isKeptOut, holder]
  exact {
    holder := holder
    code := fun d => deeds_held d held
    loop := fun d => handle_held held d
    helpers := fun d => runHelpers_held held d
    engine := fun f => by
      rw [withEngine_eq, out, engaged_held held]
      by_cases owning : thread = .loop <;> simp [owning]
    calls := fun other bound m call => by
      refine Option.eq_none_iff_forall_ne_some.2 fun t d => ?_
      have going := going_of_call call d
      rw [out, decide_eq_false_iff_not] at going
      exact going other }

/-- A thread that holds the lock and asks for a script, a path or the shutdown waits exactly if it
is not the owning thread and its message is posted. It then waits for an answer of the loop with the
lock in its hands, and nobody but itself can release it. -/
theorem waits_with_lock {access : EngineAccess} {thread : Thread} {a : Action}
    {ask : Session → Except Failure Nat × Session} (asks : blockingAsk a = some ask)
    (holder : s.lock = ⟨some thread⟩) :
    ((perform access thread a s).1 = .ok .stuck ↔
      thread ≠ .loop ∧ s.isLive = true ∧ s.lanes.deserted = false) ∧
    ((perform access thread a s).1 = .ok .stuck →
      (∃ m, (perform access thread a s).2.lanes.ordinary = s.lanes.ordinary ++ [m]) ∧
        (perform access thread a s).2.HeldFor thread) := by
  by_cases owning : thread = .loop
  · subst owning
    have never := perform_on_loop access asks s
    exact ⟨⟨fun waits => absurd waits never, fun other => absurd rfl other.1⟩,
      fun waits => absurd waits never⟩
  · rw [perform_elsewhere owning asks s]
    rcases asked_cases asks s with ⟨taken, m, t, asked, line, lock⟩ | ⟨refused, t, asked, -, -⟩
    · rw [asked]
      exact ⟨⟨fun _ => ⟨owning, taken⟩, fun _ => rfl⟩,
        fun _ => ⟨⟨m, line⟩, held_for (lock.trans holder)⟩⟩
    · rw [asked]
      exact ⟨⟨nofun, fun taken => absurd taken.2 refused⟩, nofun⟩

/-- The host takes the lock of a session that is ready and asks for a script: it waits with the lock
in its hands, and so does a helper that asks for the shutdown in a job. -/
theorem waits_with_lock_locked :
    ∃ s t, Reached (plain (starting [])) .loop s ∧ takeLock .host s = .ok t ∧
      (perform engineAccess .host (.script "s" "n") t).1 = .ok .stuck ∧
      (perform engineAccess .host (.script "s" "n") t).2.HeldFor .host ∧
      (perform engineAccess .helper .shutdown { s with lock := ⟨some .helper⟩ }).1 =
        .ok .stuck := by
  obtain ⟨s, r, found⟩ := @Fresh.scenario (plain (starting [])) 50 []
    (fun s => decide (s.isLive = true ∧ s.lock = .free ∧ s.lanes.deserted = false))
    (plain_fresh _) (by decide +kernel)
  obtain ⟨live, free, taken⟩ := of_decide_eq_true found
  obtain ⟨waits, held⟩ := @waits_with_lock { s with lock := ⟨some .host⟩ } engineAccess .host
    (.script "s" "n") _ rfl rfl
  have stuck := waits.2 ⟨nofun, live, taken⟩
  obtain ⟨waits', -⟩ := @waits_with_lock { s with lock := ⟨some .helper⟩ } engineAccess .helper
    .shutdown _ rfl rfl
  exact ⟨s, _, r, takeLock_eq_ok.2 ⟨live, free, rfl⟩, stuck, (held stuck).2,
    waits'.2 ⟨nofun, live, taken⟩⟩

end Session
end ScriptHost
