import ScriptHost.Proofs.NextTick
import ScriptHost.Proofs.Partition

/-!
# What shutdown releases

The last message empties the tables of timers and listeners into the line for its sweep, and nothing
is entered any more. It does not reach the requests: the pairs of a request whose completion has not
come to the loop by then stay in custody for ever.

## Main definitions

* `Session.Cleared` — the tables are empty and stay empty.

## Main statements

* `Session.Deeds.cleared` — code enters nothing any more.
* `Session.Reached.released_at_end` — behind the end of the loop, custody has the pairs of requests
  that were not delivered, and what a sweep without the lock has left in line.
-/

namespace ScriptHost
namespace Session

variable {o s t : Session} {buried : List Pair}

/-- No work is accepted, the tables of timers and listeners are empty, and these pairs are in
line. -/
structure Cleared (buried : List Pair) (s : Session) : Prop where
  refuses : s.phase.isLive = false
  timers : s.timers.live = []
  listeners : s.listeners = .empty
  line : s.custody.buried = buried

namespace Cleared

theorem not_live (h : s.Cleared buried) (live : s.isLive = true) : False := by
  simp only [isLive, h.refuses, Bool.false_and] at live
  cases live

theorem armSweep (h : s.Cleared buried) (periodic : Bool) :
    (s.armSweep periodic).Cleared buried := by
  rcases armSweep_cases s periodic with eq | eq | ⟨-, eq⟩ <;> rw [eq]
  · exact h
  · exact ⟨h.refuses, h.timers, h.listeners, h.line⟩
  · exact ⟨h.refuses, h.timers, h.listeners, h.line⟩

theorem workers (buried : List Pair) : KeptByWorkers fun s => s.Cleared buried where
  counted _ h := ⟨h.refuses, h.timers, h.listeners, h.line⟩
  held _ h := ⟨h.refuses, h.timers, h.listeners, h.line⟩
  posted _ _ h := ⟨h.refuses, h.timers, h.listeners, h.line⟩
  dropped _ h := ⟨h.refuses, h.timers, h.listeners, h.line⟩
  errands _ h := ⟨h.refuses, h.timers, h.listeners, h.line⟩
  transported _ h := ⟨h.refuses, h.timers, h.listeners, h.line⟩
  sent _ h := ⟨h.refuses, h.timers, h.listeners, h.line⟩

end Cleared

/-- Nothing is entered any more, whatever code does. -/
theorem Deeds.cleared {thread : Thread} (d : Deeds thread s t) (h : s.Cleared buried) :
    t.Cleared buried := by
  induction d with
  | none s => exact h
  | trans _ _ ih ih' => exact ih' (ih h)
  | aside aside =>
    obtain ⟨_, _, _, _, _, _, _, -, -, rfl⟩ := aside
    exact ⟨h.refuses, h.timers, h.listeners, h.line⟩
  | post s _ => exact ⟨h.refuses, h.timers, h.listeners, h.line⟩
  | arm s delay work => exact ⟨h.refuses, h.timers, h.listeners, h.line⟩
  | schedule s door pair delay recurring =>
    rcases schedule_cases s door pair delay recurring with eq | ⟨t, live, -⟩
    · rw [eq]
      exact h
    · exact (h.not_live live).elim
  | cancel s door id =>
    rcases cancel_cases s door id with eq | ⟨timer, found, -⟩
    · rw [eq]
      exact h
    · simp [Timers.find?, h.timers] at found
  | enqueue s door noThreads job =>
    rcases enqueue_cases s door thread noThreads job with eq | ⟨live, -⟩
    · rw [eq]
      exact h
    · exact (h.not_live live).elim
  | issue s door noThreads order =>
    rcases issue_cases s door noThreads order with eq | ⟨t, live, -⟩
    · rw [eq]
      exact h
    · exact (h.not_live live).elim
  | release s key => exact (Cleared.workers buried).release key h
  | listen s door event pair =>
    rcases listen_cases s door event pair with eq | ⟨t, live, -⟩
    · rw [eq]
      exact h
    · exact (h.not_live live).elim
  | unlisten s door event =>
    have still : (({ s with listeners := s.listeners.off event } : Session).buryAll
        (s.listeners.of event)).Cleared buried := by
      have off : s.listeners.off event = .empty := by
        rw [h.listeners]
        rfl
      have none : s.listeners.of event = [] := by
        rw [h.listeners]
        rfl
      rw [off, none]
      exact ⟨h.refuses, h.timers, rfl, h.line⟩
    rcases unlisten_cases s door event with eq | eq | eq <;> rw [eq]
    · exact h
    · exact still
    · exact still.armSweep false
  | pause s =>
    rcases pause_cases s with eq | ⟨ready, -⟩
    · rw [eq]
      exact h
    · have refuses := h.refuses
      rw [ready] at refuses
      cases refuses
  | unpause s =>
    rcases unpause_cases s with eq | ⟨paused, -⟩
    · rw [eq]
      exact h
    · have refuses := h.refuses
      rw [paused] at refuses
      cases refuses
  | shutdown s query =>
    rcases beginShutdown_cases s query with eq | ⟨live, -⟩
    · rw [eq]
      exact h
    · exact (h.not_live live).elim
  | guarded take _ _ =>
    obtain ⟨live, -⟩ := takeLock_eq_ok.1 take
    exact (h.not_live live).elim
  | leak take =>
    obtain ⟨live, -⟩ := takeLock_eq_ok.1 take
    exact (h.not_live live).elim
  | called s callback before => exact ⟨h.refuses, h.timers, h.listeners, h.line⟩

theorem cleared_kept (buried : List Pair) : KeptByDrains (Cleared buried) where
  deeds d h := d.cleared h
  lock _ h := ⟨h.refuses, h.timers, h.listeners, h.line⟩
  ready _ initializing h := by
    have refuses := h.refuses
    rw [initializing] at refuses
    cases refuses
  ticks _ h := ⟨h.refuses, h.timers, h.listeners, h.line⟩
  helpers _ h := ⟨h.refuses, h.timers, h.listeners, h.line⟩
  begun _ _ h := ⟨h.refuses, h.timers, h.listeners, h.line⟩

/-! ## The last message -/

theorem clear_cleared (s : Session) : ∃ buried, s.clear.Cleared buried := by
  obtain ⟨alarms, -, eq⟩ := clear_eq s
  rw [eq]
  exact ⟨_, rfl, rfl, rfl, rfl⟩

/-- The last message leaves the tables empty, and nothing in line if it gets the lock. -/
theorem terminate_cleared {bound : Nat} {query : Option Nat}
    (d : s.terminate bound query = some t) :
    ∃ buried, t.Cleared buried ∧ (t.lock = .free → buried = []) := by
  obtain ⟨u, drained, d⟩ := terminate_cases d
  obtain ⟨buried, cleared⟩ := clear_cleared s
  have left : u.Cleared buried := by
    rcases drained with ⟨-, rfl⟩ | drained
    · exact cleared
    · exact (cleared_kept buried).drain cleared drained
  have eq := eq_finish d
  -- The last sweep is skipped if somebody holds the lock, and then the line stays as it is.
  by_cases free : u.lock = .free
  · rw [engaged_free (by exact free)] at eq
    obtain ⟨released, failures, swept, -⟩ :=
      sweepGraveyard_eq { u.record .lastSweep with lock := ⟨some .loop⟩ }
    rw [swept] at eq
    rw [eq]
    exact ⟨[], ⟨rfl, left.timers, left.listeners, rfl⟩, fun _ => rfl⟩
  · rw [engaged_held (by exact free)] at eq
    rw [eq]
    exact ⟨buried, ⟨rfl, left.timers, left.listeners, left.line⟩, fun lock => absurd lock free⟩

/-! ## The course of a session -/

namespace Reached

variable {turn : Turn}

/-- Behind the end of the loop nothing is entered any more. -/
theorem cleared (up : o.bringUp.loop = .running) (r : Reached o turn s) (ended : s.loop = .ended) :
    ∃ buried, s.Cleared buried ∧ (s.lock = .free → buried = []) := by
  induction r with
  | broughtUp => cases up.symm.trans ended
  | @handled turn s t m lanes bound _ _ running _ h ih =>
    by_cases last : ∃ query, m = .shutdown query
    · obtain ⟨query, rfl⟩ := last
      exact terminate_cleared h
    · have loop := handle_loop (fun query same => last ⟨query, same⟩) h
      cases running.symm.trans (loop.symm.trans ended)
  | waited _ _ ih => exact ih ended
  | @helped turn s t bound _ h ih =>
    obtain ⟨buried, cleared, swept⟩ := ih ((runHelpers_loop h).symm.trans ended)
    refine ⟨buried, (cleared_kept buried).runHelpers cleared h, fun free => swept ?_⟩
    exact free_before (fun held => runHelpers_held held h) free
  | due _ ih =>
    obtain ⟨buried, h, swept⟩ := ih ended
    exact ⟨buried, ⟨h.refuses, h.timers, h.listeners, h.line⟩, swept⟩
  | passed _ _ ih =>
    obtain ⟨buried, h, swept⟩ := ih ended
    exact ⟨buried, ⟨h.refuses, h.timers, h.listeners, h.line⟩, swept⟩
  | @acted s _ _ a ih =>
    have d := act_deeds a s
    obtain ⟨buried, cleared, swept⟩ := ih (d.loop.symm.trans ended)
    exact ⟨buried, d.cleared cleared, fun free => swept (free_before (deeds_held d) free)⟩
  | @asked s a ask _ _ asks ih =>
    have d := blockingAsk_deeds asks s
    obtain ⟨buried, cleared, swept⟩ := ih (d.loop.symm.trans ended)
    exact ⟨buried, d.cleared cleared, fun free => swept (free_before (deeds_held d) free)⟩
  | dropped _ _ ih =>
    obtain ⟨buried, h, swept⟩ := ih ended
    exact ⟨buried, ⟨h.refuses, h.timers, h.listeners, h.line⟩, swept⟩

/-- When the loop has ended in order, the pairs in custody are those of the requests whose
completion has not come to the loop or was refused, and those that a last sweep without the lock has
left in line. So custody is empty exactly if there are none of these, and then every registration
has been released once; each other one has not been released at all. -/
theorem released_at_end (p : Fresh o) (up : o.bringUp.loop = .running) (r : Reached o turn s)
    (ended : s.loop = .ended) :
    s.custody.live.Perm
        (s.custody.buried ++ (s.journal.outstanding ++ s.journal.dropped).flatMap Call.pairs) ∧
      (s.lock = .free → s.custody.buried = []) ∧
      (s.custody.live = [] ↔
        s.custody.buried = [] ∧ s.journal.outstanding = [] ∧ s.journal.dropped = []) ∧
      (s.custody.live = [] ↔ s.journal.registered.Perm (disposals s.log)) ∧
      s.custody.live.Nodup ∧ ∀ pair, s.journal.registered.count pair =
        (disposals s.log).count pair + s.custody.live.count pair := by
  have h := (r.owned p).balanced
  obtain ⟨buried, cleared, swept⟩ := r.cleared up ended
  have owners : s.owners = s.custody.buried ++
      (s.journal.outstanding ++ s.journal.dropped).flatMap Call.pairs := by
    have none : s.listeners.all = [] := by
      rw [cleared.listeners]
      rfl
    simp only [Session.owners, cleared.timers, none, List.map_nil, List.nil_append,
      List.flatMap_append, List.append_assoc]
  have perm : s.custody.live.Perm (s.custody.buried ++
      (s.journal.outstanding ++ s.journal.dropped).flatMap Call.pairs) := by
    rw [← owners]
    exact (List.perm_iff_count.2 fun pair => h.owned pair).symm
  have kept : ∀ pair, s.journal.registered.count pair =
      (disposals s.log).count pair + s.custody.live.count pair := by
    intro pair
    have disposed : disposals s.log = s.journal.swept := h.disposed
    rw [disposed]
    exact h.kept pair
  have pairs : ∀ calls : List Call, calls.flatMap Call.pairs = [] ↔ calls = [] := by
    intro calls
    cases calls with
    | nil => simp
    | cons call rest => simp [Call.pairs]
  refine ⟨perm, fun free => cleared.line.trans (swept free), ⟨fun empty => ?_, ?_⟩, ⟨?_, ?_⟩,
    h.nodup, kept⟩
  · rw [empty, List.nil_perm, List.append_eq_nil_iff, pairs, List.append_eq_nil_iff] at perm
    exact perm
  · rintro ⟨line, outstanding, dropped⟩
    rw [line, outstanding, dropped] at perm
    exact perm.eq_nil
  · intro empty
    refine List.perm_iff_count.2 fun pair => ?_
    rw [kept, empty, List.count_nil, Nat.add_zero]
  · intro same
    refine List.eq_nil_iff_forall_not_mem.2 fun pair mem => ?_
    have count := kept pair
    rw [same.count_eq pair] at count
    have some := List.count_pos_iff.2 mem
    omega

end Reached

/-- An engine that does nothing, with a transport. -/
def connected : Program := { (default : Program) with hasTransport := true }

/-- A request whose completion is held back until shutdown leaves its pairs in custody. -/
theorem released_at_end_connected :
    ∃ s, Reached (plain connected) .loop s ∧ s.loop = .ended ∧
      s.custody.live = [⟨1, 3⟩, ⟨2, 3⟩] ∧ disposals s.log = [] ∧
      s.custody.live.Perm
        (s.custody.buried ++ (s.journal.outstanding ++ s.journal.dropped).flatMap Call.pairs) := by
  have up : (plain connected).bringUp.loop = .running := by decide +kernel
  obtain ⟨s, r, found⟩ := @Fresh.scenario (plain connected) 50
    [.act (.request .handle false
      ⟨⟨"http://h/", none, "GET", false⟩, 1, 2, 3, .completes .clientFailure, some "k"⟩),
      .act .shutdown]
    (fun s => decide (s.loop = .ended ∧ s.custody.live = [⟨1, 3⟩, ⟨2, 3⟩] ∧ disposals s.log = []))
    (plain_fresh _) (by decide +kernel)
  obtain ⟨ended, live, none⟩ := of_decide_eq_true found
  exact ⟨s, r, ended, live, none,
    (Reached.released_at_end (plain_fresh connected) up r ended).1⟩

end Session
end ScriptHost
