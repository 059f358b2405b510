import Mathlib.Data.List.Perm.Subperm
import ScriptHost.Proofs.Ownership

/-!
# Every pair in custody has one owner

Between two messages each pair in custody is the pair of one timer, of one place among the
listeners, of one place in line for the next sweep, or of one of the two callbacks of a request that
has not been delivered or whose completion was refused.

## Main definitions

* `Session.owners` — the pairs of a session, owner by owner.

## Main statements

* `Session.handle_owned` — a message keeps the ledger balanced.
* `Session.Reached.owned` — so does the course of a session.
* `Session.Reached.one_owner` — the owners are the pairs in custody, each once.
-/

namespace ScriptHost
namespace Session

variable {o s t : Session} {fired : Option Timer} {hand base : List Pair}

/-- The pairs of a session, owner by owner. -/
def owners (s : Session) : List Pair :=
  s.timers.live.map Timer.pair ++ s.listeners.all ++ s.custody.buried ++
    s.journal.outstanding.flatMap Call.pairs ++ s.journal.dropped.flatMap Call.pairs

/-! ## What the loop does with code -/

theorem owned_kept : KeptByDrains (Owned fired hand base) where
  deeds d h := d.owned h
  lock _ h := ⟨h.balanced, h.based⟩
  ready _ _ h := ⟨h.balanced, h.based⟩
  ticks _ h := ⟨h.balanced, h.based⟩
  helpers _ h := ⟨h.balanced, h.based⟩
  begun := by
    intro s job thread h
    have same : disposals (.job job.tag thread :: s.log) = disposals s.log := by simp [disposals]
    exact ⟨{ h.balanced with disposed := same.trans h.balanced.disposed }, h.based⟩

/-- Which pairs are known to be in custody is a matter of view. -/
theorem Owned.rebase (h : Owned fired hand base s) {base' : List Pair}
    (sub : base' ⊆ s.custody.live) : Owned fired hand base' s := ⟨h.balanced, sub⟩

/-- A pair that is in custody is not refused. -/
theorem Owned.refuse {pair : Pair} (mem : pair ∈ base) (h : Owned fired hand base s)
    (dead : s.custody.isLive pair = false) :
    Owned fired hand base (s.record (.refused pair)) := by
  have live : pair ∈ s.custody.live := h.based mem
  simp [Custody.isLive, live] at dead

theorem Owned.invoked {pair : Pair} (h : Owned fired hand base s) (live : pair ∈ s.custody.live)
    (arguments : List Json.Value) :
    Owned fired hand [] (s.engaged fun s => (s.invokeLive .loop pair arguments).2) := by
  have based : Owned fired hand [pair] s := h.rebase (by simpa using live)
  have invoked := owned_kept.engaged (f := fun s => (s.invokeLive .loop pair arguments).2)
    (fun _ h => owned_kept.invokeLive (fun h => h.refuse (by simp)) .loop arguments h) based
  exact invoked.rebase (by simp)

theorem Owned.sweepGraveyard (h : Owned none hand base s) :
    Owned none hand [] s.sweepGraveyard.2 := by
  obtain ⟨released, failures, eq, all⟩ := s.sweepGraveyard_eq
  obtain rfl := all h.balanced.buried_nodup h.balanced.buried_subset
  rw [eq]
  have same : disposals ((s.custody.buried.map Entry.dispose).reverse ++ s.log) =
      disposals s.log ++ s.custody.buried := by
    simp [disposals, List.filterMap_map]
  refine ⟨?_, by simp⟩
  have swept := h.balanced.sweep
  exact { swept with disposed := same.trans swept.disposed }

/-! ## Messages -/

theorem Owned.taken {m : Message} {lanes : Lanes Message} (h : Owned fired hand base s)
    (next : s.lanes.next? = some (m, lanes)) : Owned fired hand base { s with lanes } := by
  refine h.lanes fun c => ?_
  have perm := ((Lanes.messages_next next).filterMap Message.call?).count_eq c
  have sub := ((List.sublist_cons_self m lanes.messages).filterMap Message.call?).count_le c
  exact Nat.le_trans sub (Nat.le_of_eq perm.symm)

theorem Owned.fireTimer {id : Nat} (h : Owned none [] [] s) (d : s.fireTimer id = some t) :
    Owned none [] [] t := by
  rcases fireTimer_cases d with ⟨-, eq⟩ | ⟨timer, found, rfl, cases⟩
  · rw [eq]
    exact h
  obtain ⟨mem, -⟩ := Ledger.find?_mem found
  have begun : Owned (some timer) [] [] { s with timers := s.timers.firing timer } :=
    ⟨h.balanced.begin mem, by simp⟩
  have live : timer.pair ∈ s.custody.live := h.balanced.timer_live mem
  have called : Owned (some timer) [] [] (s.called timer) := begun.invoked live []
  rcases cases with ⟨live, -, -, eq⟩ | eq <;> rw [eq]
  · have rearmed := called.balanced.rearm (Ledger.mem_ids_of_isLive live)
      (s.called timer).lanes.nextTicket
    refine Owned.arm ?_ timer.delay (m := .fire timer.id) rfl
    exact ⟨rearmed, by simp⟩
  · refine Owned.bury ?_
    exact ⟨called.balanced.retire, by simp⟩

/-- A completion that is taken from the queue is one of those underway. -/
theorem underway_next {call : Call} {completion : Completion} {lanes : Lanes Message}
    (next : s.lanes.next? = some (.complete call completion, lanes)) :
    s.ledger.underway.Perm
      (call :: (s.errands.map Errand.call ++ s.held.map (·.2.1) ++ callsIn lanes)) := by
  have taken := (Lanes.messages_next next).filterMap Message.call?
  exact (taken.append_left _).trans List.perm_middle

/-- The completion of a request has come to the loop: its pairs are at hand. -/
theorem Owned.received {call : Call} {completion : Completion} {lanes : Lanes Message}
    (h : Owned none [] [] s) (next : s.lanes.next? = some (.complete call completion, lanes)) :
    Owned none call.pairs [] (({ s with lanes } : Session).arrived call) := by
  have delivered := h.balanced.deliver (underway_next next)
  rw [List.append_nil] at delivered
  exact ⟨delivered, by simp⟩

theorem delivery_mem (call : Call) (completion : Option Completion) :
    (call.delivery completion).1 ∈ call.pairs := by
  simp only [Call.delivery, Call.pairs]
  split <;> simp

theorem Owned.deliver {call : Call} {completion : Completion} {lanes : Lanes Message}
    (h : Owned none [] [] s) (next : s.lanes.next? = some (.complete call completion, lanes))
    (d : { s with lanes }.deliver call completion = some t) : Owned none [] [] t := by
  have received := h.received next
  have invoked := received.invoked (received.balanced.hand_live (delivery_mem call completion))
    (call.delivery (some completion)).2
  rw [← List.append_nil call.pairs] at invoked
  rw [eq_deliver d]
  exact invoked.buryAll

theorem Owned.clear (h : Owned none [] [] s) : Owned none [] [] s.clear := by
  obtain ⟨alarms, sub, eq⟩ := clear_eq s
  have resting : s.timers.running = none := h.balanced.running
  have all : s.timers.clear.1 = s.timers.live := by simp [Timers.clear, resting]
  rw [eq, all]
  refine Owned.buryAll ?_
  have withdrawn := h.alarms sub
  exact ⟨withdrawn.balanced.clear, by simp⟩

theorem Owned.desert (h : Owned fired hand base s) :
    Owned fired hand base { s with lanes := s.lanes.desert } :=
  h.lanes fun _ => Nat.zero_le _

theorem Owned.finish {query : Option Nat} (h : Owned none [] [] s) (d : s.finish query = some t) :
    Owned none [] [] t := by
  have eq := eq_finish d
  have noted : Owned none [] [] (s.record .lastSweep) := ⟨h.balanced, h.based⟩
  have swept := owned_kept.engaged (fun _ h => h.sweepGraveyard) noted
  have deserted := swept.desert
  rw [eq]
  exact ⟨deserted.balanced, deserted.based⟩

theorem Owned.terminate {bound : Nat} {query : Option Nat} (h : Owned none [] [] s)
    (d : s.terminate bound query = some t) : Owned none [] [] t := by
  obtain ⟨u, ⟨-, rfl⟩ | drained, d⟩ := terminate_cases d
  · exact h.clear.finish d
  · exact (owned_kept.drain h.clear drained).finish d

/-- Whatever message is handled, the ledger is balanced afterwards. -/
theorem handle_owned {bound : Nat} {m : Message} {lanes : Lanes Message} (h : Owned none [] [] s)
    (next : s.lanes.next? = some (m, lanes)) (d : { s with lanes }.handle bound m = some t) :
    Owned none [] [] t := by
  have taken := h.taken next
  by_cases routine : m.isRoutine = true
  · -- The listeners have their pairs in custody, and code takes no pair out of it.
    have sub : s.listeners.all ⊆ s.custody.live := h.balanced.listeners_live
    have based : Owned none [] s.listeners.all { s with lanes } := taken.rebase sub
    refine Owned.rebase
      (owned_kept.routine routine (fun event value _ pair mem => ?_) ?_ based d) (by simp)
    · intro t h dead
      exact h.refuse (s.listeners.of_subset_all event mem) dead
    · exact fun _ => owned_kept.drain based
  cases m with
  | sweep =>
    rw [eq_handleSweep d]
    have swept := owned_kept.engaged (fun _ h => h.sweepGraveyard) taken
    exact owned_sweeps.armSweep true swept
  | fire id => exact taken.fireTimer d
  | complete call completion => exact h.deliver next d
  | shutdown query => exact taken.terminate d
  | _ => exact absurd rfl routine

/-! ## The course of a session -/

theorem Fresh.owned (p : Fresh o) : Owned none [] [] o := by
  refine p.induct (fun _ _ _ _ => ⟨?_, by simp⟩) fun d h => d.owned h
  exact
    { nodup := List.nodup_nil
      owned := fun _ => rfl
      ids := List.nodup_nil
      below := nofun
      running := rfl
      firing := nofun
      events := List.nodup_nil
      calls := fun _ => Nat.le_refl _
      flying := rfl
      refused := rfl
      disposed := rfl
      kept := fun _ => rfl }

theorem Fresh.broughtUp_owned (p : Fresh o) : Owned none [] [] o.bringUp := by
  obtain ⟨u, d, eq⟩ := bringUp_cases o
  have h := d.owned p.owned
  rcases eq with eq | eq | eq <;> rw [eq]
  · have deserted : Owned none [] [] { u with lanes := u.lanes.close.desert } :=
      h.lanes fun _ => Nat.zero_le _
    exact ⟨deserted.balanced, by simp⟩
  · have deserted := h.desert
    exact ⟨deserted.balanced, by simp⟩
  · have unlocked : Owned none [] [] u.unlock := ⟨h.balanced, by simp⟩
    have armed := owned_sweeps.armSweep true (unlocked.postUrgent (m := .ready) rfl)
    exact ⟨armed.balanced, by simp⟩

theorem owned_steady : Steady (Owned none [] []) where
  deeds d h := d.owned h
  helped h d := owned_kept.runHelpers h d
  due h := h.lanes fun c =>
    Nat.le_of_eq (((Lanes.messages_deliverDue ..).filterMap Message.call?).count_eq c)
  passed _ h := ⟨h.balanced, h.based⟩
  dropped h := h.forsake

namespace Reached

variable {turn : Turn}

/-- The ledger is balanced between any two messages. -/
theorem owned (p : Fresh o) (r : Reached o turn s) : Owned none [] [] s :=
  r.invariant owned_steady p.broughtUp_owned fun h next d => handle_owned h next d

/-- Between two messages every pair in custody has one owner, and owners have pairs in custody only:
the owners are a timer, a place among the listeners, a place in line for the next sweep, or one of
the two callbacks of a request that is on its way or whose completion was refused. What waits for
a worker, is held back, or waits for the loop are requests on their way. No callback has been
invoked that was not in custody, and no pair swept. -/
theorem one_owner (p : Fresh o) (r : Reached o turn s) :
    s.custody.live.Nodup ∧ s.owners.Perm s.custody.live ∧
      s.statistics.livePairs = s.statistics.liveTimers + s.statistics.listeners +
        s.statistics.graveyard + 2 * s.statistics.inFlight + 2 * s.journal.dropped.length ∧
      s.statistics.inFlight = s.journal.outstanding.length ∧
      (s.errands.map Errand.call ++ s.held.map (·.2.1) ++ callsIn s.lanes).Subperm
        s.journal.outstanding ∧
      s.journal.refused = [] ∧ disposals s.log = s.journal.swept := by
  have h := (r.owned p).balanced
  have perm : s.owners.Perm s.custody.live := by
    refine List.perm_iff_count.2 fun pair => ?_
    exact h.owned pair
  have two : ∀ calls : List Call, (calls.flatMap Call.pairs).length = 2 * calls.length := by
    intro calls
    induction calls with
    | nil => rfl
    | cons call rest ih =>
      simp only [List.flatMap_cons, List.length_append, ih, Call.pairs, List.length_cons,
        List.length_nil]
      omega
  have length := perm.length_eq
  have flying : s.traffic.inFlight = s.journal.outstanding.length := h.flying
  refine ⟨h.nodup, perm, ?_, flying, ?_, h.refused, h.disposed⟩
  · simp only [owners, List.length_append, List.length_map, two] at length
    simp only [statistics, Listeners.count, flying]
    omega
  · exact List.subperm_ext_iff.2 fun call _ => h.calls call

end Reached

/-- An engine that enters pairs for a timer, for two events and for a request while it is brought
up, and drops one of the events again. -/
def owning : Program where
  bringUp :=
    [.schedule .handle ⟨1, 9⟩ 5 false, .on .handle "e" ⟨2, 9⟩, .on .handle "f" ⟨3, 9⟩,
      .off .handle "f",
      .request .handle false
        ⟨⟨"http://h/", none, "GET", false⟩, 4, 5, 9, .completes .clientFailure, some "k"⟩]
  scripts := []
  callbacks := []
  failDispose := []
  panicDispose := []
  hasTransport := true

theorem one_owner_owning :
    (plain owning).bringUp.owners.Perm [⟨1, 9⟩, ⟨2, 9⟩, ⟨3, 9⟩, ⟨4, 9⟩, ⟨5, 9⟩] := by
  obtain ⟨-, perm, -⟩ := Reached.one_owner (plain_fresh owning) .broughtUp
  have live : (plain owning).bringUp.custody.live =
      [⟨1, 9⟩, ⟨2, 9⟩, ⟨3, 9⟩, ⟨4, 9⟩, ⟨5, 9⟩] := by decide +kernel
  exact perm.trans (.of_eq live)

end Session
end ScriptHost
