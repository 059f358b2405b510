import ScriptHost.Proofs.Undisturbed

/-!
# Bounds that are large enough

The bound on the steps of a loop decides whether it comes to an end, and nothing else: what is
reached with some bound is reached with every larger one.

## Main statements

* `Session.drain_mono`, `Session.runHelpers_mono`, `Session.handle_mono`, `Session.settle_mono`,
  `Session.start_mono` — a larger bound leads to the same state.
* `Session.runHelpers_unique`, `Session.start_unique` — two bounds that are large enough lead to the
  same state.
-/

namespace ScriptHost
namespace Session

variable {thread : Thread} {s t u : Session} {bound bound' : Nat}

theorem drainFrom_mono {executed : Nat} {x : Drained × Session} (le : bound ≤ bound')
    (d : s.drainFrom bound executed thread = some x) :
    s.drainFrom bound' executed thread = some x := by
  induction bound generalizing bound' executed s with
  | zero => cases d
  | succ bound ih =>
    obtain ⟨bound', rfl⟩ : ∃ n, bound' = n + 1 := ⟨bound' - 1, by omega⟩
    have le : bound ≤ bound' := by omega
    unfold drainFrom at d ⊢
    dsimp only at d ⊢
    split at d
    · next none =>
      rw [if_pos none]
      exact d
    next some =>
    rw [if_neg some]
    rcases granted : s.lock.acquire thread with ⟨grant, lock⟩
    rw [granted] at d
    cases grant with
    | granted => exact ih le d
    | reentrant => exact d
    | awaited => exact d

theorem drain_mono (le : bound ≤ bound') (d : s.drain bound thread = some t) :
    s.drain bound' thread = some t := by
  obtain ⟨x, drained, same⟩ := Option.map_eq_some_iff.1 d
  exact Option.map_eq_some_iff.2 ⟨x, drainFrom_mono le drained, same⟩

theorem runHelpers_mono (le : bound ≤ bound') (d : s.runHelpers bound = some t) :
    s.runHelpers bound' = some t := by
  have rounds : ∀ (l : List Nat) {s : Session},
      l.foldlM (fun (s : Session) _ => s.drain bound .helper) s = some t →
        l.foldlM (fun (s : Session) _ => s.drain bound' .helper) s = some t := by
    intro l
    induction l with
    | nil => exact id
    | cons _ rest ih =>
      intro s d
      simp only [List.foldlM_cons, Option.bind_eq_bind, Option.bind_eq_some_iff] at d ⊢
      obtain ⟨u, first, d⟩ := d
      exact ⟨u, drain_mono le first, ih d⟩
  unfold runHelpers at d ⊢
  split at d
  · next none =>
    rw [if_pos none]
    exact d
  · next some =>
    rw [if_neg some]
    exact rounds _ d

theorem terminate_mono {query : Option Nat} (le : bound ≤ bound')
    (d : s.terminate bound query = some t) : s.terminate bound' query = some t := by
  rw [terminate_eq] at d ⊢
  obtain ⟨u, left, d⟩ := Option.bind_eq_some_iff.1 d
  refine Option.bind_eq_some_iff.2 ⟨u, ?_, d⟩
  split at left
  · next none =>
    rw [if_pos none]
    exact left
  · next some =>
    rw [if_neg some]
    exact drain_mono le left

theorem handle_mono {m : Message} (le : bound ≤ bound') (d : s.handle bound m = some t) :
    s.handle bound' m = some t := by
  cases m with
  | drain => exact drain_mono le d
  | shutdown query => exact terminate_mono le d
  | _ => exact d

theorem follow_mono (settled : ∀ {u : Session}, u.settle bound = some t → u.settle bound' = some t)
    (le : bound ≤ bound') (followed : s.follow bound = some t) : s.follow bound' = some t := by
  obtain ⟨u, first, d⟩ := follow_cases followed
  rcases first with ⟨waits, rfl⟩ | ⟨heeds, helped⟩
  · rw [follow, if_pos waits]
    exact settled d
  · rw [follow, if_neg (Bool.eq_false_iff.1 heeds)]
    exact Option.bind_eq_some_iff.2 ⟨u, runHelpers_mono le helped, settled d⟩

theorem settle_mono (le : bound ≤ bound') (d : s.settle bound = some t) :
    s.settle bound' = some t := by
  induction bound generalizing bound' s with
  | zero => cases d
  | succ bound ih =>
    obtain ⟨bound', rfl⟩ : ∃ n, bound' = n + 1 := ⟨bound' - 1, by omega⟩
    have le : bound ≤ bound' := by omega
    rw [settle_succ] at d ⊢
    split at d
    · next ended =>
      rw [if_pos ended]
      exact d
    next running =>
    rw [if_neg running]
    cases next : s.lanes.next? with
    | some taken =>
      rw [next] at d
      obtain ⟨u, handled, d⟩ := Option.bind_eq_some_iff.1 d
      exact Option.bind_eq_some_iff.2 ⟨u, handle_mono le handled, follow_mono (ih le) le d⟩
    | none =>
      rw [next] at d
      cases first : s.lanes.nextDue? with
      | none =>
        rw [first] at d
        exact d
      | some due =>
        rw [first] at d
        dsimp only at d ⊢
        split at d
        · next ripe =>
          rw [if_pos ripe]
          exact ih le d
        · next early =>
          rw [if_neg early]
          exact d

theorem start_mono (le : bound ≤ bound') (d : s.start bound = some t) :
    s.start bound' = some t := by
  rw [start_eq] at d ⊢
  obtain ⟨u, settled, helped⟩ := Option.bind_eq_some_iff.1 d
  exact Option.bind_eq_some_iff.2
    ⟨u, follow_mono (settle_mono le) le settled, runHelpers_mono le helped⟩

theorem runHelpers_unique (d : s.runHelpers bound = some t) (d' : s.runHelpers bound' = some u) :
    t = u := by
  have first := runHelpers_mono (Nat.le_max_left bound bound') d
  rw [runHelpers_mono (Nat.le_max_right bound bound') d'] at first
  exact (Option.some.inj first).symm

theorem start_unique (d : s.start bound = some t) (d' : s.start bound' = some u) : t = u := by
  have first := start_mono (Nat.le_max_left bound bound') d
  rw [start_mono (Nat.le_max_right bound bound') d'] at first
  exact (Option.some.inj first).symm

end Session
end ScriptHost
