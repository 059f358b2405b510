import Mathlib.Data.List.Count
import Mathlib.Data.List.Nodup
import ScriptHost.Proofs.Messages

/-!
# The ledger of pairs

Every pair in custody has one owner: a timer, a listener, a place in line for the next sweep, or a
request that waits for its delivery or has waited in vain. The ledger lists the owners beside the
pairs in custody, and each operation on a table moves a pair from one owner to another.

## Main definitions

* `Ledger` — the pairs in custody and what owns them.
* `Ledger.Balanced` — every pair has one owner; some pairs may be at hand, between two owners, and
  one timer may be firing.

## Main statements

* `Ledger.Balanced.adopt`, `Ledger.Balanced.schedule`, `Ledger.Balanced.cancel`, … — the moves.

## Design notes

Owners are counted: a balanced ledger says of each pair how often it occurs among the owners. A
timer that is cancelled while it fires has left the table, but its pair is retired by the firing;
until then it is an orphan.
-/

namespace ScriptHost

/-- The pairs that wait for a request. -/
def Call.pairs (c : Call) : List Pair := [c.successPair, c.errorPair]

/-- The pairs that entries of the log say were released, the first ones first. -/
def disposals (log : List Entry) : List Pair :=
  log.reverse.filterMap fun
    | .dispose pair => some pair
    | _ => none

theorem mem_of_lookup {κ α : Type} [BEq κ] [LawfulBEq κ] {table : List (κ × α)} {key : κ} {a : α}
    (found : table.lookup key = some a) : (key, a) ∈ table := by
  obtain ⟨before, after, rfl, -⟩ := List.lookup_eq_some_iff.1 found
  simp

theorem Listeners.of_subset_all (l : Listeners) (event : String) : l.of event ⊆ l.all := by
  intro pair mem
  unfold Listeners.of at mem
  cases found : l.entries.lookup event with
  | none =>
    rw [found] at mem
    cases mem
  | some pairs =>
    rw [found] at mem
    exact List.mem_flatMap.2 ⟨(event, pairs), mem_of_lookup found, mem⟩

/-- The pairs in custody and what owns them. -/
structure Ledger where
  live : List Pair
  buried : List Pair
  timers : Timers
  listeners : Listeners
  outstanding : List Call
  dropped : List Call
  /-- The requests that wait for a worker, and those whose completions are held back or wait for the
  loop. -/
  underway : List Call
  inFlight : Nat
  registered : List Pair
  swept : List Pair
  refused : List Pair
  disposed : List Pair

namespace Ledger

/-- The pairs of a ledger, owner by owner. -/
def owners (b : Ledger) : List Pair :=
  b.timers.live.map Timer.pair ++ b.listeners.all ++ b.buried ++
    b.outstanding.flatMap Call.pairs ++ b.dropped.flatMap Call.pairs

/-- The pair of a timer that has been cancelled while it fires. -/
def orphan (fired : Option Timer) (timers : Timers) : List Pair :=
  match fired with
  | none => []
  | some timer => if timer.id ∈ timers.live.map Timer.id then [] else [timer.pair]

/-- Every pair in custody has one owner, while a timer may be firing and some pairs are at hand. -/
structure Balanced (fired : Option Timer) (hand : List Pair) (b : Ledger) : Prop where
  nodup : b.live.Nodup
  owned : ∀ p, b.owners.count p + (orphan fired b.timers).count p + hand.count p = b.live.count p
  ids : (b.timers.live.map Timer.id).Nodup
  below : ∀ timer ∈ b.timers.live, timer.id < b.timers.nextId
  running : b.timers.running = fired.map Timer.id
  firing : ∀ timer ∈ fired, timer.id < b.timers.nextId ∧
    ∀ other ∈ b.timers.live, other.id = timer.id → other.pair = timer.pair
  events : (b.listeners.entries.map Prod.fst).Nodup
  calls : ∀ c, b.underway.count c ≤ b.outstanding.count c
  flying : b.inFlight = b.outstanding.length
  refused : b.refused = []
  disposed : b.disposed = b.swept
  kept : ∀ p, b.registered.count p = b.swept.count p + b.live.count p

/-! ## Keyed lists -/

/-- Taking out the element of a key. -/
theorem perm_cons_filter {α κ : Type} [DecidableEq κ] {key : α → κ} {a : α} {l : List α}
    (nodup : (l.map key).Nodup) (mem : a ∈ l) : (a :: l.filter (key · ≠ key a)).Perm l := by
  induction l with
  | nil => cases mem
  | cons b rest ih =>
    obtain ⟨fresh, nodup⟩ := List.nodup_cons.1 nodup
    rcases List.mem_cons.1 mem with rfl | mem
    · have others : rest.filter (key · ≠ key a) = rest := by
        refine List.filter_eq_self.2 fun c mem => ?_
        have other : key c ≠ key a := fun same => fresh (same ▸ List.mem_map_of_mem mem)
        simpa using other
      simp only [List.filter_cons, ne_eq, not_true_eq_false, decide_false, Bool.false_eq_true,
        if_false]
      rw [show rest.filter (fun c => decide ¬key c = key a) = rest from others]
    · have other : key b ≠ key a := fun same => fresh (same ▸ List.mem_map_of_mem mem)
      simp only [List.filter_cons, ne_eq, other, not_false_eq_true, decide_true, if_true]
      exact (List.Perm.swap ..).trans ((ih nodup mem).cons b)

theorem find?_mem {timers : Timers} {id : Nat} {timer : Timer}
    (found : timers.find? id = some timer) : timer ∈ timers.live ∧ timer.id = id :=
  ⟨List.mem_of_find?_eq_some found, by simpa using List.find?_some found⟩

theorem mem_ids_of_isLive {timers : Timers} {id : Nat} (live : timers.isLive id = true) :
    id ∈ timers.live.map Timer.id := by
  simp only [Timers.isLive, Option.isSome_iff_exists] at live
  obtain ⟨timer, found⟩ := live
  obtain ⟨mem, same⟩ := find?_mem found
  exact same ▸ List.mem_map_of_mem mem

theorem perm_remove {timers : Timers} {timer : Timer} (nodup : (timers.live.map Timer.id).Nodup)
    (mem : timer ∈ timers.live) : (timer :: (timers.remove timer.id).live).Perm timers.live :=
  perm_cons_filter nodup mem

theorem all_insert_perm (event : String) (pair : Pair) (entries : List (String × List Pair)) :
    ((Listeners.insert event pair entries).flatMap (·.2)).Perm (pair :: entries.flatMap (·.2)) := by
  induction entries with
  | nil => rfl
  | cons entry rest ih =>
    obtain ⟨name, pairs⟩ := entry
    by_cases same : name = event
    · simp only [Listeners.insert, same, if_true, List.flatMap_cons, List.append_assoc]
      exact List.perm_middle
    · simp only [Listeners.insert, same, if_false, List.flatMap_cons]
      exact (ih.append_left pairs).trans List.perm_middle

theorem keys_insert (event : String) (pair : Pair) (entries : List (String × List Pair)) :
    (Listeners.insert event pair entries).map Prod.fst =
      if event ∈ entries.map Prod.fst then entries.map Prod.fst
      else entries.map Prod.fst ++ [event] := by
  induction entries with
  | nil => rfl
  | cons entry rest ih =>
    obtain ⟨name, pairs⟩ := entry
    by_cases same : name = event
    · simp [Listeners.insert, same]
    · have other : event ≠ name := Ne.symm same
      rw [Listeners.insert, if_neg same, List.map_cons, List.map_cons, ih]
      by_cases mem : event ∈ rest.map Prod.fst
      · rw [if_pos mem, if_pos (List.mem_cons_of_mem _ mem)]
      · rw [if_neg mem, if_neg (by simpa [other] using mem), List.cons_append]

theorem all_off_perm {listeners : Listeners} (nodup : (listeners.entries.map Prod.fst).Nodup)
    (event : String) :
    (listeners.of event ++ (listeners.off event).all).Perm listeners.all := by
  unfold Listeners.of Listeners.off Listeners.all
  cases found : listeners.entries.lookup event with
  | none =>
    have others : listeners.entries.filter (·.1 ≠ event) = listeners.entries := by
      refine List.filter_eq_self.2 fun entry mem => ?_
      have other := bne_iff_ne.1 (List.lookup_eq_none_iff.1 found entry mem)
      exact decide_eq_true other.symm
    rw [others]
    rfl
  | some pairs =>
    have taken := perm_cons_filter nodup (mem_of_lookup found)
    exact (taken.flatMap_right (·.2))

theorem perm_cons_erase_pairs {call : Call} {calls : List Call} (mem : call ∈ calls) (p : Pair) :
    (calls.flatMap Call.pairs).count p =
      call.pairs.count p + ((calls.erase call).flatMap Call.pairs).count p := by
  have perm := ((List.perm_cons_erase mem).flatMap_right Call.pairs).count_eq p
  rw [perm, List.flatMap_cons, List.count_append]

/-! ## Moves -/

namespace Balanced

variable {fired : Option Timer} {hand : List Pair} {b : Ledger}

/-- What is at hand has no place in line. -/
theorem not_buried (h : Balanced fired hand b) {pair : Pair} (mem : pair ∈ hand) :
    pair ∉ b.buried := by
  intro buried
  have owned := h.owned pair
  have once := List.nodup_iff_count_le_one.1 h.nodup pair
  have at_hand := List.count_pos_iff.2 mem
  have in_line := List.count_pos_iff.2 buried
  simp only [owners, List.count_append] at owned
  omega

theorem mem_live (h : Balanced fired hand b) {pair : Pair} (mem : pair ∈ b.owners) :
    pair ∈ b.live := by
  have owned := h.owned pair
  have some_owner := List.count_pos_iff.2 mem
  exact List.count_pos_iff.1 (by omega)

theorem timer_live (h : Balanced fired hand b) {timer : Timer} (mem : timer ∈ b.timers.live) :
    timer.pair ∈ b.live :=
  h.mem_live (by simp [owners, List.mem_map_of_mem mem])

theorem listeners_live (h : Balanced fired hand b) : b.listeners.all ⊆ b.live :=
  fun _ mem => h.mem_live (by simp [owners, mem])

/-- Nobody listens twice. -/
theorem listeners_nodup (h : Balanced fired hand b) : b.listeners.all.Nodup := by
  refine List.nodup_iff_count_le_one.2 fun pair => ?_
  have owned := h.owned pair
  have once := List.nodup_iff_count_le_one.1 h.nodup pair
  simp only [owners, List.count_append] at owned
  omega

theorem hand_live (h : Balanced fired hand b) {pair : Pair} (mem : pair ∈ hand) :
    pair ∈ b.live := by
  have owned := h.owned pair
  have at_hand := List.count_pos_iff.2 mem
  exact List.count_pos_iff.1 (by omega)

/-- Pairs that are new to the registry are taken into custody and are at hand. -/
theorem adopt (h : Balanced fired hand b) {pairs : List Pair} (nodup : pairs.Nodup)
    (fresh : ∀ p ∈ pairs, p ∉ b.live) :
    Balanced fired (pairs ++ hand)
      { b with live := b.live ++ pairs, registered := b.registered ++ pairs } where
  nodup := by
    refine List.nodup_append.2 ⟨h.nodup, nodup, fun p live q mem same => ?_⟩
    exact fresh q mem (same ▸ live)
  owned p := by
    have owned := h.owned p
    simp only [owners, List.count_append] at owned ⊢
    omega
  ids := h.ids
  below := h.below
  running := h.running
  firing := h.firing
  events := h.events
  calls := h.calls
  flying := h.flying
  refused := h.refused
  disposed := h.disposed
  kept p := by
    have kept := h.kept p
    simp only [List.count_append]
    omega

theorem bury {pair : Pair} (h : Balanced fired (pair :: hand) b) :
    Balanced fired hand { b with buried := b.buried ++ [pair] } :=
  { h with
    owned := fun p => by
      have owned := h.owned p
      simp only [owners, List.count_append, List.count_cons, List.count_nil] at owned ⊢
      omega }

/-- A timer is entered: a new number, and a pair that was at hand. -/
theorem schedule {pair : Pair} (h : Balanced fired (pair :: hand) b) (delay : Nat)
    (recurring : Bool) (ticket : Nat) :
    Balanced fired hand
      { b with timers := (b.timers.schedule pair delay recurring (some ticket)).2 } := by
  have fresh : b.timers.nextId ∉ b.timers.live.map Timer.id := by
    intro mem
    obtain ⟨timer, mem, same⟩ := List.mem_map.1 mem
    have below := h.below timer mem
    omega
  have orphans : orphan fired (b.timers.schedule pair delay recurring (some ticket)).2 =
      orphan fired b.timers := by
    cases fired with
    | none => rfl
    | some timer =>
      have below := (h.firing timer rfl).1
      have other : timer.id ≠ b.timers.nextId := by omega
      simp [orphan, Timers.schedule, other]
  exact
    { h with
      owned := fun p => by
        have owned := h.owned p
        rw [orphans]
        simp only [owners, Timers.schedule, List.map_append, List.map_cons, List.map_nil,
          List.count_append, List.count_cons, List.count_nil] at owned ⊢
        omega
      ids := by
        simp only [Timers.schedule, List.map_append, List.map_cons, List.map_nil]
        refine List.nodup_append.2 ⟨h.ids, by simp, fun i mem j same heq => fresh ?_⟩
        rw [List.mem_singleton.1 same] at heq
        exact heq ▸ mem
      below := by
        intro timer mem
        simp only [Timers.schedule] at mem ⊢
        rcases List.mem_append.1 mem with mem | mem
        · have below := h.below timer mem
          omega
        · obtain rfl := List.mem_singleton.1 mem
          exact Nat.lt_succ_self _
      firing := by
        intro timer mem
        obtain ⟨below, same⟩ := h.firing timer mem
        simp only [Timers.schedule]
        refine ⟨by omega, fun other mem' heq => ?_⟩
        rcases List.mem_append.1 mem' with mem' | mem'
        · exact same other mem' heq
        · obtain rfl := List.mem_singleton.1 mem'
          simp only at heq
          omega }

/-- What a table of timers says when a timer has been taken out. -/
theorem removed (h : Balanced fired hand b) {timer : Timer} (mem : timer ∈ b.timers.live)
    {hand' : List Pair}
    (owned : ∀ p, (orphan fired (b.timers.remove timer.id)).count p + hand'.count p =
      (orphan fired b.timers).count p + hand.count p + [timer.pair].count p) :
    Balanced fired hand' { b with timers := b.timers.remove timer.id } := by
  have sub : (b.timers.remove timer.id).live.Sublist b.timers.live := List.filter_sublist
  have taken := perm_remove h.ids mem
  exact
    { h with
      owned := fun p => by
        have before := h.owned p
        have after := owned p
        have taken := (taken.map Timer.pair).count_eq p
        simp only [owners, List.map_cons, List.count_append, List.count_cons, List.count_nil]
          at before after taken ⊢
        omega
      ids := h.ids.sublist (sub.map _)
      below := fun other mem => h.below other (sub.subset mem)
      firing := fun timer mem =>
        ⟨(h.firing timer mem).1, fun other mem' => (h.firing timer mem).2 other (sub.subset mem')⟩ }

/-- A cancelled timer that is not firing gives its pair back. -/
theorem cancel (h : Balanced fired hand b) {timer : Timer} (mem : timer ∈ b.timers.live)
    (resting : b.timers.running ≠ some timer.id) :
    Balanced fired (timer.pair :: hand) { b with timers := b.timers.remove timer.id } := by
  refine h.removed mem fun p => ?_
  have same : orphan fired (b.timers.remove timer.id) = orphan fired b.timers := by
    rw [h.running] at resting
    cases fired with
    | none => rfl
    | some firing =>
      have other : firing.id ≠ timer.id := fun same => resting (congrArg some same)
      have mem_iff : firing.id ∈ (b.timers.remove timer.id).live.map Timer.id ↔
          firing.id ∈ b.timers.live.map Timer.id := by
        have mem := ((perm_remove h.ids mem).map Timer.id).mem_iff (a := firing.id)
        rwa [List.map_cons, List.mem_cons, or_iff_right other] at mem
      simp only [orphan, mem_iff]
  simp only [same, List.count_cons, List.count_nil]
  omega

/-- The pair of a timer that is cancelled while it fires is an orphan. -/
theorem cancel_firing (h : Balanced fired hand b) {timer : Timer} (mem : timer ∈ b.timers.live)
    (running : b.timers.running = some timer.id) :
    Balanced fired hand { b with timers := b.timers.remove timer.id } := by
  refine h.removed mem fun p => ?_
  rw [h.running] at running
  cases fired with
  | none => cases running
  | some firing =>
    -- The pair goes from the table to the orphans, so nothing comes to hand.
    have same : firing.id = timer.id := Option.some.inj running
    have pair : timer.pair = firing.pair := (h.firing firing rfl).2 timer mem same.symm
    have before : firing.id ∈ b.timers.live.map Timer.id := same ▸ List.mem_map_of_mem mem
    have after : firing.id ∉ (b.timers.remove timer.id).live.map Timer.id := by
      simp [Timers.remove, same]
    simp only [orphan, if_pos before, if_neg after, pair, List.count_nil]
    omega

/-- The numbers of the timers that have been entered have been given out. -/
theorem below_of_ids (h : Balanced fired hand b) {live : List Timer}
    (ids : live.map Timer.id = b.timers.live.map Timer.id) :
    ∀ timer ∈ live, timer.id < b.timers.nextId := by
  intro timer mem
  have mem : timer.id ∈ b.timers.live.map Timer.id := ids ▸ List.mem_map_of_mem mem
  obtain ⟨original, mem, same⟩ := List.mem_map.1 mem
  exact same ▸ h.below original mem

/-- A firing begins: the table entry of the timer stays. -/
theorem begin (h : Balanced none hand b) {timer : Timer} (mem : timer ∈ b.timers.live) :
    Balanced (some timer) hand { b with timers := b.timers.firing timer } := by
  have same : ∀ other ∈ b.timers.live, other.id = timer.id → other = timer :=
    fun other mem' => List.inj_on_of_nodup_map h.ids mem' mem
  have ids := b.timers.firing_ids timer
  -- No other timer has this number, so the entry keeps its pair.
  have pairs : (b.timers.firing timer).live.map Timer.pair = b.timers.live.map Timer.pair := by
    simp only [Timers.firing, List.map_map]
    refine List.map_congr_left fun other mem' => ?_
    by_cases heq : other.id = timer.id
    · simp [same other mem' heq]
    · simp [heq]
  have mem_id : timer.id ∈ b.timers.live.map Timer.id := List.mem_map_of_mem mem
  exact
    { h with
      owned := fun p => by
        have owned := h.owned p
        simp only [owners, pairs, orphan, ids, if_pos mem_id] at owned ⊢
        exact owned
      ids := ids ▸ h.ids
      below := h.below_of_ids ids
      running := rfl
      firing := by
        intro firing heq
        obtain rfl := Option.some.inj heq
        refine ⟨h.below timer mem, fun other mem' same' => ?_⟩
        obtain ⟨original, mem', rfl⟩ := List.mem_map.1 mem'
        by_cases heq : original.id = timer.id
        · simp [heq]
        · simp [heq] at same' }

/-- A firing ends with its timer armed again. -/
theorem rearm {timer : Timer} (h : Balanced (some timer) hand b)
    (live : timer.id ∈ b.timers.live.map Timer.id) (ticket : Nat) :
    Balanced none hand { b with timers := b.timers.rearmed timer.id ticket } := by
  have ids := b.timers.rearmed_ids timer.id ticket
  have pairs := b.timers.rearmed_pairs timer.id ticket
  exact
    { h with
      owned := fun p => by
        have owned := h.owned p
        simp only [owners, pairs, orphan, if_pos live] at owned ⊢
        exact owned
      ids := ids ▸ h.ids
      below := h.below_of_ids ids
      running := rfl
      firing := by
        intro other mem
        cases mem }

/-- A firing ends with its timer out of the table, whether it was there or had been cancelled. -/
theorem retire {timer : Timer} (h : Balanced (some timer) hand b) :
    Balanced none (timer.pair :: hand) { b with timers := b.timers.retired timer.id } := by
  have sub : (b.timers.retired timer.id).live.Sublist b.timers.live := List.filter_sublist
  have owned : ∀ p, ((b.timers.retired timer.id).live.map Timer.pair).count p +
      [timer.pair].count p = (b.timers.live.map Timer.pair).count p +
        (orphan (some timer) b.timers).count p := by
    intro p
    -- An entry that is still there is taken out; without one, the pair was an orphan.
    by_cases live : timer.id ∈ b.timers.live.map Timer.id
    · obtain ⟨entry, mem, same⟩ := List.mem_map.1 live
      have pair : entry.pair = timer.pair := (h.firing timer rfl).2 entry mem same
      have taken := ((perm_remove h.ids mem).map Timer.pair).count_eq p
      rw [same] at taken
      simp only [List.map_cons, List.count_cons, pair] at taken
      simp only [orphan, if_pos live, List.count_cons, List.count_nil]
      exact Eq.trans (by simp only [Timers.retired]; omega) taken
    · have others : (b.timers.retired timer.id).live = b.timers.live := by
        refine List.filter_eq_self.2 fun other mem => ?_
        have other : other.id ≠ timer.id := fun same => live (same ▸ List.mem_map_of_mem mem)
        exact decide_eq_true other
      simp only [others, orphan, if_neg live]
  exact
    { h with
      owned := fun p => by
        have before := h.owned p
        have taken := owned p
        have nobody : orphan none (b.timers.retired timer.id) = [] := rfl
        simp only [owners, nobody, List.count_append, List.count_cons, List.count_nil]
          at before taken ⊢
        omega
      ids := h.ids.sublist (sub.map _)
      below := fun other mem => h.below other (sub.subset mem)
      running := rfl
      firing := by
        intro other mem
        cases mem }

theorem listen {pair : Pair} (h : Balanced fired (pair :: hand) b) (event : String) :
    Balanced fired hand { b with listeners := b.listeners.on event pair } :=
  { h with
    owned := fun p => by
      have owned := h.owned p
      have added := (all_insert_perm event pair b.listeners.entries).count_eq p
      simp only [owners, Listeners.all, Listeners.on, List.count_append, List.count_cons]
        at owned added ⊢
      omega
    events := by
      simp only [Listeners.on, keys_insert]
      split
      · exact h.events
      · next fresh =>
        refine List.nodup_append.2 ⟨h.events, by simp, fun i mem j same heq => fresh ?_⟩
        rw [List.mem_singleton.1 same] at heq
        exact heq ▸ mem }

theorem unlisten (h : Balanced fired hand b) (event : String) :
    Balanced fired (b.listeners.of event ++ hand)
      { b with listeners := b.listeners.off event } :=
  { h with
    owned := fun p => by
      have owned := h.owned p
      have taken := (all_off_perm h.events event).count_eq p
      simp only [owners, List.count_append] at owned taken ⊢
      omega
    events := h.events.sublist (List.filter_sublist.map _) }

/-- Completions may go astray, but no request comes twice. -/
theorem underway (h : Balanced fired hand b) {calls : List Call}
    (le : ∀ c, calls.count c ≤ b.underway.count c) :
    Balanced fired hand { b with underway := calls } :=
  { h with calls := fun c => Nat.le_trans (le c) (h.calls c) }

/-- A request is on its way, and so is its completion. -/
theorem issue {call : Call} (h : Balanced fired (call.pairs ++ hand) b) :
    Balanced fired hand { b with
      outstanding := call :: b.outstanding
      underway := call :: b.underway
      inFlight := b.inFlight + 1 } :=
  { h with
    owned := fun p => by
      have owned := h.owned p
      simp only [owners, List.flatMap_cons, List.count_append] at owned ⊢
      omega
    calls := fun c => by
      have calls := h.calls c
      simp only [List.count_cons]
      omega
    flying := by simp [h.flying] }

/-- What is underway belongs to a request that is outstanding, and less is underway without it. -/
theorem settle (h : Balanced fired hand b) {call : Call} {calls : List Call}
    (underway : b.underway.Perm (call :: calls)) :
    call ∈ b.outstanding ∧ (∀ c, calls.count c ≤ (b.outstanding.erase call).count c) ∧
      b.inFlight - 1 = (b.outstanding.erase call).length := by
  have le : ∀ c, (call :: calls).count c ≤ b.outstanding.count c :=
    fun c => underway.count_eq c ▸ h.calls c
  have mem : call ∈ b.outstanding := by
    have here := le call
    rw [List.count_cons_self] at here
    exact List.count_pos_iff.1 (by omega)
  refine ⟨mem, fun c => ?_, ?_⟩
  · have le := le c
    have taken := (List.perm_cons_erase mem).count_eq c
    simp only [List.count_cons] at le taken
    omega
  · rw [List.length_erase_of_mem mem, h.flying]

/-- The completion of a request is delivered: its pairs are at hand. -/
theorem deliver (h : Balanced fired hand b) {call : Call} {calls : List Call}
    (underway : b.underway.Perm (call :: calls)) :
    Balanced fired (call.pairs ++ hand) { b with
      outstanding := b.outstanding.erase call
      underway := calls
      inFlight := b.inFlight - 1 } := by
  obtain ⟨mem, le, flying⟩ := h.settle underway
  exact
    { h with
      owned := fun p => by
        have owned := h.owned p
        have taken := perm_cons_erase_pairs mem p
        simp only [owners, List.count_append] at owned ⊢
        omega
      calls := le
      flying := flying }

/-- The completion of a request is refused: it waits in vain. -/
theorem drop (h : Balanced fired hand b) {call : Call} {calls : List Call}
    (underway : b.underway.Perm (call :: calls)) :
    Balanced fired hand { b with
      outstanding := b.outstanding.erase call
      dropped := call :: b.dropped
      underway := calls
      inFlight := b.inFlight - 1 } := by
  obtain ⟨mem, le, flying⟩ := h.settle underway
  exact
    { h with
      owned := fun p => by
        have owned := h.owned p
        have taken := perm_cons_erase_pairs mem p
        simp only [owners, List.flatMap_cons, List.count_append] at owned ⊢
        omega
      calls := le
      flying := flying }

/-- The tables of timers and listeners are emptied. -/
theorem clear (h : Balanced none hand b) :
    Balanced none (b.timers.live.map Timer.pair ++ b.listeners.all ++ hand)
      { b with timers := { b.timers with live := [] }, listeners := .empty } :=
  { h with
    owned := fun p => by
      have owned := h.owned p
      have nobody : Listeners.empty.all = [] := rfl
      simp only [owners, orphan, nobody, List.map_nil, List.count_append, List.count_nil] at owned ⊢
      omega
    ids := List.nodup_nil
    below := nofun
    firing := nofun
    events := List.nodup_nil }

/-- A sweep releases each of the pairs in line. -/
theorem sweep (h : Balanced fired hand b) :
    Balanced fired hand { b with
      live := b.live.diff b.buried
      buried := []
      swept := b.swept ++ b.buried
      disposed := b.disposed ++ b.buried } := by
  have le : ∀ p, b.buried.count p ≤ b.live.count p := by
    intro p
    have owned := h.owned p
    simp only [owners, List.count_append] at owned
    omega
  exact
    { h with
      nodup := h.nodup.diff
      owned := fun p => by
        have owned := h.owned p
        have le := le p
        simp only [owners, List.count_append, List.count_nil, List.count_diff] at owned ⊢
        omega
      disposed := by rw [h.disposed]
      kept := fun p => by
        have kept := h.kept p
        have le := le p
        simp only [List.count_append, List.count_diff]
        omega }

theorem buried_nodup (h : Balanced fired hand b) : b.buried.Nodup := by
  refine List.nodup_iff_count_le_one.2 fun p => ?_
  have owned := h.owned p
  have once := List.nodup_iff_count_le_one.1 h.nodup p
  simp only [owners, List.count_append] at owned
  omega

theorem buried_subset (h : Balanced fired hand b) : b.buried ⊆ b.live :=
  fun _ mem => h.mem_live (by simp [owners, mem])

end Balanced
end Ledger
end ScriptHost
