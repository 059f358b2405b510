import ScriptHost.Proofs.Ledger
import ScriptHost.Proofs.Queue

/-!
# Timers and their firings

Every live timer has one firing outstanding: a message that is armed or waits in line, unless the
timer is firing just now. The table of timers and the queue are changed by different operations, so
what relates them is stated here of both at once.

## Main definitions

* `Lanes.firings` — the timers whose firings are outstanding.
* `Armed` — each live timer has one firing outstanding, and tickets lead to the firings of the
  timers that hold them.

## Main statements

* `Armed.schedule`, `Armed.cancel`, `Armed.begin`, `Armed.rearm`, `Armed.retire` — the operations on
  timers keep it.
* `Armed.requeue`, `Armed.arm` — so do messages that are no firings.
-/

namespace ScriptHost

/-- The timer that a message fires. -/
def Message.fireId? : Message → Option Nat
  | .fire id => some id
  | _ => none

/-- The timers whose firings are outstanding. -/
def Lanes.firings (lanes : Lanes Message) : List Nat := lanes.messages.filterMap Message.fireId?

/-- Each live timer has one firing outstanding, but for the one that is firing. -/
structure Armed (fired : Option Timer) (timers : Timers) (lanes : Lanes Message)
    (sweepTicket : Option Nat) : Prop where
  ids : (timers.live.map Timer.id).Nodup
  below : ∀ timer ∈ timers.live, timer.id < timers.nextId
  running : timers.running = fired.map Timer.id
  firing : ∀ timer ∈ fired, timer.id < timers.nextId ∧ lanes.firings.count timer.id = 0
  pending : ∀ id ∈ lanes.firings, id < timers.nextId
  once : ∀ id, lanes.firings.count id ≤ 1
  live : ∀ timer ∈ timers.live, (∀ other ∈ fired, timer.id ≠ other.id) →
    lanes.firings.count timer.id = 1
  /-- An armed firing is that of a live timer, which holds its ticket. -/
  held : ∀ a ∈ lanes.alarms, ∀ id, a.message.fireId? = some id →
    ∃ timer ∈ timers.live, timer.id = id ∧ timer.ticket = some a.ticket
  /-- The ticket of a timer is good for its own firing only. -/
  own : ∀ timer ∈ timers.live, ∀ a ∈ lanes.alarms, timer.ticket = some a.ticket →
    a.message.fireId? = some timer.id
  /-- The ticket of the sweep is not good for a firing. -/
  sweep : ∀ a ∈ lanes.alarms, sweepTicket = some a.ticket → a.message.fireId? = none
  alarmed : ∀ a ∈ lanes.alarms, a.ticket < lanes.nextTicket
  ticketed : ∀ timer ∈ timers.live, ∀ k, timer.ticket = some k → k < lanes.nextTicket
  swept : ∀ k, sweepTicket = some k → k < lanes.nextTicket
  urgent : ∀ m ∈ lanes.urgent, m.fireId? = none

namespace Armed

variable {fired : Option Timer} {timers : Timers} {l : Lanes Message} {sweepTicket : Option Nat}

/-! ## Messages that are no firings -/

theorem firings_of_quiet {l' : Lanes Message} {m : Message} (quiet : m.fireId? = none)
    (perm : l'.messages.Perm (m :: l.messages)) (id : Nat) :
    l'.firings.count id = l.firings.count id := by
  have same := (perm.filterMap Message.fireId?).count_eq id
  rwa [List.filterMap_cons_none quiet] at same

/-- Messages may come, go and move, as long as firings stay and no alarm comes. -/
theorem requeue (h : Armed fired timers l sweepTicket) {l' : Lanes Message}
    {sweepTicket' : Option Nat} (same : ∀ id, l'.firings.count id = l.firings.count id)
    (alarms : l'.alarms ⊆ l.alarms) (tickets : l'.nextTicket = l.nextTicket)
    (urgent : ∀ m ∈ l'.urgent, m.fireId? = none)
    (sweep : ∀ k, sweepTicket' = some k → sweepTicket = some k) :
    Armed fired timers l' sweepTicket' where
  ids := h.ids
  below := h.below
  running := h.running
  firing timer mem := ⟨(h.firing timer mem).1, (same _).trans (h.firing timer mem).2⟩
  pending id mem := by
    have mem := List.count_pos_iff.2 mem
    rw [same] at mem
    exact h.pending id (List.count_pos_iff.1 mem)
  once id := same id ▸ h.once id
  live timer mem other := (same _).trans (h.live timer mem other)
  held a mem := h.held a (alarms mem)
  own timer mem a mem' := h.own timer mem a (alarms mem')
  sweep a mem held := h.sweep a (alarms mem) (sweep _ held)
  alarmed a mem := tickets ▸ h.alarmed a (alarms mem)
  ticketed timer mem k held := tickets ▸ h.ticketed timer mem k held
  swept k held := tickets ▸ h.swept k (sweep k held)
  urgent := urgent

theorem mem_alarms {a x : Alarm Message} {alarms : List (Alarm Message)}
    (mem : a ∈ Lanes.insertAlarm x alarms) : a = x ∨ a ∈ alarms :=
  List.mem_cons.1 ((Lanes.insertAlarm_perm x alarms).mem_iff.1 mem)

/-- The ticket of a new alarm is new. -/
theorem alarmed_arm (h : Armed fired timers l sweepTicket) {due : Nat} {m : Message} :
    ∀ a ∈ Lanes.insertAlarm ⟨l.nextTicket, due, m⟩ l.alarms, a.ticket < l.nextTicket + 1 := by
  intro a mem
  rcases mem_alarms mem with rfl | mem
  · exact Nat.lt_succ_self _
  · exact Nat.lt_succ_of_lt (h.alarmed a mem)

/-- So it is not the ticket of the sweep. -/
theorem sweep_arm (h : Armed fired timers l sweepTicket) {due : Nat} {m : Message} :
    ∀ a ∈ Lanes.insertAlarm ⟨l.nextTicket, due, m⟩ l.alarms,
      sweepTicket = some a.ticket → a.message.fireId? = none := by
  intro a mem held
  rcases mem_alarms mem with rfl | mem
  · exact absurd (h.swept _ held) (Nat.lt_irrefl _)
  · exact h.sweep a mem held

/-- A message that is no firing is armed, maybe as the sweep. -/
theorem arm (h : Armed fired timers l sweepTicket) (due : Nat) {m : Message}
    (quiet : m.fireId? = none) {sweepTicket' : Option Nat}
    (sweep : ∀ k, sweepTicket' = some k → sweepTicket = some k ∨ k = l.nextTicket) :
    Armed fired timers
      { l with
        alarms := Lanes.insertAlarm ⟨l.nextTicket, due, m⟩ l.alarms
        nextTicket := l.nextTicket + 1 } sweepTicket' := by
  have same := firings_of_quiet quiet
    (Lanes.messages_arm l ⟨l.nextTicket, due, m⟩ (l.nextTicket + 1))
  exact
    { h with
      firing := fun timer mem => ⟨(h.firing timer mem).1, (same _).trans (h.firing timer mem).2⟩
      pending := fun id mem => by
        have mem := List.count_pos_iff.2 mem
        rw [same] at mem
        exact h.pending id (List.count_pos_iff.1 mem)
      once := fun id => same id ▸ h.once id
      live := fun timer mem other => (same _).trans (h.live timer mem other)
      held := fun a mem id fires => by
        rcases mem_alarms mem with rfl | mem
        · cases quiet.symm.trans fires
        · exact h.held a mem id fires
      own := fun timer mem a mem' ticket => by
        rcases mem_alarms mem' with rfl | mem'
        · have below := h.ticketed timer mem _ ticket
          simp at below
        · exact h.own timer mem a mem' ticket
      sweep := fun a mem held => by
        rcases mem_alarms mem with rfl | mem
        · exact quiet
        · rcases sweep _ held with held | fresh
          · exact h.sweep a mem held
          · have below := h.alarmed a mem
            omega
      alarmed := h.alarmed_arm
      ticketed := fun timer mem k held => Nat.lt_succ_of_lt (h.ticketed timer mem k held)
      swept := fun k held => by
        rcases sweep k held with held | rfl
        · exact Nat.lt_succ_of_lt (h.swept k held)
        · exact Nat.lt_succ_self _ }

/-! ## Timers -/

/-- One more firing is armed. -/
theorem count_fire (l : Lanes Message) (due ticket i id : Nat) :
    ({ l with
      alarms := Lanes.insertAlarm ⟨ticket, due, .fire i⟩ l.alarms
      nextTicket := ticket + 1 } : Lanes Message).firings.count id =
        l.firings.count id + if i = id then 1 else 0 := by
  have armed : _ = (i :: l.firings).count id :=
    ((Lanes.messages_arm l ⟨ticket, due, .fire i⟩ (ticket + 1)).filterMap
      Message.fireId?).count_eq id
  rw [List.count_cons] at armed
  simpa [Lanes.firings] using armed

/-- A timer is entered under a new number, and its firing is armed. -/
theorem schedule (h : Armed fired timers l sweepTicket) (pair : Pair) (delay due : Nat)
    (recurring : Bool) :
    Armed fired (timers.schedule pair delay recurring (some l.nextTicket)).2
      { l with
        alarms := Lanes.insertAlarm ⟨l.nextTicket, due, .fire timers.nextId⟩ l.alarms
        nextTicket := l.nextTicket + 1 } sweepTicket := by
  have count := count_fire l due l.nextTicket timers.nextId
  have fresh : l.firings.count timers.nextId = 0 :=
    List.count_eq_zero.2 fun mem => Nat.lt_irrefl _ (h.pending _ mem)
  have mem_live : ∀ {timer}, timer ∈ timers.live ++
      [⟨timers.nextId, pair, delay, recurring, some l.nextTicket⟩] →
      timer ∈ timers.live ∨ timer = ⟨timers.nextId, pair, delay, recurring, some l.nextTicket⟩ :=
    fun mem => by simpa using mem
  simp only [Timers.schedule]
  exact
    { ids := by
        rw [List.map_append, List.map_cons, List.map_nil]
        refine List.nodup_append.2 ⟨h.ids, by simp, fun i mem j same heq => ?_⟩
        rw [List.mem_singleton.1 same] at heq
        obtain ⟨timer, entered, rfl⟩ := List.mem_map.1 mem
        exact absurd heq (Nat.ne_of_lt (h.below timer entered))
      below := fun timer mem => by
        rcases mem_live mem with mem | rfl
        · exact Nat.lt_succ_of_lt (h.below timer mem)
        · exact Nat.lt_succ_self _
      running := h.running
      firing := fun timer mem => by
        obtain ⟨below, none⟩ := h.firing timer mem
        refine ⟨Nat.lt_succ_of_lt below, ?_⟩
        rw [count, none, if_neg (by omega)]
      pending := fun id mem => by
        have mem := List.count_pos_iff.2 mem
        rw [count] at mem
        by_cases new : timers.nextId = id
        · exact new ▸ Nat.lt_succ_self _
        · rw [if_neg new] at mem
          exact Nat.lt_succ_of_lt (h.pending id (List.count_pos_iff.1 mem))
      once := fun id => by
        rw [count]
        by_cases new : timers.nextId = id
        · subst new
          simp [fresh]
        · rw [if_neg new]
          exact h.once id
      live := fun timer mem other => by
        rw [count]
        rcases mem_live mem with mem | rfl
        · have below := h.below timer mem
          rw [if_neg (by omega)]
          exact h.live timer mem other
        · rw [if_pos rfl, fresh]
      held := fun a mem id fires => by
        rcases mem_alarms mem with rfl | mem
        · cases fires
          exact ⟨_, List.mem_append_right _ (List.mem_singleton_self _), rfl, rfl⟩
        · obtain ⟨timer, mem, same⟩ := h.held a mem id fires
          exact ⟨timer, List.mem_append_left _ mem, same⟩
      own := fun timer mem a mem' ticket => by
        rcases mem_live mem with mem | rfl
        · rcases mem_alarms mem' with rfl | mem'
          · have below := h.ticketed timer mem _ ticket
            simp at below
          · exact h.own timer mem a mem' ticket
        · rcases mem_alarms mem' with rfl | mem'
          · rfl
          · have below := h.alarmed a mem'
            have same : l.nextTicket = a.ticket := Option.some.inj ticket
            omega
      sweep := h.sweep_arm
      alarmed := h.alarmed_arm
      ticketed := fun timer mem k held => by
        rcases mem_live mem with mem | rfl
        · exact Nat.lt_succ_of_lt (h.ticketed timer mem k held)
        · cases held
          exact Nat.lt_succ_self _
      swept := fun k held => Nat.lt_succ_of_lt (h.swept k held)
      urgent := h.urgent }

/-- Withdrawing by a ticket leaves alone what the ticket is not good for. -/
theorem count_withdraw {ticket : Option Nat} {id : Nat}
    (other : ∀ a ∈ l.alarms, ticket = some a.ticket → a.message.fireId? ≠ some id) :
    ({ l with alarms := l.alarms.filter fun a => some a.ticket ≠ ticket } :
      Lanes Message).firings.count id = l.firings.count id := by
  have others : ∀ alarms : List (Alarm Message),
      (∀ a ∈ alarms, ticket = some a.ticket → a.message.fireId? ≠ some id) →
      (((alarms.filter fun a => some a.ticket ≠ ticket).map (·.message)).filterMap
        Message.fireId?).count id =
          ((alarms.map (·.message)).filterMap Message.fireId?).count id := by
    intro alarms other
    induction alarms with
    | nil => rfl
    | cons a rest ih =>
      have ih := ih fun a mem => other a (List.mem_cons_of_mem _ mem)
      have other := other a (List.mem_cons_self ..)
      by_cases held : ticket = some a.ticket
      · rw [List.filter_cons_of_neg (by simp [held]), ih, List.map_cons]
        cases fires : a.message.fireId? with
        | none => rw [List.filterMap_cons_none fires]
        | some j =>
          have different : j ≠ id := fun same => other held (same ▸ fires)
          rw [List.filterMap_cons_some fires, List.count_cons_of_ne different]
      · rw [List.filter_cons_of_pos (by simpa using Ne.symm held), List.map_cons, List.map_cons]
        cases fires : a.message.fireId? with
        | none => rw [List.filterMap_cons_none fires, List.filterMap_cons_none fires, ih]
        | some j =>
          rw [List.filterMap_cons_some fires, List.filterMap_cons_some fires, List.count_cons,
            List.count_cons, ih]
  simp only [Lanes.firings, Lanes.messages, List.filterMap_append, List.count_append,
    others l.alarms other]

/-- A timer leaves the table and is disarmed, whether it is firing or not. -/
theorem remove (h : Armed fired timers l sweepTicket) {timer : Timer} (mem : timer ∈ timers.live) :
    Armed fired (timers.remove timer.id)
      { l with alarms := l.alarms.filter fun a => some a.ticket ≠ timer.ticket } sweepTicket := by
  have sub : (timers.remove timer.id).live ⊆ timers.live := List.filter_sublist.subset
  have alarms : l.alarms.filter (fun a => some a.ticket ≠ timer.ticket) ⊆ l.alarms :=
    List.filter_sublist.subset
  have fewer : ∀ id, ({ l with alarms := l.alarms.filter fun a => some a.ticket ≠ timer.ticket } :
      Lanes Message).firings.count id ≤ l.firings.count id := fun id =>
    ((Lanes.messages_alarms List.filter_sublist).filterMap Message.fireId?).count_le id
  exact
    { ids := h.ids.sublist (List.filter_sublist.map _)
      below := fun other mem' => h.below other (sub mem')
      running := h.running
      firing := fun other mem' => by
        obtain ⟨below, none⟩ := h.firing other mem'
        exact ⟨below, Nat.le_zero.1 (none ▸ fewer other.id)⟩
      pending := fun id mem' => by
        have mem' := List.count_pos_iff.2 mem'
        exact h.pending id (List.count_pos_iff.1 (Nat.lt_of_lt_of_le mem' (fewer id)))
      once := fun id => Nat.le_trans (fewer id) (h.once id)
      live := fun other mem' rest => by
        -- The ticket that is withdrawn is good for the firing of this timer only.
        have different : other.id ≠ timer.id := by
          simpa using (List.mem_filter.1 mem').2
        have kept : ∀ a ∈ l.alarms, timer.ticket = some a.ticket →
            a.message.fireId? ≠ some other.id := fun a mem' held fires =>
          different (Option.some.inj (fires.symm.trans (h.own timer mem a mem' held)))
        rw [count_withdraw kept]
        exact h.live other (sub mem') rest
      held := fun a mem' id fires => by
        obtain ⟨other, live, same, ticket⟩ := h.held a (alarms mem') id fires
        refine ⟨other, List.mem_filter.2 ⟨live, decide_eq_true fun heq => ?_⟩, same, ticket⟩
        obtain rfl := List.inj_on_of_nodup_map h.ids live mem heq
        have withdrawn := of_decide_eq_true (List.mem_filter.1 mem').2
        exact withdrawn ticket.symm
      own := fun other mem' a mem'' => h.own other (sub mem') a (alarms mem'')
      sweep := fun a mem' => h.sweep a (alarms mem')
      alarmed := fun a mem' => h.alarmed a (alarms mem')
      ticketed := fun other mem' => h.ticketed other (sub mem')
      swept := h.swept
      urgent := h.urgent }

theorem next_keeps {m : Message} {rest : Lanes Message} (next : l.next? = some (m, rest)) :
    rest.alarms = l.alarms ∧ rest.nextTicket = l.nextTicket ∧ rest.urgent ⊆ l.urgent := by
  rcases Lanes.next?_cases next with ⟨urgent, heq, rfl⟩ | ⟨-, ordinary, -, rfl⟩
  · exact ⟨rfl, rfl, fun _ mem => heq ▸ List.mem_cons_of_mem _ mem⟩
  · exact ⟨rfl, rfl, fun _ mem => mem⟩

/-- A message that is no firing is taken. -/
theorem take (h : Armed fired timers l sweepTicket) {m : Message} {rest : Lanes Message}
    (next : l.next? = some (m, rest)) (quiet : m.fireId? = none) :
    Armed fired timers rest sweepTicket := by
  obtain ⟨alarms, tickets, urgent⟩ := next_keeps next
  refine h.requeue (fun id => ?_) (alarms ▸ List.Subset.refl _) tickets
    (fun m mem => h.urgent m (urgent mem)) (fun _ held => held)
  exact (firings_of_quiet quiet (Lanes.messages_next next) id).symm

theorem count_taken {id : Nat} {rest : Lanes Message} (next : l.next? = some (.fire id, rest))
    (i : Nat) : l.firings.count i = rest.firings.count i + if id = i then 1 else 0 := by
  have taken : _ = (id :: rest.firings).count i :=
    ((Lanes.messages_next next).filterMap Message.fireId?).count_eq i
  rw [List.count_cons] at taken
  simpa [Lanes.firings] using taken

/-- A firing whose timer is gone is taken. -/
theorem take_stale (h : Armed none timers l sweepTicket) {id : Nat} {rest : Lanes Message}
    (next : l.next? = some (.fire id, rest)) (stale : id ∉ timers.live.map Timer.id) :
    Armed none timers rest sweepTicket := by
  obtain ⟨alarms, tickets, urgent⟩ := next_keeps next
  have count := count_taken next
  exact
    { h with
      firing := nofun
      pending := fun i mem => by
        have mem := List.count_pos_iff.2 mem
        have count := count i
        exact h.pending i (List.count_pos_iff.1 (by omega))
      once := fun i => by
        have count := count i
        have once := h.once i
        omega
      live := fun timer mem other => by
        have different : id ≠ timer.id := fun same => stale (same ▸ List.mem_map_of_mem mem)
        have count := count timer.id
        rw [if_neg different] at count
        exact count.symm.trans (h.live timer mem other)
      held := alarms ▸ h.held
      own := alarms ▸ h.own
      sweep := alarms ▸ h.sweep
      alarmed := alarms ▸ tickets ▸ h.alarmed
      ticketed := tickets ▸ h.ticketed
      swept := tickets ▸ h.swept
      urgent := fun m mem => h.urgent m (urgent mem) }

theorem fireId?_of_mem_alarms {a : Alarm Message} {id : Nat} (mem : a ∈ l.alarms)
    (fires : a.message.fireId? = some id) : 0 < l.firings.count id := by
  refine List.count_pos_iff.2 (List.mem_filterMap.2 ⟨a.message, ?_, fires⟩)
  simpa [Lanes.messages] using .inr (.inr ⟨a, mem, rfl⟩)

/-- The firing of a live timer is taken and begins: none is outstanding meanwhile. -/
theorem begin (h : Armed none timers l sweepTicket) {timer : Timer} {rest : Lanes Message}
    (next : l.next? = some (.fire timer.id, rest)) (mem : timer ∈ timers.live) :
    Armed (some timer) (timers.firing timer) rest sweepTicket := by
  obtain ⟨alarms, tickets, urgent⟩ := next_keeps next
  have count := count_taken next
  have spent : rest.firings.count timer.id = 0 := by
    have count := count timer.id
    have once := h.once timer.id
    rw [if_pos rfl] at count
    omega
  have mem_firing : ∀ {entry}, entry ∈ (timers.firing timer).live →
      entry = { timer with ticket := none } ∨ entry ∈ timers.live ∧ entry.id ≠ timer.id := by
    intro entry mem'
    obtain ⟨original, live, rfl⟩ := List.mem_map.1 mem'
    by_cases same : original.id = timer.id
    · exact .inl (if_pos same)
    · exact .inr ⟨(if_neg same).symm ▸ live, (if_neg same).symm ▸ same⟩
  exact
    { ids := by
        rw [timers.firing_ids timer]
        exact h.ids
      below := fun entry mem' => by
        rcases mem_firing mem' with rfl | ⟨mem', -⟩
        · exact h.below timer mem
        · exact h.below entry mem'
      running := rfl
      firing := by
        intro firing heq
        obtain rfl := Option.some.inj heq
        exact ⟨h.below timer mem, spent⟩
      pending := fun i mem' => by
        have mem' := List.count_pos_iff.2 mem'
        have count := count i
        exact h.pending i (List.count_pos_iff.1 (by omega))
      once := fun i => by
        have count := count i
        have once := h.once i
        omega
      live := fun entry mem' other => by
        rcases mem_firing mem' with rfl | ⟨mem', different⟩
        · exact absurd rfl (other timer rfl)
        · have count := count entry.id
          rw [if_neg (Ne.symm different)] at count
          exact count.symm.trans (h.live entry mem' fun _ none => by cases none)
      held := fun a mem' id fires => by
        -- An armed firing of the timer would be a second one beside that which was taken.
        have different : id ≠ timer.id := by
          rintro rfl
          have pending := fireId?_of_mem_alarms mem' fires
          omega
        obtain ⟨entry, live, same, ticket⟩ := h.held a (alarms ▸ mem') id fires
        refine ⟨entry, List.mem_map.2 ⟨entry, live, if_neg ?_⟩, same, ticket⟩
        exact same ▸ different
      own := fun entry mem' a mem'' ticket => by
        rcases mem_firing mem' with rfl | ⟨mem', -⟩
        · cases ticket
        · exact h.own entry mem' a (alarms ▸ mem'') ticket
      sweep := alarms ▸ h.sweep
      alarmed := alarms ▸ tickets ▸ h.alarmed
      ticketed := fun entry mem' k held => by
        rcases mem_firing mem' with rfl | ⟨mem', -⟩
        · cases held
        · exact tickets ▸ h.ticketed entry mem' k held
      swept := tickets ▸ h.swept
      urgent := fun m mem' => h.urgent m (urgent mem') }

/-- A firing ends with its timer out of the table. -/
theorem retire {timer : Timer} (h : Armed (some timer) timers l sweepTicket) :
    Armed none (timers.retired timer.id) l sweepTicket := by
  have sub : (timers.retired timer.id).live ⊆ timers.live := List.filter_sublist.subset
  exact
    { h with
      ids := h.ids.sublist (List.filter_sublist.map _)
      below := fun other mem => h.below other (sub mem)
      running := rfl
      firing := nofun
      live := fun other mem _ => by
        have different : other.id ≠ timer.id := of_decide_eq_true (List.mem_filter.1 mem).2
        exact h.live other (sub mem) fun firing heq => Option.some.inj heq ▸ different
      held := fun a mem id fires => by
        obtain ⟨other, live, same, ticket⟩ := h.held a mem id fires
        refine ⟨other, List.mem_filter.2 ⟨live, decide_eq_true fun heq => ?_⟩, same, ticket⟩
        have pending := fireId?_of_mem_alarms mem fires
        have none := (h.firing timer rfl).2
        rw [← heq, same] at none
        omega
      own := fun other mem => h.own other (sub mem)
      ticketed := fun other mem => h.ticketed other (sub mem) }

/-- A firing ends with its timer armed again. -/
theorem rearm {timer : Timer} (h : Armed (some timer) timers l sweepTicket)
    (live : timer.id ∈ timers.live.map Timer.id) (due : Nat) :
    Armed none (timers.rearmed timer.id l.nextTicket)
      { l with
        alarms := Lanes.insertAlarm ⟨l.nextTicket, due, .fire timer.id⟩ l.alarms
        nextTicket := l.nextTicket + 1 } sweepTicket := by
  have count := count_fire l due l.nextTicket timer.id
  obtain ⟨below, spent⟩ := h.firing timer rfl
  have mem_rearmed : ∀ {entry}, entry ∈ (timers.rearmed timer.id l.nextTicket).live →
      (entry.id = timer.id ∧ entry.ticket = some l.nextTicket) ∨
        entry ∈ timers.live ∧ entry.id ≠ timer.id := by
    intro entry mem
    obtain ⟨original, live, rfl⟩ := List.mem_map.1 mem
    by_cases same : original.id = timer.id
    · exact .inl (by simp [same])
    · exact .inr ⟨(if_neg same).symm ▸ live, (if_neg same).symm ▸ same⟩
  exact
    { ids := by
        rw [timers.rearmed_ids timer.id l.nextTicket]
        exact h.ids
      below := fun entry mem => by
        rcases mem_rearmed mem with ⟨same, -⟩ | ⟨mem, -⟩
        · exact same ▸ below
        · exact h.below entry mem
      running := rfl
      firing := nofun
      pending := fun id mem => by
        have mem := List.count_pos_iff.2 mem
        rw [count] at mem
        by_cases same : timer.id = id
        · exact same ▸ below
        · rw [if_neg same] at mem
          exact h.pending id (List.count_pos_iff.1 mem)
      once := fun id => by
        rw [count]
        by_cases same : timer.id = id
        · subst same
          simp [spent]
        · rw [if_neg same]
          exact h.once id
      live := fun entry mem _ => by
        rw [count]
        rcases mem_rearmed mem with ⟨same, -⟩ | ⟨mem, different⟩
        · rw [same, if_pos rfl, spent]
        · rw [if_neg (Ne.symm different)]
          exact h.live entry mem fun firing heq => Option.some.inj heq ▸ different
      held := fun a mem id fires => by
        rcases mem_alarms mem with rfl | mem
        · cases fires
          obtain ⟨entry, mem, same⟩ := List.mem_map.1 live
          exact ⟨_, List.mem_map.2 ⟨entry, mem, if_pos same⟩, same, rfl⟩
        · have different : id ≠ timer.id := by
            rintro rfl
            have pending := fireId?_of_mem_alarms mem fires
            omega
          obtain ⟨entry, live, same, ticket⟩ := h.held a mem id fires
          exact ⟨entry, List.mem_map.2 ⟨entry, live, if_neg (same ▸ different)⟩, same, ticket⟩
      own := fun entry mem a mem' ticket => by
        rcases mem_rearmed mem with ⟨same, held⟩ | ⟨mem, -⟩
        · rcases mem_alarms mem' with rfl | mem'
          · exact congrArg some same.symm
          · have earlier := h.alarmed a mem'
            have heq : l.nextTicket = a.ticket := Option.some.inj (held.symm.trans ticket)
            omega
        · rcases mem_alarms mem' with rfl | mem'
          · have earlier := h.ticketed entry mem _ ticket
            simp at earlier
          · exact h.own entry mem a mem' ticket
      sweep := h.sweep_arm
      alarmed := h.alarmed_arm
      ticketed := fun entry mem k held => by
        rcases mem_rearmed mem with ⟨-, held'⟩ | ⟨mem, -⟩
        · cases held.symm.trans held'
          exact Nat.lt_succ_self _
        · exact Nat.lt_succ_of_lt (h.ticketed entry mem k held)
      swept := fun k held => Nat.lt_succ_of_lt (h.swept k held)
      urgent := h.urgent }

end Armed
end ScriptHost
