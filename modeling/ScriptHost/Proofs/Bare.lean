import ScriptHost.Proofs.Timekeeping

/-!
# Sessions without their sweeps

What is left of a session when sweeps are left out of account, with everything that tells where they
stand and what they have done: the sweeps in line and the armed one, all tickets, who is in custody,
the releases in the log, and whether the session is paused.

## Main definitions

* `Lanes.bare`, `Timers.bare`, `Session.bare` — without sweeps.
* `Session.seen` — what an operation answers, and the bare session it leads to.

## Main statements

* `Session.armSweep_bare`, `Session.withdrawSweep_bare`, `Session.afterSweep_bare`,
  `Session.pause_bare`, `Session.unpause_bare` — nothing of this is seen of a bare session.
* `Session.post_bare`, `Session.arm_bare` — other messages are.
* `Lanes.Ticketed.disarm_bare` — taking a firing back is seen if tickets are good for firings.
-/

namespace ScriptHost

/-- Whether an entry is a release of a pair. -/
def Entry.isDispose : Entry → Bool
  | .dispose _ => true
  | _ => false

/-- The phase of a session, apart from being paused. -/
def Phase.unpaused : Phase → Phase
  | .paused => .ready
  | p => p

@[simp] theorem Phase.isLive_unpaused (p : Phase) : p.unpaused.isLive = p.isLive := by
  cases p <;> rfl

/-! ## Lanes -/

namespace Lanes

variable {l : Lanes Message} {m : Message}

/-- The queue without sweeps and without tickets. -/
def bare (l : Lanes Message) : Lanes Message := { l with
  ordinary := l.ordinary.filter fun m => !m.isSweep
  alarms := (l.alarms.filter fun a => !a.message.isSweep).map fun a => { a with ticket := 0 }
  nextTicket := 0 }

@[simp] theorem bare_bare (l : Lanes Message) : l.bare.bare = l.bare := by
  simp [bare, List.filter_map, Function.comp_def]

@[simp] theorem accepts_bare (l : Lanes Message) : l.bare.accepts = l.accepts := rfl

theorem post_bare (l : Lanes Message) (other : m.isSweep = false) :
    l.bare.post m = Prod.map id bare (l.post m) := by
  unfold post
  rw [accepts_bare]
  split
  · simp [bare, other]
  · rfl

theorem postUrgent_bare (l : Lanes Message) (m : Message) :
    l.bare.postUrgent m = Prod.map id bare (l.postUrgent m) := by
  unfold postUrgent
  rw [accepts_bare]
  split <;> rfl

theorem postLast_bare (l : Lanes Message) (other : m.isSweep = false) :
    l.bare.postLast m = Prod.map id bare (l.postLast m) := by
  unfold postLast
  rw [l.post_bare other]
  split <;> [skip; skip] <;> simp_all [bare]

theorem arm_sweep_bare (l : Lanes Message) (due : Nat) : (l.arm due .sweep).2.bare = l.bare := by
  unfold arm
  split
  · rfl
  · simp [bare, filter_insertAlarm_of_not, Message.isSweep]

/-- In a lane that is in order a message is armed among those that are left. -/
theorem filter_insertAlarm {p : Alarm Message → Bool} {a : Alarm Message} (h : p a = true)
    {alarms : List (Alarm Message)} (sorted : alarms.Pairwise fun a b => a.due ≤ b.due) :
    (insertAlarm a alarms).filter p = insertAlarm a (alarms.filter p) := by
  induction alarms with
  | nil => simp [insertAlarm, h]
  | cons b rest ih =>
    obtain ⟨first, sorted⟩ := List.pairwise_cons.1 sorted
    have ih := ih sorted
    by_cases le : b.due ≤ a.due
    · rw [insertAlarm, if_pos le, List.filter_cons, List.filter_cons, ih]
      cases p b with
      | true => simp [insertAlarm, le]
      | false => simp
    · have late := Nat.lt_of_not_le le
      rw [insertAlarm, if_neg le, List.filter_cons_of_pos h]
      cases heq : (b :: rest).filter p with
      | nil => rfl
      | cons c others =>
        have mem : c ∈ b :: rest := (List.mem_filter.1 (heq ▸ List.mem_cons_self ..)).1
        have later : a.due < c.due := by
          rcases List.mem_cons.1 mem with rfl | mem
          · exact late
          · exact late.trans_le (first c mem)
        rw [insertAlarm, if_neg later.not_ge]

theorem map_insertAlarm {f : Alarm Message → Alarm Message} (due : ∀ a, (f a).due = a.due)
    (a : Alarm Message) (alarms : List (Alarm Message)) :
    (insertAlarm a alarms).map f = insertAlarm (f a) (alarms.map f) := by
  induction alarms with
  | nil => rfl
  | cons b rest ih =>
    simp only [insertAlarm, List.map_cons, due]
    split
    · rw [List.map_cons, ih]
    · rfl

/-- A message is armed, whatever its ticket. -/
def put (l : Lanes Message) (due : Nat) (m : Message) : Lanes Message :=
  if l.closed then l else { l with alarms := insertAlarm ⟨0, due, m⟩ l.alarms }

theorem arm_bare (sorted : l.alarms.Pairwise fun a b => a.due ≤ b.due)
    (other : m.isSweep = false) (due : Nat) : (l.arm due m).2.bare = l.bare.put due m := by
  cases closed : l.closed with
  | true => rw [arm_of_closed closed, put, if_pos (by exact closed)]
  | false =>
    rw [arm_of_open closed, put, if_neg (by simp [bare, closed])]
    have kept := filter_insertAlarm (p := fun a => !a.message.isSweep)
      (a := ⟨l.nextTicket, due, m⟩) (by simp [other]) sorted
    simp only [bare, kept]
    rw [map_insertAlarm (f := fun a => { a with ticket := 0 }) fun _ => rfl]

theorem arm_isSome (l : Lanes Message) (due : Nat) (m : Message) :
    (l.arm due m).1.isSome = !l.closed := by
  cases closed : l.closed with
  | true => rw [arm_of_closed closed]; rfl
  | false => rw [arm_of_open closed]; rfl

/-- Nothing but sweeps is taken back. -/
theorem filter_bare {p : Alarm Message → Bool}
    (sweeps : ∀ a ∈ l.alarms, p a = false → a.message.isSweep = true) :
    ({ l with alarms := l.alarms.filter p } : Lanes Message).bare = l.bare := by
  have same : (l.alarms.filter p).filter (fun a => !a.message.isSweep) =
      l.alarms.filter fun a => !a.message.isSweep := by
    rw [List.filter_filter]
    refine List.filter_congr fun a mem => ?_
    cases kept : p a with
    | true => simp
    | false => simp [sweeps a mem kept]
  simp only [bare, same]

theorem deliverDue_bare (sorted : l.alarms.Pairwise fun a b => a.due ≤ b.due) (clock : Nat) :
    (l.deliverDue clock).bare = l.bare.deliverDue clock := by
  have sorted' : l.bare.alarms.Pairwise fun a b => a.due ≤ b.due :=
    List.pairwise_map.2 (sorted.filter _)
  obtain ⟨taken, left⟩ := dropWhile_due sorted clock
  obtain ⟨taken', left'⟩ := dropWhile_due sorted' clock
  simp only [deliverDue, taken, left, taken', left']
  simp only [bare, List.filter_append, List.filter_map, List.map_map, List.filter_filter,
    Function.comp_def, Bool.and_comm]

/-- The next message is seen if it is no sweep. -/
theorem next?_bare {rest : Lanes Message} (other : m.isSweep = false)
    (next : l.next? = some (m, rest)) : l.bare.next? = some (m, rest.bare) := by
  rcases next?_cases next with ⟨urgent, first, rfl⟩ | ⟨none, ordinary, first, rfl⟩
  · simp [next?, bare, first]
  · simp [next?, bare, none, first, other]

/-- The tickets of these timers are good for their own firings, and for nothing else. -/
def Ticketed (l : Lanes Message) (timers : List Timer) : Prop :=
  ∀ timer ∈ timers, ∀ a ∈ l.alarms,
    timer.ticket = some a.ticket ↔ a.message.fireId? = some timer.id

/-- The firing of a timer is taken back. -/
def disarm (l : Lanes Message) (id : Nat) : Lanes Message :=
  { l with alarms := l.alarms.filter fun a => a.message.fireId? ≠ some id }

theorem Ticketed.disarm_bare {timers : List Timer} (h : l.Ticketed timers) {timer : Timer}
    (mem : timer ∈ timers) :
    ({ l with alarms := l.alarms.filter fun a => some a.ticket ≠ timer.ticket } :
      Lanes Message).bare = l.bare.disarm timer.id := by
  have same : l.alarms.filter (fun a => some a.ticket ≠ timer.ticket) =
      l.alarms.filter fun a => a.message.fireId? ≠ some timer.id := by
    refine List.filter_congr fun a among => ?_
    rw [decide_eq_decide, ne_eq, ne_eq, ← h timer mem a among, eq_comm]
  simp only [bare, disarm, same, List.filter_map, List.filter_filter, Function.comp_def,
    Bool.and_comm]

end Lanes

theorem Armed.isTicketed {fired : Option Timer} {timers : Timers} {l : Lanes Message}
    {sweepTicket : Option Nat} (h : Armed fired timers l sweepTicket) :
    l.Ticketed timers.live := by
  intro timer mem a among
  refine ⟨h.own timer mem a among, fun fires => ?_⟩
  obtain ⟨other, live, same, ticket⟩ := h.held a among timer.id fires
  exact List.inj_on_of_nodup_map h.ids live mem same ▸ ticket

/-! ## Timers -/

/-- A timer without its ticket. -/
def Timer.bare (timer : Timer) : Timer := { timer with ticket := none }

namespace Timers

/-- The table without tickets. -/
def bare (t : Timers) : Timers := { t with live := t.live.map Timer.bare }

variable (t : Timers) (id : Nat)

@[simp] theorem bare_bare : t.bare.bare = t.bare := by simp [bare, Timer.bare]

theorem find?_bare : t.bare.find? id = (t.find? id).map Timer.bare :=
  find?_update Timer.bare (fun _ => rfl) t t.running id

@[simp] theorem isLive_bare : t.bare.isLive id = t.isLive id := by
  simp [isLive, find?_bare]

theorem remove_bare : (t.remove id).bare = t.bare.remove id := by
  simp only [bare, remove, List.filter_map]
  rfl

theorem firing_bare (timer : Timer) : (t.firing timer).bare = (t.bare.firing timer).bare := by
  simp only [bare, firing, List.map_map]
  congr 1
  refine List.map_congr_left fun other _ => ?_
  by_cases same : other.id = timer.id <;> simp [same, Timer.bare]

theorem rearmed_bare (ticket : Nat) :
    (t.rearmed id ticket).bare = { t.bare with running := none } := by
  simp only [bare, rearmed, List.map_map]
  congr 1
  refine List.map_congr_left fun other _ => ?_
  by_cases same : other.id = id <;> simp [same, Timer.bare]

theorem retired_bare : (t.retired id).bare = t.bare.retired id :=
  congrArg (fun t : Timers => { t with running := none }) (t.remove_bare id)

/-- A timer is entered whatever its ticket. -/
theorem schedule_seen {t t' : Timers} (same : t.bare = t'.bare) (pair : Pair) (delay : Nat)
    (recurring : Bool) {ticket ticket' : Option Nat} (isSome : ticket.isSome = ticket'.isSome) :
    (t.schedule pair delay recurring ticket).1 = (t'.schedule pair delay recurring ticket').1 ∧
      (t.schedule pair delay recurring ticket).2.bare =
        (t'.schedule pair delay recurring ticket').2.bare := by
  have ids : t.nextId = t'.nextId := congrArg (·.nextId) same
  cases ticket with
  | none =>
    obtain rfl : ticket' = none := by simpa using isSome.symm
    exact ⟨rfl, congrArg (fun t : Timers => { t with nextId := t.nextId + 1 }) same⟩
  | some k =>
    obtain ⟨k', rfl⟩ := Option.isSome_iff_exists.1 isSome.symm
    have entered (t : Timers) (k : Nat) : (t.schedule pair delay recurring (some k)).2.bare =
        (t.bare.schedule pair delay recurring (some 0)).2.bare := by
      simp [bare, schedule, Timer.bare, Function.comp_def]
    exact ⟨congrArg some ids, by rw [entered, entered t', same]⟩

end Timers

/-! ## Sessions -/

namespace Session

variable {s t : Session} {m : Message} {α : Type}

/-- What is left of a session without its sweeps. -/
def bare (s : Session) : Session := { s with
  phase := s.phase.unpaused
  lanes := s.lanes.bare
  custody := .empty
  timers := s.timers.bare
  sweepTicket := none
  log := s.log.filter fun e => !e.isDispose
  journal := [.registered s.journal.registered] }

/-- What an operation answers, and the bare session it leads to. -/
def seen (x : α × Session) : α × Session := (x.1, x.2.bare)

@[simp] theorem bare_bare (s : Session) : s.bare.bare = s.bare := by
  have unpaused : s.phase.unpaused.unpaused = s.phase.unpaused := by cases s.phase <;> rfl
  simp [bare, unpaused, List.filter_filter, Journal.registered]

@[simp] theorem isLive_bare (s : Session) : s.bare.isLive = s.isLive := by
  simp [isLive, bare, Lanes.bare]

@[simp] theorem admits_bare (s : Session) (door : Door) : s.bare.admits door = s.admits door := by
  simp only [admits, isLive_bare]
  rfl

/-! ## Messages -/

theorem post_bare (s : Session) (other : m.isSweep = false) : s.bare.post m = seen (s.post m) := by
  have posted := s.lanes.post_bare other
  unfold post
  rw [show s.bare.lanes = s.lanes.bare from rfl, posted]
  rfl

theorem postUrgent_bare (s : Session) (m : Message) :
    s.bare.postUrgent m = seen (s.postUrgent m) := by
  have posted := s.lanes.postUrgent_bare m
  unfold postUrgent
  rw [show s.bare.lanes = s.lanes.bare from rfl, posted]
  rfl

/-- A message is armed, whatever its ticket. -/
def put (s : Session) (delay : Nat) (m : Message) : Session :=
  { s with lanes := s.lanes.put (s.clock + delay) m }

theorem arm_bare (sorted : s.lanes.alarms.Pairwise fun a b => a.due ≤ b.due)
    (other : m.isSweep = false) (delay : Nat) : (s.arm delay m).2.bare = s.bare.put delay m := by
  have armed := Lanes.arm_bare sorted other (s.clock + delay)
  unfold arm bare
  dsimp only
  rw [armed]
  rfl

theorem note_bare (s : Session) {e : Entry} (other : e.isDispose = false) :
    (s.note e).bare = s.bare.note e := by
  simp [note, bare, other]

theorem record_bare (s : Session) {e : Event} (other : ∀ pairs, e ≠ .registered pairs) :
    (s.record e).bare = s.bare := by
  have same : Journal.registered (e :: s.journal) = s.journal.registered := by
    cases e with
    | registered pairs => exact absurd rfl (other pairs)
    | _ => rfl
  simp only [record, bare, same]

theorem bury_bare (s : Session) (p : Pair) : (s.bury p).bare = s.bare := rfl

theorem buryAll_bare (s : Session) (pairs : List Pair) : (s.buryAll pairs).bare = s.bare := rfl

/-! ## Sweeps -/

theorem armSweep_bare (s : Session) (periodic : Bool) : (s.armSweep periodic).bare = s.bare := by
  rcases armSweep_cases s periodic with h | h | ⟨-, h⟩ <;> rw [h]
  · rfl
  · have armed := s.lanes.arm_sweep_bare (s.clock + s.settings.cleanupInterval)
    simp only [arm, bare, armed]

theorem withdrawSweep_bare (tidy : s.Tidy) : s.withdrawSweep.bare = s.bare := by
  have sweeps : ∀ a ∈ s.lanes.alarms, decide (some a.ticket ≠ s.sweepTicket) = false →
      a.message.isSweep = true := fun a mem held =>
    (tidy.sweeps a mem).2 (not_not.1 (of_decide_eq_false held)).symm
  rw [withdrawSweep_eq]
  simp only [bare, Lanes.filter_bare sweeps]

theorem pause_bare (tidy : s.Tidy) : s.pause.2.bare = s.bare := by
  rcases pause_cases s with h | ⟨ready, h⟩ <;> rw [h]
  refine (withdrawSweep_bare (s := { s with phase := .paused }) tidy).trans ?_
  simp only [bare, ready, Phase.unpaused]

theorem unpause_bare (s : Session) : s.unpause.2.bare = s.bare := by
  rcases unpause_cases s with h | ⟨paused, h⟩ <;> rw [h]
  rw [armSweep_bare]
  simp only [bare, paused, Phase.unpaused]

theorem sweepGraveyard_bare (s : Session) : s.sweepGraveyard.2.bare = s.bare := by
  obtain ⟨released, failures, h, -⟩ := s.sweepGraveyard_eq
  rw [h]
  simp [bare, Journal.registered, Entry.isDispose]

/-- Nothing is seen of a sweep. -/
theorem swept_bare (s : Session) :
    (s.engaged fun s => s.sweepGraveyard.2).bare = s.bare := by
  by_cases free : s.lock = .free
  · rw [engaged_free free]
    have swept := sweepGraveyard_bare { s with lock := ⟨some .loop⟩ }
    have unlocked := congrArg unlock swept
    exact unlocked.trans (by simp [unlock, bare, Lock.release, free])
  · rw [engaged_held free]

theorem afterSweep_bare (s : Session) : s.afterSweep.bare = s.bare :=
  (armSweep_bare _ true).trans s.swept_bare

end Session
end ScriptHost
