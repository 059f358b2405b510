import ScriptHost.Proofs.Chronicle

/-!
# The upkeep of a session

What matters to the life of a session and to its sweeps fits a small record: its phase, whether its
queue is closed, when the armed sweep is due, and how many sweeps wait in line. Whatever a session
does moves this record in one of a few ways.

## Main definitions

* `Upkeep` — the record.
* `Upkeep.Step`, `Upkeep.Course` — the ways in which it moves.
* `Lanes.sweepsArmed`, `Lanes.sweepsInLine` — the sweeps of a queue.
* `Tidily` — the ticket of the sweep is good for the sweep only, and alarms are in order.

## Main statements

* `Upkeep.Course.sound` — the record stays in order: at most one sweep is armed.
* `Upkeep.Course.tended` — a sweep stays armed as long as it is called for.
-/

namespace ScriptHost

/-! ## The record -/

/-- What matters to the life of a session and to its sweeps. -/
structure Upkeep where
  phase : Phase
  /-- Whether readiness has been announced. -/
  told : Bool
  loop : Loop
  closed : Bool
  clock : Nat
  interval : Nat
  /-- When the armed sweeps are due. -/
  armed : List Nat
  /-- How many sweeps are in line. -/
  waiting : Nat
  /-- Whether the last message is in line. -/
  ending : Bool

namespace Upkeep

/-- A sweep is armed, unless one is armed or nothing is accepted. -/
def arm (u : Upkeep) : Upkeep :=
  if u.armed = [] ∧ u.closed = false then { u with armed := [u.clock + u.interval] } else u

/-- The next periodic sweep is armed; not while the session is paused. -/
def rearm (u : Upkeep) : Upkeep := if u.phase = .paused then u else u.arm

/-- How the record moves, and what is marked of it. -/
inductive Step : Upkeep → List Mark → Upkeep → Prop where
  | asked (u : Upkeep) : Step u [.asked] { u with waiting := u.waiting + 1 }
  | cancelled (u : Upkeep) : Step u [.cancelled] u.arm
  | unlistened (u : Upkeep) : Step u [.unlistened] u.arm
  | paused {u : Upkeep} (ready : u.phase = .ready) :
      Step u [.entered .paused] { u with phase := .paused, armed := [] }
  | unpaused {u : Upkeep} (paused : u.phase = .paused) :
      Step u [.entered .ready] { u with phase := .ready }.arm
  | shut {u : Upkeep} (live : u.phase.isLive = true) (isOpen : u.closed = false)
      (ending : Bool) : Step u [.entered .shuttingDown]
        { u with phase := .shuttingDown, closed := true, armed := [], ending := ending }
  | announced {u : Upkeep} (running : u.loop = .running)
      (initializing : u.phase = .initializing) :
      Step u [.entered .ready] { u with phase := .ready, told := true }
  | handled {u : Upkeep} (running : u.loop = .running) {n : Nat} (waiting : u.waiting = n + 1)
      {mark : Mark} (handled : mark.isHandled = true) :
      Step u [mark] { u with waiting := n }.rearm
  /-- The last message is taken. -/
  | last {u : Upkeep} (ending : Bool) (fewer : ending = true → u.ending = true) :
      Step u [] { u with ending := ending }
  | ended {u : Upkeep} (closing : u.phase = .shuttingDown) : Step u [.entered .terminated]
      { u with phase := .terminated, loop := .ended, armed := [], waiting := 0, ending := false }
  | entered {u : Upkeep} (starting : u.loop = .starting) :
      Step u [] { u.rearm with loop := .running }
  | abandoned {u : Upkeep} (starting : u.loop = .starting) : Step u [.entered .terminated]
      { u with
        phase := .terminated
        loop := .ended
        closed := true
        armed := []
        waiting := 0
        ending := false }
  | crashed {u : Upkeep} (starting : u.loop = .starting) :
      Step u [] { u with loop := .crashed, armed := [], waiting := 0, ending := false }
  | due (u : Upkeep) : Step u [] { u with
      armed := u.armed.filter (u.clock < ·)
      waiting := u.waiting + (u.armed.filter (· ≤ u.clock)).length }
  | passed {u : Upkeep} {clock : Nat} (running : u.loop = .running) (later : u.clock ≤ clock)
      (idle : u.waiting = 0) (early : ∀ due ∈ u.armed, clock ≤ due) :
      Step u [] { u with clock := clock }
  | idled {u : Upkeep} {clock : Nat} (ended : u.loop = .ended) : Step u [] { u with clock := clock }

/-- One move after the other. -/
inductive Course : Upkeep → List Mark → Upkeep → Prop where
  | none (u : Upkeep) : Course u [] u
  | more {u u' u'' : Upkeep} {marks marks' : List Mark} (c : Course u marks u')
      (n : Step u' marks' u'') : Course u (marks ++ marks') u''

variable {u u' u'' : Upkeep} {marks marks' : List Mark}

theorem Course.trans (c : Course u marks u') (c' : Course u' marks' u'') :
    Course u (marks ++ marks') u'' := by
  induction c' with
  | none => simpa using c
  | more _ n ih =>
    rw [← List.append_assoc]
    exact ih.more n

theorem Step.one (n : Step u marks u') : Course u marks u' := (Course.none u).more n

theorem arm_eq (u : Upkeep) : u.arm = { u with armed := u.arm.armed } := by
  unfold arm
  split <;> rfl

/-- Behind an attempt to arm a sweep one is armed, unless nothing is accepted. -/
theorem arm_armed (u : Upkeep) :
    u.arm.armed = u.armed ∧ (u.armed ≠ [] ∨ u.closed = true) ∨
      u.armed = [] ∧ u.closed = false ∧ u.arm.armed = [u.clock + u.interval] := by
  unfold arm
  split
  · next unarmed => exact .inr ⟨unarmed.1, unarmed.2, rfl⟩
  · next other =>
    refine .inl ⟨rfl, ?_⟩
    by_contra both
    simp only [not_or, ne_eq, Decidable.not_not, Bool.not_eq_true] at both
    exact other both

theorem arm_ne_nil (isOpen : u.closed = false) : u.arm.armed ≠ [] := by
  rcases u.arm_armed with ⟨same, armed | closed⟩ | ⟨-, -, armed⟩
  · rwa [same]
  · cases isOpen.symm.trans closed
  · rw [armed]
    exact nofun

theorem rearm_of_paused (paused : u.phase = .paused) : u.rearm = u := if_pos paused

theorem rearm_of_ne (going : u.phase ≠ .paused) : u.rearm = u.arm := if_neg going

theorem rearm_eq (u : Upkeep) : u.rearm = { u with armed := u.rearm.armed } := by
  unfold rearm
  split
  · rfl
  · exact u.arm_eq

/-! ## What is always true of the record -/

/-- What is true of the record of every session: the queue is closed exactly when the session is no
longer live, and at most one sweep is armed, for a time within one interval. -/
structure Sound (u : Upkeep) : Prop where
  begun : u.phase ≠ .created
  closed : u.closed = !u.phase.isLive
  ending : u.ending = true → u.phase = .shuttingDown
  starting : u.loop = .starting → u.phase = .initializing ∨ u.phase = .shuttingDown
  up : u.phase = .ready ∨ u.phase = .paused → u.loop = .running
  told : u.phase = .ready ∨ u.phase = .paused → u.told = true
  ended : u.loop = .ended ↔ u.phase = .terminated
  one : u.armed.length ≤ 1
  soon : ∀ due ∈ u.armed, due ≤ u.clock + u.interval
  shut : u.closed = true → u.armed = []

theorem Sound.arm (h : u.Sound) : u.arm.Sound := by
  rw [arm_eq]
  rcases u.arm_armed with ⟨same, -⟩ | ⟨-, isOpen, armed⟩
  · rw [same]
    exact h
  · rw [armed]
    exact { h with
      one := Nat.le_refl _
      soon := fun due mem => (List.mem_singleton.1 mem).le
      shut := fun closed => nomatch isOpen.symm.trans closed }

theorem Sound.rearm (h : u.Sound) : u.rearm.Sound := by
  unfold Upkeep.rearm
  split
  · exact h
  · exact h.arm

/-- Nothing is armed behind the end of the loop. -/
theorem Sound.unarmed (h : u.Sound) (ended : u.loop = .ended) : u.armed = [] :=
  h.shut (by rw [h.closed, h.ended.1 ended]; rfl)

theorem Step.sound (n : Step u marks u') (h : u.Sound) : u'.Sound := by
  cases n with
  | asked => exact { h with }
  | cancelled => exact h.arm
  | unlistened => exact h.arm
  | paused ready =>
    exact { h with
      begun := nofun
      closed := by rw [h.closed, ready]; rfl
      ending := fun last => nomatch ready.symm.trans (h.ending last)
      starting := fun starting => nomatch (h.up (.inl ready)).symm.trans starting
      up := fun _ => h.up (.inl ready)
      told := fun _ => h.told (.inl ready)
      ended := ⟨fun ended => (nomatch (h.up (.inl ready)).symm.trans ended), nofun⟩
      one := Nat.zero_le _
      soon := nofun
      shut := fun _ => rfl }
  | unpaused paused =>
    have running := h.up (.inr paused)
    have told := h.told (.inr paused)
    refine Sound.arm { h with
      begun := nofun
      closed := by rw [h.closed, paused]; rfl
      ending := fun last => nomatch paused.symm.trans (h.ending last)
      starting := fun starting => nomatch running.symm.trans starting
      up := fun _ => running
      told := fun _ => told
      ended := ⟨fun ended => (nomatch running.symm.trans ended), nofun⟩ }
  | shut live isOpen ending =>
    exact { h with
      begun := nofun
      closed := rfl
      ending := fun _ => rfl
      starting := fun _ => .inr rfl
      up := nofun
      told := nofun
      ended := ⟨fun ended => (by rw [h.ended.1 ended] at live; cases live), nofun⟩
      one := Nat.zero_le _
      soon := nofun
      shut := fun _ => rfl }
  | announced running initializing =>
    exact { h with
      begun := nofun
      closed := by rw [h.closed, initializing]; rfl
      ending := fun last => nomatch initializing.symm.trans (h.ending last)
      starting := fun starting => nomatch running.symm.trans starting
      up := fun _ => running
      told := fun _ => rfl
      ended := ⟨fun ended => (nomatch running.symm.trans ended), nofun⟩ }
  | handled => exact Sound.rearm { h with }
  | last ending fewer => exact { h with ending := fun last => h.ending (fewer last) }
  | ended closing =>
    exact { h with
      begun := nofun
      closed := by rw [h.closed, closing]; rfl
      ending := nofun
      starting := nofun
      up := nofun
      told := nofun
      ended := ⟨fun _ => rfl, fun _ => rfl⟩
      one := Nat.zero_le _
      soon := nofun
      shut := fun _ => rfl }
  | entered starting =>
    have rearmed := h.rearm
    rw [rearm_eq] at rearmed ⊢
    exact { rearmed with
      starting := nofun
      up := fun _ => rfl
      ended := ⟨nofun, fun final => nomatch (h.ended.2 final).symm.trans starting⟩ }
  | abandoned starting =>
    exact { h with
      begun := nofun
      closed := rfl
      ending := nofun
      starting := nofun
      up := nofun
      told := nofun
      ended := ⟨fun _ => rfl, fun _ => rfl⟩
      one := Nat.zero_le _
      soon := nofun
      shut := fun _ => rfl }
  | crashed starting =>
    exact { h with
      ending := nofun
      starting := nofun
      up := fun ready => nomatch (h.up ready).symm.trans starting
      ended := ⟨nofun, fun final => nomatch (h.ended.2 final).symm.trans starting⟩
      one := Nat.zero_le _
      soon := nofun
      shut := fun _ => rfl }
  | due =>
    exact { h with
      one := (List.length_filter_le ..).trans h.one
      soon := fun due mem => h.soon due (List.mem_filter.1 mem).1
      shut := fun closed => by simp [h.shut closed] }
  | passed _ later =>
    exact { h with soon := fun due mem => (h.soon due mem).trans (Nat.add_le_add_right later _) }
  | idled ended =>
    exact { h with soon := fun due mem => by simp [h.unarmed ended] at mem }

theorem Course.sound (c : Course u marks u') (h : u.Sound) : u'.Sound := by
  induction c with
  | none => exact h
  | more _ n ih => exact n.sound ih

/-- A loop that has been entered runs until it ends. -/
theorem Step.entered_loop (n : Step u marks u') (h : u.loop = .running ∨ u.loop = .ended) :
    u'.loop = .running ∨ u'.loop = .ended := by
  cases n with
  | cancelled | unlistened => rwa [arm_eq]
  | unpaused => rw [arm_eq]; exact h
  | handled => rw [rearm_eq]; exact h
  | ended | abandoned => exact .inr rfl
  | entered => exact .inl rfl
  | crashed starting => simp [starting] at h
  | _ => exact h

theorem Course.entered_loop (c : Course u marks u') (h : u.loop = .running ∨ u.loop = .ended) :
    u'.loop = .running ∨ u'.loop = .ended := by
  induction c with
  | none => exact h
  | more _ n ih => exact n.entered_loop ih

/-- While the loop runs and the session has not been paused or closed there is a sweep to come. -/
def Tended (u : Upkeep) : Prop :=
  u.loop = .running → u.phase = .initializing ∨ u.phase = .ready → u.armed ≠ [] ∨ 0 < u.waiting

theorem Tended.arm (h : u.Tended) : u.arm.Tended := by
  intro running going
  rw [arm_eq] at running going ⊢
  refine (h running going).imp_left fun armed => ?_
  rcases u.arm_armed with ⟨same, -⟩ | ⟨none, -, -⟩
  · rwa [same]
  · exact absurd none armed

theorem rearm_ne_nil (h : u.Sound) (going : u.phase = .initializing ∨ u.phase = .ready) :
    u.rearm.armed ≠ [] := by
  have other : u.phase ≠ .paused := by
    rintro paused
    simp [paused] at going
  rw [rearm_of_ne other]
  refine arm_ne_nil ?_
  rcases going with live | live <;> rw [h.closed, live] <;> rfl

theorem Step.tended (n : Step u marks u') (h : u.Sound) (t : u.Tended) : u'.Tended := by
  cases n with
  | asked => exact fun _ _ => .inr (Nat.succ_pos _)
  | cancelled => exact t.arm
  | unlistened => exact t.arm
  | paused => exact fun _ going => by simp at going
  | unpaused paused =>
    refine fun _ _ => .inl (arm_ne_nil ?_)
    have isOpen : u.closed = false := by rw [h.closed, paused]; rfl
    exact isOpen
  | shut => exact fun _ going => by simp at going
  | announced running initializing => exact fun _ _ => t running (.inl initializing)
  | handled _ _ _ =>
    refine fun _ going => .inl (rearm_ne_nil { h with } ?_)
    rwa [rearm_eq] at going
  | last => exact t
  | ended => exact nofun
  | entered =>
    refine fun _ going => .inl (rearm_ne_nil h ?_)
    rwa [rearm_eq] at going
  | abandoned => exact nofun
  | crashed => exact nofun
  | due =>
    intro running going
    rcases t running going with armed | waiting
    · obtain ⟨due, mem⟩ := List.exists_mem_of_ne_nil _ armed
      by_cases later : u.clock < due
      · refine .inl (List.ne_nil_of_mem (List.mem_filter.2 ⟨mem, ?_⟩))
        exact decide_eq_true later
      · have mem : due ∈ u.armed.filter (· ≤ u.clock) :=
          List.mem_filter.2 ⟨mem, decide_eq_true (Nat.not_lt.1 later)⟩
        exact .inr (Nat.lt_add_left _ (List.length_pos_of_mem mem))
    · exact .inr (Nat.lt_add_right _ waiting)
  | passed => exact t
  | idled => exact t

theorem Course.tended (c : Course u marks u') (h : u.Sound) (t : u.Tended) : u'.Tended := by
  induction c with
  | none => exact t
  | more c n ih => exact n.tended (c.sound h) ih

end Upkeep

/-! ## Sweeps in a queue -/

namespace Lanes

variable {l : Lanes Message}

/-- When the armed sweeps are due. -/
def sweepsArmed (l : Lanes Message) : List Nat :=
  (l.alarms.filter (·.message.isSweep)).map (·.due)

/-- How many sweeps are in line. -/
def sweepsInLine (l : Lanes Message) : Nat := l.ordinary.countP Message.isSweep

theorem filter_insertAlarm_of_not {p : Alarm Message → Bool} {a : Alarm Message} (h : p a = false)
    (alarms : List (Alarm Message)) : (insertAlarm a alarms).filter p = alarms.filter p := by
  induction alarms with
  | nil => simp [insertAlarm, h]
  | cons b rest ih =>
    unfold insertAlarm
    split
    · rw [List.filter_cons, List.filter_cons, ih]
    · rw [List.filter_cons_of_neg (by simp [h])]

theorem insertAlarm_sorted {a : Alarm Message} {alarms : List (Alarm Message)}
    (sorted : alarms.Pairwise fun a b => a.due ≤ b.due) :
    (insertAlarm a alarms).Pairwise fun a b => a.due ≤ b.due := by
  induction alarms with
  | nil => exact List.pairwise_singleton ..
  | cons b rest ih =>
    obtain ⟨first, sorted⟩ := List.pairwise_cons.1 sorted
    unfold insertAlarm
    split
    · next le =>
      refine List.pairwise_cons.2 ⟨fun c mem => ?_, ih sorted⟩
      rcases List.mem_cons.1 ((insertAlarm_perm a rest).mem_iff.1 mem) with rfl | mem
      · exact le
      · exact first c mem
    · next lt =>
      refine List.pairwise_cons.2 ⟨fun c mem => ?_, List.pairwise_cons.2 ⟨first, sorted⟩⟩
      rcases List.mem_cons.1 mem with rfl | mem
      · omega
      · exact (Nat.le_of_not_le lt).trans (first c mem)

/-- Where alarms are in order, those that are due come first. -/
theorem dropWhile_due {alarms : List (Alarm Message)}
    (sorted : alarms.Pairwise fun a b => a.due ≤ b.due) (clock : Nat) :
    alarms.takeWhile (·.due ≤ clock) = alarms.filter (·.due ≤ clock) ∧
      alarms.dropWhile (·.due ≤ clock) = alarms.filter (clock < ·.due) := by
  induction alarms with
  | nil => exact ⟨rfl, rfl⟩
  | cons a rest ih =>
    obtain ⟨first, sorted⟩ := List.pairwise_cons.1 sorted
    obtain ⟨taken, left⟩ := ih sorted
    by_cases due : a.due ≤ clock
    · simp [due, taken, left, Nat.not_lt.2 due]
    · have later : ∀ b ∈ rest, clock < b.due := fun b mem =>
        (Nat.lt_of_not_le due).trans_le (first b mem)
      have none : rest.filter (·.due ≤ clock) = [] :=
        List.filter_eq_nil_iff.2 fun b mem => by simpa using later b mem
      have all : rest.filter (clock < ·.due) = rest :=
        List.filter_eq_self.2 fun b mem => by simpa using later b mem
      simp [due, none, all, Nat.lt_of_not_le due]

/-- Taking back other messages leaves the armed sweeps. -/
theorem sweepsArmed_filter {p : Alarm Message → Bool}
    (kept : ∀ a ∈ l.alarms, a.message.isSweep = true → p a = true) :
    sweepsArmed { l with alarms := l.alarms.filter p } = l.sweepsArmed := by
  have same : (l.alarms.filter p).filter (·.message.isSweep) =
      l.alarms.filter (·.message.isSweep) := by
    rw [List.filter_filter]
    refine List.filter_congr fun a mem => ?_
    cases sweep : a.message.isSweep with
    | false => rfl
    | true => simp [kept a mem sweep]
  simp only [sweepsArmed, same]

theorem nextDue?_le (sorted : l.alarms.Pairwise fun a b => a.due ≤ b.due) {a : Alarm Message}
    (mem : a ∈ l.alarms) : ∃ due, l.nextDue? = some due ∧ due ≤ a.due := by
  unfold nextDue?
  cases heq : l.alarms with
  | nil => simp [heq] at mem
  | cons b rest =>
    rw [heq] at sorted mem
    refine ⟨b.due, rfl, ?_⟩
    rcases List.mem_cons.1 mem with rfl | mem
    · exact Nat.le_refl _
    · exact (List.pairwise_cons.1 sorted).1 a mem

end Lanes

/-- The ticket of the sweep is good for the sweep only, no timer has it, and alarms are in order. -/
structure Tidily (l : Lanes Message) (sweepTicket : Option Nat) (timers : List Timer) : Prop where
  sorted : l.alarms.Pairwise fun a b => a.due ≤ b.due
  distinct : l.alarms.Pairwise fun a b => a.ticket ≠ b.ticket
  below : ∀ a ∈ l.alarms, a.ticket < l.nextTicket
  sweeps : ∀ a ∈ l.alarms, a.message.isSweep = true ↔ sweepTicket = some a.ticket
  known : ∀ k, sweepTicket = some k → k < l.nextTicket
  timers : ∀ timer ∈ timers, ∀ k, timer.ticket = some k →
    k < l.nextTicket ∧ sweepTicket ≠ some k
  early : ∀ a ∈ l.alarms, a.message.isLast = false
  urgent : ∀ m ∈ l.urgent, m.isUrgent = true

namespace Tidily

variable {l : Lanes Message} {sweepTicket : Option Nat} {timers timers' : List Timer}

/-- The queue has the same alarms as before, and timers have no new tickets. -/
theorem requeue (h : Tidily l sweepTicket timers) {l' : Lanes Message}
    (alarms : l'.alarms.Sublist l.alarms) (next : l'.nextTicket = l.nextTicket)
    (live : ∀ timer ∈ timers', ∀ k, timer.ticket = some k →
      ∃ other ∈ timers, other.ticket = some k)
    (urgent : ∀ m ∈ l'.urgent, m.isUrgent = true) : Tidily l' sweepTicket timers' where
  sorted := h.sorted.sublist alarms
  distinct := h.distinct.sublist alarms
  below a mem := next ▸ h.below a (alarms.subset mem)
  sweeps a mem := h.sweeps a (alarms.subset mem)
  known k held := next ▸ h.known k held
  timers timer mem k held := by
    obtain ⟨other, mem, held⟩ := live timer mem k held
    rw [next]
    exact h.timers other mem k held
  early a mem := h.early a (alarms.subset mem)
  urgent := urgent

/-- An alarm is set, and the ticket is given to a timer or to nobody. -/
theorem arm (h : Tidily l sweepTicket timers) (due : Nat) {m : Message} (other : m.isSweep = false)
    (early : m.isLast = false) (live : ∀ timer ∈ timers', ∀ k, timer.ticket = some k →
      k = l.nextTicket ∨ ∃ other ∈ timers, other.ticket = some k) :
    Tidily { l with
      alarms := Lanes.insertAlarm ⟨l.nextTicket, due, m⟩ l.alarms
      nextTicket := l.nextTicket + 1 } sweepTicket timers' := by
  have among : ∀ a ∈ Lanes.insertAlarm ⟨l.nextTicket, due, m⟩ l.alarms,
      a = ⟨l.nextTicket, due, m⟩ ∨ a ∈ l.alarms :=
    fun a mem => List.mem_cons.1 ((Lanes.insertAlarm_perm _ _).mem_iff.1 mem)
  refine ⟨Lanes.insertAlarm_sorted h.sorted, ?_, fun a mem => ?_, fun a mem => ?_, fun k held => ?_,
    fun timer mem k held => ?_, fun a mem => ?_, h.urgent⟩
  · refine ((Lanes.insertAlarm_perm _ _).pairwise_iff Ne.symm).2
      (List.pairwise_cons.2 ⟨fun a mem => ?_, h.distinct⟩)
    exact (Nat.ne_of_lt (h.below a mem)).symm
  · rcases among a mem with rfl | mem
    · exact Nat.lt_succ_self _
    · exact Nat.lt_succ_of_lt (h.below a mem)
  · rcases among a mem with rfl | mem
    · simp only [other, Bool.false_eq_true, false_iff]
      exact fun held => absurd (h.known _ held) (Nat.lt_irrefl _)
    · exact h.sweeps a mem
  · exact Nat.lt_succ_of_lt (h.known k held)
  · rcases live timer mem k held with rfl | ⟨other, mem, held⟩
    · exact ⟨Nat.lt_succ_self _, fun held => absurd (h.known _ held) (Nat.lt_irrefl _)⟩
    · obtain ⟨old, own⟩ := h.timers other mem k held
      exact ⟨Nat.lt_succ_of_lt old, own⟩
  · rcases among a mem with rfl | mem
    · exact early
    · exact h.early a mem

/-- What a timer has armed is taken back; no sweep goes with it. -/
theorem withdraw (h : Tidily l sweepTicket timers) {held : Option Nat}
    (own : held = none ∨ ∃ timer ∈ timers, timer.ticket = held) :
    let l' := { l with alarms := l.alarms.filter fun a => some a.ticket ≠ held }
    Tidily l' sweepTicket timers ∧ l'.sweepsArmed = l.sweepsArmed := by
  have kept : ∀ a ∈ l.alarms, a.message.isSweep = true →
      decide (some a.ticket ≠ held) = true := by
    intro a mem sweep
    have ticket := (h.sweeps a mem).1 sweep
    rcases own with rfl | ⟨timer, mem, rfl⟩
    · rfl
    · exact decide_eq_true fun same => (h.timers timer mem a.ticket same.symm).2 ticket
  refine ⟨?_, Lanes.sweepsArmed_filter kept⟩
  exact h.requeue List.filter_sublist rfl (fun timer mem _ ticket => ⟨timer, mem, ticket⟩) h.urgent

end Tidily
end ScriptHost
