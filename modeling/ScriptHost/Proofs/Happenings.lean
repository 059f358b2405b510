import Mathlib.Data.List.Forall2
import Mathlib.Data.List.Infix
import Mathlib.Data.List.TakeWhile
import ScriptHost.Proofs.Queue

/-!
# What has happened to a queue

The history of a queue: what has been posted, armed and withdrawn, what has come due, and what the
loop has taken. The operations on a queue keep to a discipline, which can be read off from the
history: the ordinary lane is handled in the order in which messages have joined it, urgent messages
go ahead, and armed messages join in the order of their time.

## Main definitions

* `Happening` — what happens to a queue; `History` — what has happened to it.
* `History.joined`, `History.handled`, `History.delayed`, … — what can be read off from it.
* `Lanes.Change` — what those who use a queue can do to it; `Lanes.Changes` — one after the other.
* `Lanes.taking` — what it is for the loop to take a message.
* `Lanes.After` — where a queue stands after what has happened to it.

## Main statements

* `Lanes.After.change`, `Lanes.After.due`, `Lanes.After.taken` — each operation keeps to it.

## Design notes

A history has the first happening first. Messages that have come due have joined the ordinary lane;
those that have been armed have not. A queue that has been deserted has lost what was in it, so its
lanes tell nothing any more, but its history does.
-/

namespace ScriptHost

variable {μ : Type}

/-- What happens to a queue. -/
inductive Happening (μ : Type) where
  /-- The ordinary lane has accepted a message. -/
  | posted (m : μ)
  /-- The urgent lane has accepted a message. -/
  | urged (m : μ)
  | armed (a : Alarm μ)
  /-- An alarm has been taken back while it was armed. -/
  | withdrawn (ticket : Nat)
  /-- The last message has been accepted. -/
  | last (m : μ)
  /-- The queue has been closed without a last message, since nobody takes any. -/
  | closed
  | deserted
  /-- Alarms have come due. -/
  | due (alarms : List (Alarm μ))
  /-- The loop has taken a message from the urgent lane. -/
  | attended (m : μ)
  /-- The loop has taken a message from the ordinary lane. -/
  | handled (clock : Nat) (m : μ)

/-- How a message has come to the ordinary lane. -/
inductive Arrival (μ : Type) where
  | posted (m : μ)
  | delayed (a : Alarm μ)
  | last (m : μ)

namespace Arrival

def message : Arrival μ → μ
  | .posted m => m
  | .delayed a => a.message
  | .last m => m

def isLast : Arrival μ → Bool
  | .last _ => true
  | _ => false

/-- The alarm, of a message that has been armed. -/
def alarm? : Arrival μ → Option (Alarm μ)
  | .delayed a => some a
  | _ => none

/-- A message has been handled at a time, and not before its time. -/
def HandledAt (x : Arrival μ) (taken : Nat × μ) : Prop :=
  x.message = taken.2 ∧ ∀ a ∈ x.alarm?, a.due ≤ taken.1

end Arrival

namespace Happening

/-- The messages that join the ordinary lane. -/
def arrivals : Happening μ → List (Arrival μ)
  | .posted m => [.posted m]
  | .due alarms => alarms.map .delayed
  | .last m => [.last m]
  | _ => []

/-- The message that the loop takes from the ordinary lane, and when. -/
def handled? : Happening μ → Option (Nat × μ)
  | .handled clock m => some (clock, m)
  | _ => none

def urged? : Happening μ → Option μ
  | .urged m => some m
  | _ => none

def attended? : Happening μ → Option μ
  | .attended m => some m
  | _ => none

def armed? : Happening μ → Option (Alarm μ)
  | .armed a => some a
  | _ => none

def withdrawn? : Happening μ → Option Nat
  | .withdrawn ticket => some ticket
  | _ => none

def isLast : Happening μ → Bool
  | .last _ => true
  | _ => false

/-- Whether the queue accepts something. -/
def isAccepted : Happening μ → Bool
  | .posted _ | .urged _ | .armed _ | .last _ => true
  | _ => false

end Happening

/-- What has happened to a queue, the first happening first. -/
abbrev History (μ : Type) := List (Happening μ)

namespace History

/-- The messages that have joined the ordinary lane, in that order. -/
def joined (h : History μ) : List (Arrival μ) := h.flatMap Happening.arrivals

/-- The armed messages among them. -/
def delayed (h : History μ) : List (Alarm μ) := h.joined.filterMap Arrival.alarm?

/-- The messages that have been taken from the ordinary lane, and when. -/
def handled (h : History μ) : List (Nat × μ) := h.filterMap Happening.handled?

/-- The messages that have joined the urgent lane. -/
def urged (h : History μ) : List μ := h.filterMap Happening.urged?

/-- The messages that have been taken from the urgent lane. -/
def attended (h : History μ) : List μ := h.filterMap Happening.attended?

def armed (h : History μ) : List (Alarm μ) := h.filterMap Happening.armed?

/-- The tickets of what has been taken back while it was armed. -/
def withdrawn (h : History μ) : List Nat := h.filterMap Happening.withdrawn?

section
variable (h k : History μ)

@[simp] theorem joined_append : (h ++ k : History μ).joined = h.joined ++ k.joined :=
  List.flatMap_append

@[simp] theorem delayed_append : (h ++ k : History μ).delayed = h.delayed ++ k.delayed := by
  simp [delayed]

@[simp] theorem handled_append : (h ++ k : History μ).handled = h.handled ++ k.handled :=
  List.filterMap_append ..

@[simp] theorem urged_append : (h ++ k : History μ).urged = h.urged ++ k.urged :=
  List.filterMap_append ..

@[simp] theorem attended_append : (h ++ k : History μ).attended = h.attended ++ k.attended :=
  List.filterMap_append ..

@[simp] theorem armed_append : (h ++ k : History μ).armed = h.armed ++ k.armed :=
  List.filterMap_append ..

@[simp] theorem withdrawn_append : (h ++ k : History μ).withdrawn = h.withdrawn ++ k.withdrawn :=
  List.filterMap_append ..

end

theorem delayed_due (alarms : List (Alarm μ)) : delayed [.due alarms] = alarms := by
  simp only [delayed, joined, List.flatMap_singleton, Happening.arrivals, List.filterMap_map]
  exact List.filterMap_some

end History

/-- The order of alarms: by time, and by ticket at one time. -/
def Alarm.Before (a b : Alarm μ) : Prop := a.due < b.due ∨ a.due = b.due ∧ a.ticket < b.ticket

namespace Lanes

/-! ## Changes -/

/-- What those who use a queue can do to it. -/
inductive Change (clock : Nat) : Lanes μ → Happening μ → Lanes μ → Prop where
  | posted {l l' : Lanes μ} {m : μ} (h : l.post m = (true, l')) : Change clock l (.posted m) l'
  | urged {l l' : Lanes μ} {m : μ} (h : l.postUrgent m = (true, l')) :
      Change clock l (.urged m) l'
  | armed {l l' : Lanes μ} {m : μ} {due ticket : Nat} (later : clock ≤ due)
      (h : l.arm due m = (some ticket, l')) : Change clock l (.armed ⟨ticket, due, m⟩) l'
  | withdrawn {l : Lanes μ} {ticket : Nat} (h : l.isArmed ticket = true) :
      Change clock l (.withdrawn ticket) (l.withdraw ticket)
  | last {l l' : Lanes μ} {m : μ} (h : l.postLast m = (true, l')) : Change clock l (.last m) l'
  | closed {l l' : Lanes μ} {m : μ} (isOpen : l.closed = false)
      (h : l.postLast m = (false, l')) : Change clock l .closed l'
  | deserted (l : Lanes μ) : Change clock l .deserted l.desert

/-- One change after the other. -/
inductive Changes (clock : Nat) : Lanes μ → History μ → Lanes μ → Prop where
  | none (l : Lanes μ) : Changes clock l [] l
  | more {l l' l'' : Lanes μ} {h : History μ} {e : Happening μ} (d : Changes clock l h l')
      (c : Change clock l' e l'') : Changes clock l (h ++ [e]) l''

theorem Change.one {clock : Nat} {l l' : Lanes μ} {e : Happening μ} (c : Change clock l e l') :
    Changes clock l [e] l' :=
  .more (.none l) c

theorem Changes.trans {clock : Nat} {l l' l'' : Lanes μ} {h k : History μ}
    (d : Changes clock l h l') (d' : Changes clock l' k l'') : Changes clock l (h ++ k) l'' := by
  induction d' with
  | none => simpa using d
  | more _ c ih => simpa using ih.more c

/-- The loop takes the message from the urgent lane if there is any. -/
def taking (l : Lanes μ) (clock : Nat) (m : μ) : Happening μ :=
  if l.urgent.isEmpty then .handled clock m else .attended m

section
variable {l l' : Lanes μ} {m : μ}

theorem accepts_iff : l.accepts = true ↔ l.closed = false ∧ l.deserted = false := by
  simp [accepts]

theorem post_eq_true (h : l.post m = (true, l')) :
    l.closed = false ∧ l.deserted = false ∧ l' = { l with ordinary := l.ordinary ++ [m] } := by
  cases accepts : l.accepts with
  | true =>
    rw [post_of_accepts accepts] at h
    cases h
    exact ⟨(accepts_iff.1 accepts).1, (accepts_iff.1 accepts).2, rfl⟩
  | false =>
    rw [post_of_not_accepts accepts] at h
    cases h

theorem postUrgent_eq_true (h : l.postUrgent m = (true, l')) :
    l.closed = false ∧ l.deserted = false ∧ l' = { l with urgent := l.urgent ++ [m] } := by
  unfold postUrgent at h
  split at h
  · next accepts =>
    cases h
    exact ⟨(accepts_iff.1 accepts).1, (accepts_iff.1 accepts).2, rfl⟩
  · cases h

theorem arm_eq_some {due ticket : Nat} (h : l.arm due m = (some ticket, l')) :
    l.closed = false ∧ ticket = l.nextTicket ∧ l' = { l with
      alarms := insertAlarm ⟨ticket, due, m⟩ l.alarms
      nextTicket := ticket + 1 } := by
  cases closed : l.closed with
  | true =>
    rw [arm_of_closed closed] at h
    cases h
  | false =>
    rw [arm_of_open closed] at h
    cases h
    exact ⟨rfl, rfl, by rw [closed]⟩

theorem postLast_eq_true (h : l.postLast m = (true, l')) :
    l.closed = false ∧ l.deserted = false ∧
      l' = { l with ordinary := l.ordinary ++ [m], closed := true } := by
  unfold postLast at h
  split at h
  · cases h
  generalize posted : l.post m = r at h
  obtain ⟨b, k⟩ := r
  cases h
  obtain ⟨isOpen, taken, rfl⟩ := post_eq_true posted
  exact ⟨isOpen, taken, rfl⟩

theorem postLast_eq_false (isOpen : l.closed = false) (h : l.postLast m = (false, l')) :
    l.deserted = true ∧ l' = l.close := by
  cases deserted : l.deserted with
  | true =>
    have refused : l.accepts = false := by simp [accepts, deserted]
    simp only [postLast, isOpen, post_of_not_accepts refused] at h
    cases h
    exact ⟨rfl, rfl⟩
  | false =>
    have accepted : l.accepts = true := by simp [accepts, isOpen, deserted]
    simp only [postLast, isOpen, post_of_accepts accepted] at h
    cases h

end

end Lanes

/-! ## The order of alarms -/

namespace Alarm

theorem Before.trans {a b c : Alarm μ} (h : a.Before b) (h' : b.Before c) : a.Before c := by
  simp only [Before] at *
  omega

/-- A new alarm goes behind those that are due no later. -/
theorem insert_sorted {a : Alarm μ} {alarms : List (Alarm μ)} (sorted : alarms.Pairwise Before)
    (newest : ∀ b ∈ alarms, b.ticket < a.ticket) :
    (Lanes.insertAlarm a alarms).Pairwise Before := by
  induction alarms with
  | nil => exact List.pairwise_singleton ..
  | cons b rest ih =>
    obtain ⟨first, sorted⟩ := List.pairwise_cons.1 sorted
    obtain ⟨ticket, newest⟩ := List.forall_mem_cons.1 newest
    unfold Lanes.insertAlarm
    split
    · next le =>
      refine List.pairwise_cons.2 ⟨fun c mem => ?_, ih sorted newest⟩
      rcases List.mem_cons.1 ((Lanes.insertAlarm_perm a rest).mem_iff.1 mem) with rfl | mem
      · show b.due < c.due ∨ b.due = c.due ∧ b.ticket < c.ticket
        omega
      · exact first c mem
    · next lt =>
      have ahead : a.Before b := .inl (by omega)
      refine List.pairwise_cons.2 ⟨fun c mem => ?_, List.pairwise_cons.2 ⟨first, sorted⟩⟩
      rcases List.mem_cons.1 mem with rfl | mem
      · exact ahead
      · exact ahead.trans (first c mem)

end Alarm

namespace Lanes

/-! ## The ordinary lane -/

/-- What has joined the ordinary lane has been handled in that order, or waits. -/
def InLine (h : History μ) (l : Lanes μ) : Prop :=
  ∃ front back, h.joined = front ++ back ∧ List.Forall₂ Arrival.HandledAt front h.handled ∧
    (l.deserted = false → l.ordinary = back.map Arrival.message)

/-- Urgent messages are handled in order, and before every ordinary one. -/
structure Urgently (h : History μ) (l : Lanes μ) : Prop where
  waits : l.deserted = false → h.urged = h.attended ++ l.urgent
  first : ∀ earlier clock m, earlier ++ [.handled clock m] <+: h →
    History.urged earlier = History.attended earlier

/-- Alarms join the ordinary lane in the order of their time, unless they are withdrawn. -/
structure InTime (h : History μ) (clock : Nat) (l : Lanes μ) : Prop where
  sorted : (h.delayed ++ l.alarms).Pairwise Alarm.Before
  distinct : (h.delayed ++ l.alarms).Pairwise fun a b => a.ticket ≠ b.ticket
  ripe : ∀ a ∈ h.delayed, a.due ≤ clock
  armed : ∀ a ∈ h.delayed ++ l.alarms, a ∈ h.armed
  tickets : ∀ a ∈ h.armed, a.ticket < l.nextTicket
  numbered : h.armed.Pairwise fun a b => a.ticket ≠ b.ticket
  withdrawn : ∀ ticket ∈ h.withdrawn, ticket < l.nextTicket ∧
    ∀ a ∈ h.delayed ++ l.alarms, a.ticket ≠ ticket

/-- Nothing is accepted behind the last message. -/
structure Lastly (h : History μ) (l : Lanes μ) : Prop where
  isOpen : l.closed = false → ∀ e ∈ h, e.isLast = false
  quiet : h.Pairwise fun e e' => e.isLast = true → e'.isAccepted = false

/-- Where a queue stands after what has happened to it. -/
structure After (h : History μ) (clock : Nat) (l : Lanes μ) : Prop where
  inLine : l.InLine h
  urgently : l.Urgently h
  inTime : l.InTime h clock
  lastly : l.Lastly h

section
variable {h : History μ} {e : Happening μ} {clock : Nat} {l l' : Lanes μ}

theorem InLine.join (a : l.InLine h) (more : List (Arrival μ)) (arrivals : e.arrivals = more)
    (handled : e.handled? = none)
    (ordinary : l'.deserted = false →
      l.deserted = false ∧ l'.ordinary = l.ordinary ++ more.map Arrival.message) :
    l'.InLine (h ++ [e]) := by
  obtain ⟨front, back, joined, handledAt, waits⟩ := a
  refine ⟨front, back ++ more, ?_, ?_, fun taken => ?_⟩
  · rw [History.joined_append, joined, List.append_assoc]
    simp [History.joined, arrivals]
  · simpa [History.handled, handled] using handledAt
  · obtain ⟨before, ordinary⟩ := ordinary taken
    rw [ordinary, waits before, List.map_append]

theorem InLine.change (a : l.InLine h) (c : Change clock l e l') : l'.InLine (h ++ [e]) := by
  cases c with
  | @posted _ m posted =>
    obtain ⟨-, taken, rfl⟩ := post_eq_true posted
    exact a.join [.posted m] rfl rfl fun _ => ⟨taken, rfl⟩
  | urged posted =>
    obtain ⟨-, taken, rfl⟩ := postUrgent_eq_true posted
    exact a.join [] rfl rfl fun _ => ⟨taken, (List.append_nil _).symm⟩
  | armed _ armed =>
    obtain ⟨-, -, rfl⟩ := arm_eq_some armed
    exact a.join [] rfl rfl fun taken => ⟨taken, (List.append_nil _).symm⟩
  | withdrawn => exact a.join [] rfl rfl fun taken => ⟨taken, (List.append_nil _).symm⟩
  | @last _ m posted =>
    obtain ⟨-, taken, rfl⟩ := postLast_eq_true posted
    exact a.join [.last m] rfl rfl fun _ => ⟨taken, rfl⟩
  | closed isOpen refused =>
    obtain ⟨-, rfl⟩ := postLast_eq_false isOpen refused
    exact a.join [] rfl rfl fun taken => ⟨taken, (List.append_nil _).symm⟩
  | deserted => exact a.join [] rfl rfl nofun

theorem Urgently.add (a : l.Urgently h) (handled : e.handled? = none)
    (waits : l'.deserted = false → l.deserted = false ∧
      l.urgent ++ History.urged [e] = History.attended [e] ++ l'.urgent) :
    l'.Urgently (h ++ [e]) where
  waits taken := by
    obtain ⟨before, urgent⟩ := waits taken
    rw [History.urged_append, History.attended_append, a.waits before, List.append_assoc, urgent,
      List.append_assoc]
  first earlier clock m heeded := by
    rcases List.prefix_concat_iff.1 heeded with same | heeded
    · obtain ⟨-, rfl⟩ := List.append_singleton_inj.1 same
      cases handled
    · exact a.first earlier clock m heeded

theorem Urgently.change (a : l.Urgently h) (c : Change clock l e l') : l'.Urgently (h ++ [e]) := by
  have still : l.urgent ++ [] = [] ++ l.urgent := List.append_nil _
  cases c with
  | posted posted =>
    obtain ⟨-, taken, rfl⟩ := post_eq_true posted
    exact a.add rfl fun _ => ⟨taken, still⟩
  | urged posted =>
    obtain ⟨-, taken, rfl⟩ := postUrgent_eq_true posted
    exact a.add rfl fun _ => ⟨taken, rfl⟩
  | armed _ armed =>
    obtain ⟨-, -, rfl⟩ := arm_eq_some armed
    exact a.add rfl fun taken => ⟨taken, still⟩
  | withdrawn => exact a.add rfl fun taken => ⟨taken, still⟩
  | last posted =>
    obtain ⟨-, taken, rfl⟩ := postLast_eq_true posted
    exact a.add rfl fun _ => ⟨taken, still⟩
  | closed isOpen refused =>
    obtain ⟨-, rfl⟩ := postLast_eq_false isOpen refused
    exact a.add rfl fun taken => ⟨taken, still⟩
  | deserted => exact a.add rfl nofun

/-- What arms nothing, and brings nothing to the lane before its time. -/
theorem InTime.fewer (a : l.InTime h clock) (armed : History.armed [e] = [])
    (sub : (History.delayed [e] ++ l'.alarms).Sublist l.alarms)
    (ripe : ∀ a ∈ History.delayed [e], a.due ≤ clock)
    (withdrawn : ∀ ticket ∈ History.withdrawn [e], ticket < l.nextTicket ∧
      ∀ a ∈ h.delayed ++ (History.delayed [e] ++ l'.alarms), a.ticket ≠ ticket)
    (next : l'.nextTicket = l.nextTicket) : l'.InTime (h ++ [e]) clock := by
  have split : (h ++ [e] : History μ).delayed ++ l'.alarms =
      h.delayed ++ (History.delayed [e] ++ l'.alarms) := by
    rw [History.delayed_append, List.append_assoc]
  have sub : (h.delayed ++ (History.delayed [e] ++ l'.alarms)).Sublist (h.delayed ++ l.alarms) :=
    sub.append_left _
  have armed : (h ++ [e] : History μ).armed = h.armed := by
    rw [History.armed_append, armed, List.append_nil]
  refine ⟨?_, ?_, fun b mem => ?_, fun b mem => ?_, ?_, ?_, fun ticket mem => ?_⟩
  · rw [split]
    exact a.sorted.sublist sub
  · rw [split]
    exact a.distinct.sublist sub
  · rw [History.delayed_append] at mem
    exact (List.mem_append.1 mem).elim (a.ripe b) (ripe b)
  · rw [split] at mem
    rw [armed]
    exact a.armed b (sub.subset mem)
  · rw [armed, next]
    exact a.tickets
  · rw [armed]
    exact a.numbered
  · rw [split, next]
    rw [History.withdrawn_append] at mem
    rcases List.mem_append.1 mem with mem | mem
    · obtain ⟨old, gone⟩ := a.withdrawn ticket mem
      exact ⟨old, fun b mem => gone b (sub.subset mem)⟩
    · exact withdrawn ticket mem

theorem InTime.arm (a : l.InTime h clock) {m : μ} {due ticket : Nat} (later : clock ≤ due)
    (armed : l.arm due m = (some ticket, l')) :
    l'.InTime (h ++ [.armed ⟨ticket, due, m⟩]) clock := by
  obtain ⟨-, rfl, rfl⟩ := arm_eq_some armed
  generalize hb : (⟨l.nextTicket, due, m⟩ : Alarm μ) = b
  have ticket : b.ticket = l.nextTicket := hb ▸ rfl
  have due : clock ≤ b.due := hb ▸ later
  have newest : ∀ c ∈ h.armed, c.ticket < b.ticket := ticket ▸ a.tickets
  have delayed : (h ++ [.armed b] : History μ).delayed = h.delayed := by
    rw [History.delayed_append]
    exact List.append_nil _
  have all : (h ++ [.armed b] : History μ).armed = h.armed ++ [b] := History.armed_append ..
  have perm : (h.delayed ++ insertAlarm b l.alarms).Perm (b :: (h.delayed ++ l.alarms)) :=
    ((insertAlarm_perm b l.alarms).append_left _).trans List.perm_middle
  have among : ∀ c ∈ h.delayed ++ insertAlarm b l.alarms, c = b ∨ c ∈ h.delayed ++ l.alarms :=
    fun c mem => List.mem_cons.1 (perm.mem_iff.1 mem)
  obtain ⟨old, waiting, before⟩ := List.pairwise_append.1 a.sorted
  refine ⟨?_, ?_, ?_, fun c mem => ?_, fun c mem => ?_, ?_, fun gone mem => ?_⟩
  · -- Whatever has come due is due no later than now, and so no later than the new alarm.
    rw [delayed]
    refine List.pairwise_append.2 ⟨old, Alarm.insert_sorted waiting fun c mem =>
      newest c (a.armed c (List.mem_append_right _ mem)), fun c early d mem => ?_⟩
    rcases List.mem_cons.1 ((insertAlarm_perm b l.alarms).mem_iff.1 mem) with rfl | mem
    · have ripe := a.ripe c early
      have newer := newest c (a.armed c (List.mem_append_left _ early))
      show c.due < d.due ∨ c.due = d.due ∧ c.ticket < d.ticket
      omega
    · exact before c early d mem
  · rw [delayed]
    refine (perm.pairwise_iff Ne.symm).2 (List.pairwise_cons.2 ⟨fun c mem => ?_, a.distinct⟩)
    have newer := newest c (a.armed c mem)
    omega
  · rw [delayed]
    exact a.ripe
  · rw [delayed] at mem
    rw [all]
    rcases among c mem with rfl | mem
    · exact List.mem_append_right _ (List.mem_singleton_self _)
    · exact List.mem_append_left _ (a.armed c mem)
  · show c.ticket < l.nextTicket + 1
    rw [all] at mem
    rcases List.mem_append.1 mem with mem | mem
    · have newer := a.tickets c mem
      omega
    · rw [List.mem_singleton.1 mem]
      omega
  · rw [all]
    refine List.pairwise_append.2 ⟨a.numbered, List.pairwise_singleton .., fun c mem d mem' => ?_⟩
    have newer := newest c mem
    rw [List.mem_singleton.1 mem']
    omega
  · have none : History.withdrawn [.armed b] = [] := rfl
    rw [History.withdrawn_append, none, List.append_nil] at mem
    obtain ⟨early, away⟩ := a.withdrawn gone mem
    refine ⟨Nat.lt_succ_of_lt early, fun c mem => ?_⟩
    rw [delayed] at mem
    rcases among c mem with rfl | mem
    · omega
    · exact away c mem

theorem InTime.change (a : l.InTime h clock) (c : Change clock l e l') :
    l'.InTime (h ++ [e]) clock := by
  cases c with
  | posted posted =>
    obtain ⟨-, -, rfl⟩ := post_eq_true posted
    exact a.fewer rfl (.refl _) nofun nofun rfl
  | urged posted =>
    obtain ⟨-, -, rfl⟩ := postUrgent_eq_true posted
    exact a.fewer rfl (.refl _) nofun nofun rfl
  | armed later armed => exact a.arm later armed
  | @withdrawn ticket armed =>
    obtain ⟨b, waiting, same⟩ : ∃ b ∈ l.alarms, b.ticket = ticket := by
      simpa [isArmed] using armed
    have known : b ∈ h.delayed ++ l.alarms := List.mem_append_right _ waiting
    refine a.fewer rfl List.filter_sublist nofun (fun gone mem => ?_) rfl
    obtain rfl : gone = ticket := List.mem_singleton.1 mem
    refine ⟨same ▸ a.tickets b (a.armed b known), fun c mem => ?_⟩
    -- What has come due is another alarm, and what is armed has been filtered.
    rcases List.mem_append.1 mem with mem | mem
    · exact same ▸ (List.pairwise_append.1 a.distinct).2.2 c mem b waiting
    · exact of_decide_eq_true (List.mem_filter.1 mem).2
  | last posted =>
    obtain ⟨-, -, rfl⟩ := postLast_eq_true posted
    exact a.fewer rfl (.refl _) nofun nofun rfl
  | closed isOpen refused =>
    obtain ⟨-, rfl⟩ := postLast_eq_false isOpen refused
    exact a.fewer rfl (.refl _) nofun nofun rfl
  | deserted => exact a.fewer rfl (List.nil_sublist _) nofun nofun rfl

theorem Lastly.add (a : l.Lastly h) (accepted : e.isAccepted = true → l.closed = false)
    (closed : l'.closed = false → l.closed = false ∧ e.isLast = false) :
    l'.Lastly (h ++ [e]) where
  isOpen isOpen e' mem := by
    obtain ⟨before, other⟩ := closed isOpen
    rcases List.mem_append.1 mem with mem | mem
    · exact a.isOpen before e' mem
    · exact List.mem_singleton.1 mem ▸ other
  quiet := by
    refine List.pairwise_append.2 ⟨a.quiet, List.pairwise_singleton .., fun e' mem e'' mem' => ?_⟩
    obtain rfl := List.mem_singleton.1 mem'
    intro last
    by_contra some
    have other := a.isOpen (accepted (by simpa using some)) e' mem
    rw [last] at other
    cases other

theorem Lastly.change (a : l.Lastly h) (c : Change clock l e l') : l'.Lastly (h ++ [e]) := by
  cases c with
  | posted posted =>
    obtain ⟨isOpen, -, rfl⟩ := post_eq_true posted
    exact a.add (fun _ => isOpen) fun isOpen => ⟨isOpen, rfl⟩
  | urged posted =>
    obtain ⟨isOpen, -, rfl⟩ := postUrgent_eq_true posted
    exact a.add (fun _ => isOpen) fun isOpen => ⟨isOpen, rfl⟩
  | armed _ armed =>
    obtain ⟨isOpen, -, rfl⟩ := arm_eq_some armed
    exact a.add (fun _ => isOpen) fun isOpen => ⟨isOpen, rfl⟩
  | withdrawn => exact a.add nofun fun isOpen => ⟨isOpen, rfl⟩
  | last posted =>
    obtain ⟨isOpen, -, rfl⟩ := postLast_eq_true posted
    exact a.add (fun _ => isOpen) nofun
  | closed isOpen refused =>
    obtain ⟨-, rfl⟩ := postLast_eq_false isOpen refused
    exact a.add nofun nofun
  | deserted => exact a.add nofun fun isOpen => ⟨isOpen, rfl⟩

theorem After.change (a : l.After h clock) (c : Change clock l e l') : l'.After (h ++ [e]) clock :=
  ⟨a.inLine.change c, a.urgently.change c, a.inTime.change c, a.lastly.change c⟩

theorem After.changes {k : History μ} (a : l.After h clock) (c : Changes clock l k l') :
    l'.After (h ++ k) clock := by
  induction c with
  | none => simpa using a
  | more _ c ih =>
    rw [← List.append_assoc]
    exact ih.change c

/-! ## What the loop does -/

theorem takeWhile_ripe (l : Lanes μ) (now : Nat) :
    ∀ a ∈ l.alarms.takeWhile (·.due ≤ now), a.due ≤ now :=
  fun a mem => of_decide_eq_true (List.mem_takeWhile_imp (x := a) mem)

/-- What is due joins the ordinary lane. -/
theorem After.due (a : l.After h clock) {now : Nat} (past : now ≤ clock) :
    (l.deliverDue now).After (h ++ [.due (l.alarms.takeWhile (·.due ≤ now))]) clock := by
  have whole : l.alarms.takeWhile (·.due ≤ now) ++ (l.deliverDue now).alarms = l.alarms :=
    List.takeWhile_append_dropWhile
  refine ⟨?_, ?_, ?_, ?_⟩
  · refine a.inLine.join ((l.alarms.takeWhile (·.due ≤ now)).map .delayed) rfl rfl fun taken =>
      ⟨taken, ?_⟩
    simp [deliverDue, Arrival.message]
  · exact a.urgently.add rfl fun taken => ⟨taken, List.append_nil _⟩
  · refine a.inTime.fewer rfl ?_ ?_ (fun ticket mem => absurd mem List.not_mem_nil) rfl
    · rw [History.delayed_due, whole]
    · rw [History.delayed_due]
      exact fun b mem => (l.takeWhile_ripe now b mem).trans past
  · exact a.lastly.add (fun accepted => absurd accepted Bool.false_ne_true) fun isOpen =>
      ⟨isOpen, rfl⟩

theorem After.passed (a : l.After h clock) {clock' : Nat} (later : clock ≤ clock') :
    l.After h clock' :=
  { a with inTime := { a.inTime with ripe := fun b mem => (a.inTime.ripe b mem).trans later } }

/-- The loop takes what has been first in its lane. -/
theorem After.taken (a : l.After h clock) (taken : l.deserted = false) {m : μ}
    (next : l.next? = some (m, l')) : l'.After (h ++ [l.taking clock m]) clock := by
  rcases next?_cases next with ⟨urgent, heq, rfl⟩ | ⟨none, ordinary, heq, rfl⟩
  · have taking : l.taking clock m = .attended m := by simp [Lanes.taking, heq]
    rw [taking]
    refine ⟨a.inLine.join [] rfl rfl fun taken => ⟨taken, (List.append_nil _).symm⟩, ?_, ?_, ?_⟩
    · exact a.urgently.add rfl fun taken => ⟨taken, by rw [heq]; exact List.append_nil _⟩
    · exact a.inTime.fewer rfl (.refl _) nofun nofun rfl
    · exact a.lastly.add nofun fun isOpen => ⟨isOpen, rfl⟩
  · have taking : l.taking clock m = .handled clock m := by simp [Lanes.taking, none]
    rw [taking]
    refine ⟨?_, ⟨fun taken => ?_, fun earlier at' m' heeded => ?_⟩, ?_, ?_⟩
    · -- The message in front of those that wait has joined the lane, at its time if it had one.
      obtain ⟨front, back, joined, handledAt, waits⟩ := a.inLine
      have waits := waits taken
      rw [heq] at waits
      obtain ⟨x, back, rfl, rfl, rfl⟩ := List.map_eq_cons_iff.1 waits.symm
      have ripe : ∀ b ∈ x.alarm?, b.due ≤ clock := by
        intro b mem
        refine a.inTime.ripe b (List.mem_filterMap.2 ⟨x, ?_, mem⟩)
        rw [joined]
        exact List.mem_append_right _ (List.mem_cons_self ..)
      refine ⟨front ++ [x], back, ?_, ?_, fun _ => rfl⟩
      · simpa [History.joined, Happening.arrivals] using joined
      · rw [History.handled_append]
        exact List.rel_append handledAt (.cons ⟨rfl, ripe⟩ .nil)
    · have waits := a.urgently.waits taken
      rw [none, List.append_nil] at waits
      rw [History.urged_append, History.attended_append, waits, List.append_assoc, none]
      rfl
    · rcases List.prefix_concat_iff.1 heeded with same | heeded
      · obtain ⟨rfl, -⟩ := List.append_singleton_inj.1 same
        have waits := a.urgently.waits taken
        rwa [none, List.append_nil] at waits
      · exact a.urgently.first earlier at' m' heeded
    · exact a.inTime.fewer rfl (.refl _) nofun nofun rfl
    · exact a.lastly.add nofun fun isOpen => ⟨isOpen, rfl⟩

end

end Lanes
end ScriptHost
