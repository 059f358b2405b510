import ScriptHost.Proofs.Moments
import ScriptHost.Proofs.Pending

/-!
# Cancelled timers

Numbers of timers are given out in increasing order, so a timer that has left the table never comes
back. From the moment when it is cancelled no invocation of its callback begins, it is not armed
again, and its pair is put in line once: at once, or when the invocation that is in progress has
returned.

## Main definitions

* `Session.burials` — how often a pair has been put in line.
* `Session.Onward` — what never goes back: numbers, dead timers, and burials.
* `Moment.Cancelled` — what is true of a cancelled timer at every later moment.

## Main statements

* `Session.Deeds.onward`, `Moment.Later.onward` — nothing goes back.
* `Moment.Later.dying` — a timer that has been cancelled stays so.
* `Moment.Occurs.timer_cancellation` — what cancelling a timer comes to, wherever it is done.

## Design notes

While a timer fires, its table entry may go but its pair has to wait for the callback, so the pair
has no owner but the firing. What is kept from the cancellation on says so: the pair that is invoked
under the number of a dead timer is the pair that was cancelled.
-/

namespace ScriptHost

theorem Timers.isLive_iff {t : Timers} {id : Nat} :
    t.isLive id = true ↔ id ∈ t.live.map Timer.id := by
  refine ⟨Ledger.mem_ids_of_isLive, fun mem => ?_⟩
  obtain ⟨timer, source, rfl⟩ := List.mem_map.1 mem
  simpa [isLive, find?] using ⟨timer, source, rfl⟩

namespace Ledger.Balanced

variable {fired : Option Timer} {hand : List Pair} {b : Ledger} {pair : Pair}

/-- A pair has been registered whenever it has been put in line. -/
theorem burials_le (h : Balanced fired hand b) (pair : Pair) :
    b.swept.count pair + b.buried.count pair ≤ b.registered.count pair := by
  have kept := h.kept pair
  have owned := h.owned pair
  simp only [owners, List.count_append] at owned
  omega

/-- A pair that belongs to a timer is not in line. -/
theorem claimed (h : Balanced fired hand b)
    (mem : pair ∈ b.timers.live.map Timer.pair ∨ pair ∈ orphan fired b.timers) :
    pair ∉ b.buried ∧ b.swept.count pair + 1 = b.registered.count pair := by
  have kept := h.kept pair
  have owned := h.owned pair
  have once := List.nodup_iff_count_le_one.1 h.nodup pair
  have some : 0 < (b.timers.live.map Timer.pair).count pair +
      (orphan fired b.timers).count pair := by
    rcases mem with mem | mem
    · have := List.count_pos_iff.2 mem
      omega
    · have := List.count_pos_iff.2 mem
      omega
  simp only [owners, List.count_append] at owned
  exact ⟨List.count_eq_zero.1 (by omega), by omega⟩

end Ledger.Balanced

namespace Session

variable {s t u : Session}

/-- How often a pair has been put in line. -/
def burials (s : Session) (pair : Pair) : Nat :=
  s.journal.swept.count pair + s.custody.buried.count pair

/-- What never goes back: numbers are not given out again, dead timers stay dead, and what has been
put in line has been put there. -/
structure Onward (s t : Session) : Prop where
  numbers : s.timers.nextId ≤ t.timers.nextId
  timers : ∀ id, t.timers.isLive id = true → s.timers.isLive id = true ∨ s.timers.nextId ≤ id
  burials : ∀ pair, s.burials pair ≤ t.burials pair

namespace Onward

/-- Timers are replaced by others of the same numbers, and the line only grows. -/
theorem still (numbers : t.timers.nextId = s.timers.nextId)
    (timers : t.timers.live.map Timer.id ⊆ s.timers.live.map Timer.id)
    (swept : t.journal.swept = s.journal.swept) (line : s.custody.buried <+: t.custody.buried) :
    Onward s t where
  numbers := Nat.le_of_eq numbers.symm
  timers id live := .inl (Timers.isLive_iff.2 (timers (Timers.isLive_iff.1 live)))
  burials pair := by
    have more := line.sublist.count_le pair
    simp only [Session.burials, swept]
    omega

theorem same (timers : t.timers = s.timers) (swept : t.journal.swept = s.journal.swept)
    (line : t.custody.buried = s.custody.buried) : Onward s t :=
  still (by rw [timers]) (by rw [timers]; exact List.Subset.refl _) swept
    (line ▸ List.prefix_refl _)

theorem refl (s : Session) : Onward s s := same rfl rfl rfl

theorem trans (h : Onward s t) (h' : Onward t u) : Onward s u where
  numbers := h.numbers.trans h'.numbers
  timers id live := by
    rcases h'.timers id live with live | new
    · exact h.timers id live
    · exact .inr (h.numbers.trans new)
  burials pair := (h.burials pair).trans (h'.burials pair)

end Onward

/-! ## Operations -/

theorem bury_grows (c : Custody) (pair : Pair) : c.buried <+: (c.bury pair).buried := by
  unfold Custody.bury
  split
  · exact List.prefix_refl _
  · exact List.prefix_append ..

theorem buryAll_grows (c : Custody) (pairs : List Pair) :
    c.buried <+: (c.buryAll pairs).buried := by
  induction pairs generalizing c with
  | nil => exact List.prefix_refl _
  | cons pair rest ih => exact (bury_grows c pair).trans (ih _)

theorem onward_bury (s : Session) (pair : Pair) : Onward s (s.bury pair) :=
  .still rfl (List.Subset.refl _) rfl (bury_grows ..)

theorem onward_buryAll (s : Session) (pairs : List Pair) : Onward s (s.buryAll pairs) :=
  .still rfl (List.Subset.refl _) rfl (buryAll_grows ..)

theorem onward_withdraw (s : Session) (ticket : Option Nat) : Onward s (s.withdraw ticket) := by
  rw [withdraw_eq]
  exact .same rfl rfl rfl

theorem onward_listening (s : Session) : KeptByListening (Onward s) where
  registered _ h := h.trans (.same rfl rfl rfl)
  buried pairs h := h.trans (onward_buryAll _ pairs)
  sweepArmed _ h := h.trans (.same rfl rfl rfl)
  withdrawn ticket h := h.trans (onward_withdraw _ ticket)
  ticketed _ h := h.trans (.same rfl rfl rfl)
  entered _ h := h.trans (.same rfl rfl rfl)
  listeners _ h := h.trans (.same rfl rfl rfl)

theorem onward_requests (s : Session) : KeptByRequests (Onward s) where
  toKeptByCustody := (onward_listening s).toKeptByCustody
  counted _ h := h.trans (.same rfl rfl rfl)
  held _ h := h.trans (.same rfl rfl rfl)
  errands _ h := h.trans (.same rfl rfl rfl)
  posted _ _ h := h.trans (.same rfl rfl rfl)
  dropped _ h := h.trans (.same rfl rfl rfl)
  transported _ h := h.trans (.same rfl rfl rfl)
  sent _ h := h.trans (.same rfl rfl rfl)
  issued _ h := h.trans (.same rfl rfl rfl)

theorem onward_enqueuing (s : Session) : KeptByEnqueuing (Onward s) where
  ticks _ h := h.trans (.same rfl rfl rfl)
  helpers _ h := h.trans (.same rfl rfl rfl)
  accepted _ h := h.trans (.same rfl rfl rfl)
  urged h := h.trans (.same rfl rfl rfl)

theorem onward_schedule (s : Session) (door : Door) (pair : Pair) (delay : Nat)
    (recurring : Bool) : Onward s (s.schedule door pair delay recurring).2 := by
  rcases schedule_cases s door pair delay recurring with h | ⟨t, -, adopted, h⟩ <;> rw [h]
  · exact .refl s
  have adopted := (onward_listening s).adopt adopted (.refl s)
  refine adopted.trans ⟨Nat.le_succ _, fun id live => ?_, fun _ => le_rfl⟩
  -- The timer that is new has a new number.
  have live := Timers.isLive_iff.1 live
  simp only [Timers.schedule, List.map_append, List.mem_append] at live
  rcases live with old | new
  · exact .inl (Timers.isLive_iff.2 old)
  · exact .inr (Nat.le_of_eq (List.mem_singleton.1 new).symm)

theorem remove_ids (t : Timers) (id : Nat) :
    (t.remove id).live.map Timer.id ⊆ t.live.map Timer.id :=
  (List.filter_sublist.map _).subset

theorem onward_cancel (s : Session) (door : Door) (id : Nat) : Onward s (s.cancel door id).2 := by
  rcases cancel_cases s door id with h | ⟨timer, -, cases⟩
  · rw [h]
    exact .refl s
  have removed : Onward s { s with timers := s.timers.remove id } :=
    .still rfl (remove_ids ..) rfl (List.prefix_refl _)
  have withdrawn := removed.trans (onward_withdraw _ timer.ticket)
  rcases cases with ⟨-, h⟩ | ⟨-, h⟩ <;> rw [h]
  · exact (onward_listening s).armSweep false withdrawn
  · exact (onward_listening s).armSweep false (withdrawn.trans (onward_bury _ timer.pair))

/-- Code lets nothing go back. -/
theorem Deeds.onward {thread : Thread} (d : Deeds thread s t) : Onward s t := by
  induction d with
  | none s => exact .refl s
  | trans _ _ ih ih' => exact ih.trans ih'
  | aside h =>
    obtain ⟨_, _, _, _, _, _, _, -, -, rfl⟩ := h
    exact .same rfl rfl rfl
  | schedule s door pair delay recurring => exact onward_schedule s door pair delay recurring
  | cancel s door id => exact onward_cancel s door id
  | enqueue s door noThreads job =>
    exact (onward_enqueuing s).enqueue door _ noThreads job (.refl s)
  | issue s door noThreads order =>
    exact (onward_requests s).issue door noThreads order (.refl s)
  | release s key => exact (onward_requests s).release key (.refl s)
  | listen s door event pair => exact (onward_listening s).listen door event pair (.refl s)
  | unlisten s door event => exact (onward_listening s).unlisten door event (.refl s)
  | pause s => exact (onward_listening s).pause (.refl s)
  | unpause s => exact (onward_listening s).unpause (.refl s)
  | shutdown s query =>
    exact (onward_listening s).beginShutdown (fun h => h.trans (.same rfl rfl rfl))
      (fun h => h.trans (.same rfl rfl rfl)) (.refl s)
  | guarded take _ ih =>
    obtain ⟨-, -, rfl⟩ := takeLock_eq_ok.1 take
    have inner : Onward _ (unlock _) := ih.trans (.same rfl rfl rfl)
    exact ⟨inner.numbers, inner.timers, inner.burials⟩
  | leak take =>
    obtain ⟨-, -, rfl⟩ := takeLock_eq_ok.1 take
    exact .same rfl rfl rfl
  | _ => exact .same rfl rfl rfl

/-! ## What the operations answer -/

theorem schedule_eq_some {door : Door} {pair : Pair} {delay id : Nat} {recurring : Bool}
    (h : (s.schedule door pair delay recurring).1 = some id) :
    id = s.timers.nextId ∧
      (s.schedule door pair delay recurring).2.timers.nextId = id + 1 := by
  cases admitted : s.admits door with
  | false => simp [schedule, admitted] at h
  | true =>
    cases adopted : s.adopt? [pair] with
    | none => simp [schedule, admitted, adopted] at h
    | some t =>
      obtain ⟨-, rfl⟩ := adopt?_eq_some.1 adopted
      have isOpen := lanes_open_of_isLive (isLive_of_admits admitted)
      simp only [schedule, admitted, adopted, arm, record, Lanes.arm_of_open isOpen,
        Timers.schedule] at h ⊢
      cases h
      exact ⟨rfl, rfl⟩

/-- A timer can be cancelled while the session is live and the timer is. -/
theorem cancel_eq_true (s : Session) (door : Door) (id : Nat) :
    (s.cancel door id).1 = true ↔ s.admits door = true ∧ s.timers.isLive id = true := by
  unfold cancel
  cases admitted : s.admits door with
  | false => simp
  | true =>
    cases found : s.timers.find? id with
    | none => simp [Timers.cancel, Timers.isLive, found]
    | some timer =>
      by_cases running : s.timers.running = some id
      · simp [Timers.cancel, Timers.isLive, found, running]
      · simp [Timers.cancel, Timers.isLive, found, running]

/-- A timer that is cancelled leaves the table. Its pair is put in line, unless the timer is firing:
then that is done behind the firing. -/
theorem cancel_found {door : Door} {timer : Timer} (h : (s.cancel door timer.id).1 = true)
    (found : s.timers.find? timer.id = some timer) :
    (s.cancel door timer.id).2.timers = s.timers.remove timer.id ∧
      (s.cancel door timer.id).2.journal = s.journal ∧
      (s.cancel door timer.id).2.custody =
        if s.timers.running = some timer.id then s.custody else s.custody.bury timer.pair := by
  have swept : ∀ t : Session, (t.armSweep false).timers = t.timers ∧
      (t.armSweep false).journal = t.journal ∧ (t.armSweep false).custody = t.custody := by
    intro t
    rcases armSweep_cases t false with h | h | ⟨-, h⟩ <;> rw [h] <;> exact ⟨rfl, rfl, rfl⟩
  have admitted := ((cancel_eq_true s door timer.id).1 h).1
  by_cases running : s.timers.running = some timer.id
  · simp [cancel, admitted, Timers.cancel, found, running, swept, withdraw_eq]
  · simp [cancel, admitted, Timers.cancel, found, running, swept, withdraw_eq, bury]

/-- What cannot be cancelled leaves everything as it is. -/
theorem cancel_eq_false {door : Door} {id : Nat} (h : (s.cancel door id).1 = false) :
    (s.cancel door id).2 = s := by
  unfold cancel at h ⊢
  cases admitted : s.admits door with
  | false => simp
  | true =>
    cases found : s.timers.find? id with
    | none => simp [Timers.cancel, found]
    | some timer =>
      by_cases running : s.timers.running = some id
      · simp [admitted, Timers.cancel, found, running] at h
      · simp [admitted, Timers.cancel, found, running] at h

end Session

/-! ## Moments -/

namespace Moment

open Session (Onward)

variable {m m' m'' : Moment}

theorem Act.onward (a : Act m m') : Onward m.session m'.session := by
  cases a with
  | code d => exact d.onward
  | @fires s timer =>
    exact .still rfl (List.Perm.of_eq (s.timers.firing_ids timer)).subset rfl (List.prefix_refl _)
  | @rearmed s timer =>
    exact .still rfl (List.Perm.of_eq (s.timers.rearmed_ids timer.id _)).subset rfl
      (List.prefix_refl _)
  | retired s timer =>
    exact .still rfl (Session.remove_ids s.timers timer.id) rfl (Session.bury_grows ..)
  | delivered s call => exact Session.onward_buryAll s call.pairs
  | swept s =>
    obtain ⟨_, _, h, -⟩ := s.sweepGraveyard_eq
    rw [h]
    refine ⟨le_rfl, fun _ => .inl, fun pair => ?_⟩
    simp only [Session.burials, Journal.swept, List.count_append, List.count_nil]
    omega
  | sweepArmed s => exact (Session.onward_listening s).armSweep true (.refl s)
  | cleared s =>
    obtain ⟨alarms, -, h⟩ := s.clear_eq
    rw [h]
    exact .still rfl (List.nil_subset _) rfl (Session.buryAll_grows ..)
  | @entered s =>
    have armed := (Session.onward_listening s).armSweep true
      (.same rfl rfl rfl : Onward s (s.postUrgent .ready).2)
    exact ⟨armed.numbers, armed.timers, armed.burials⟩
  | _ => exact .same rfl rfl rfl

theorem Next.onward {k : History Message} (n : Next m k m') : Onward m.session m'.session := by
  cases n with
  | act a => exact a.onward
  | _ => exact .same rfl rfl rfl

theorem Later.onward (l : Later m m') : Onward m.session m'.session := by
  obtain ⟨k, c⟩ := l
  induction c with
  | none => exact .refl _
  | more _ n ih => exact ih.trans n.onward

/-- How often a timer that has been cancelled has given its pair back: not while it still fires. -/
def returned (id : Nat) (m : Moment) : Nat :=
  if m.doing.fired.map Timer.id = some id then 0 else 1

/-- What is true of a timer that has been cancelled at one moment, at a later one. -/
structure Cancelled (id : Nat) (pair : Pair) (m m' : Moment) : Prop where
  /-- It is not live, and cannot be cancelled again. -/
  dead : m'.session.timers.isLive id = false
  refused : ∀ door, (m'.session.cancel door id).1 = false
  /-- A firing that is still in line comes to nothing. -/
  idle : m'.session.fireTimer id = some m'.session
  /-- No invocation of its callback begins. -/
  silent : ∀ {k m'' timer}, Next m' k m'' → m''.doing = .firing timer → timer.id = id →
    m'.doing = .firing timer
  /-- An invocation that is in progress is the last one: the timer is not armed again behind it, and
  its pair is put in line then, and not before. -/
  last : ∀ {k m'' timer}, Next m' k m'' → m'.doing = .firing timer → timer.id = id →
    pair ∉ m'.session.custody.buried ∧
      (m''.doing = m'.doing ∨ m''.doing = .nothing ∧ m''.session.lanes = m'.session.lanes ∧
        m''.session.journal = m'.session.journal ∧
        m''.session.custody.buried = m'.session.custody.buried ++ [pair])
  /-- Its pair is put in line, as soon as no invocation is in progress. -/
  buried : m.session.burials pair + returned id m' ≤ m'.session.burials pair
  /-- It is put in line no more than once: what else is put there has been registered since. -/
  once : m'.session.burials pair + m.session.journal.registered.count pair ≤
    m.session.burials pair + returned id m' + m'.session.journal.registered.count pair

/-- What is kept from one moment to the next about a timer that has been cancelled. -/
structure Dying (id : Nat) (pair : Pair) (before : Nat) (m : Moment) : Prop where
  balanced : m.Balanced
  number : id < m.session.timers.nextId
  dead : m.session.timers.isLive id = false
  mine : ∀ timer, m.doing = .firing timer → timer.id = id → timer.pair = pair
  burials : before ≤ m.session.burials pair
  buried : m.doing.fired.map Timer.id ≠ some id → before < m.session.burials pair

variable {id before : Nat} {pair : Pair}

/-- No invocation of a dead timer begins. -/
theorem Dying.silent {k : History Message} {timer : Timer} (d : Dying id pair before m)
    (n : Next m k m') (fires : m'.doing = .firing timer) (same : timer.id = id) :
    m.doing = .firing timer := by
  cases n with
  | act a =>
    cases a with
    | @fires s timer' found =>
      cases fires
      have live : s.timers.isLive id = true := by simp [Timers.isLive, ← same, found]
      cases live.symm.trans d.dead
    | _ => first | exact fires | cases fires
  | _ => cases fires

/-- While its callback is invoked, a timer that is not live keeps its pair. -/
theorem Dying.orphan {timer : Timer} (d : Dying id pair before m) (firing : m.doing = .firing timer)
    (same : timer.id = id) : pair ∈ Ledger.orphan m.doing.fired m.session.ledger.timers := by
  have gone : timer.id ∉ m.session.timers.live.map Timer.id := by
    rw [same, ← Timers.isLive_iff, d.dead]
    exact Bool.false_ne_true
  rw [← d.mine timer firing same, firing]
  simp [Ledger.orphan, Doing.fired, Session.ledger, gone]

/-- While its callback is still being invoked, a dead timer keeps its pair from the line; then the
pair goes there and nothing else is done. -/
theorem Dying.last {k : History Message} {timer : Timer} (d : Dying id pair before m)
    (n : Next m k m') (firing : m.doing = .firing timer) (same : timer.id = id) :
    pair ∉ m.session.custody.buried ∧
      (m'.doing = m.doing ∨ m'.doing = .nothing ∧ m'.session.lanes = m.session.lanes ∧
        m'.session.journal = m.session.journal ∧
        m'.session.custody.buried = m.session.custody.buried ++ [pair]) := by
  obtain rfl := d.mine timer firing same
  have balanced : Session.Owned (some timer) [] [] m.session := by
    have balanced := d.balanced
    rw [Balanced, firing] at balanced
    exact balanced
  have orphan : timer.pair ∈ Ledger.orphan (some timer) m.session.ledger.timers := by
    simpa [firing, Doing.fired] using d.orphan firing same
  have fresh : timer.pair ∉ m.session.custody.buried := (balanced.balanced.claimed (.inr orphan)).1
  refine ⟨fresh, ?_⟩
  cases n with
  | act a =>
    cases a with
    | @rearmed s timer' live =>
      cases firing
      rw [same, d.dead] at live
      cases live
    | retired s timer' =>
      cases firing
      have absent : s.custody.isBuried timer.pair = false := by
        simpa [Custody.isBuried] using fresh
      exact .inr ⟨rfl, rfl, rfl, by simp [Session.bury, Custody.bury, absent]⟩
    | fires => cases firing
    | delivered => cases firing
    | done => cases firing
    | ended => cases firing
    | _ => exact .inl rfl
  | _ => cases firing

theorem Next.dying {k : History Message} (n : Next m k m') (d : Dying id pair before m) :
    Dying id pair before m' := by
  have onward := n.onward
  have number := d.number.trans_le onward.numbers
  refine ⟨n.balanced d.balanced, number, ?_, fun timer fires same => ?_,
    d.burials.trans (onward.burials pair), fun resting => ?_⟩
  · by_contra live
    rcases onward.timers id (by simpa using live) with live | new
    · cases live.symm.trans d.dead
    · exact absurd d.number (Nat.not_lt.2 new)
  · exact d.mine timer (d.silent n fires same) same
  by_cases busy : m.doing.fired.map Timer.id = some id
  · -- The invocation has just returned, and the pair has been put in line.
    obtain ⟨timer, fired, same⟩ := Option.map_eq_some_iff.1 busy
    have firing := Doing.firing_of_fired fired
    obtain ⟨-, still | ⟨-, -, journal, line⟩⟩ := d.last n firing same
    · rw [still] at resting
      exact absurd busy resting
    · have least := d.burials
      simp only [Session.burials, journal, line, List.count_append, List.count_singleton_self]
        at least ⊢
      omega
  · exact (d.buried busy).trans_le (onward.burials pair)

theorem Later.dying (l : Later m m') (d : Dying id pair before m) : Dying id pair before m' := by
  obtain ⟨k, c⟩ := l
  induction c with
  | none => exact d
  | more _ n ih => exact n.dying ih

theorem Dying.cancelled {was : Moment} (balanced : was.Balanced)
    (owned : pair ∈ was.session.timers.live.map Timer.pair)
    (d : Dying id pair (was.session.burials pair) m) : Cancelled id pair was m where
  dead := d.dead
  refused door := by
    refine Bool.eq_false_iff.2 fun done => ?_
    cases ((Session.cancel_eq_true _ _ _).1 done).2.symm.trans d.dead
  idle := by
    have none : m.session.timers.find? id = none := by simpa [Timers.isLive] using d.dead
    simp [Session.fireTimer, Timers.begin, none]
  silent n fires same := d.silent n fires same
  last n firing same := d.last n firing same
  buried := by
    by_cases busy : m.doing.fired.map Timer.id = some id
    · simpa [returned, busy] using d.burials
    · simpa [returned, busy] using Nat.succ_le_of_lt (d.buried busy)
  once := by
    obtain ⟨unburied, swept⟩ := Ledger.Balanced.claimed balanced.balanced (.inl owned)
    have unburied : was.session.custody.buried.count pair = 0 := List.count_eq_zero.2 unburied
    have swept : was.session.journal.swept.count pair + 1 =
      was.session.journal.registered.count pair := swept
    by_cases busy : m.doing.fired.map Timer.id = some id
    · obtain ⟨timer, fired, same⟩ := Option.map_eq_some_iff.1 busy
      have orphan := d.orphan (Doing.firing_of_fired fired) same
      obtain ⟨unburied', swept'⟩ := Ledger.Balanced.claimed d.balanced.balanced (.inr orphan)
      have unburied' : m.session.custody.buried.count pair = 0 := List.count_eq_zero.2 unburied'
      have swept' : m.session.journal.swept.count pair + 1 =
        m.session.journal.registered.count pair := swept'
      simp only [returned, busy, if_true, Session.burials]
      omega
    · have most : m.session.burials pair ≤ m.session.journal.registered.count pair :=
        Ledger.Balanced.burials_le d.balanced.balanced pair
      simp only [Session.burials] at most
      simp only [returned, busy, if_false, Session.burials]
      omega

/-- The pair of a timer that is cancelled is put in line at once, unless the timer is firing. -/
theorem Balanced.buried_cancel (h : m.Balanced) {door : Door} {timer : Timer}
    (done : (m.session.cancel door timer.id).1 = true)
    (found : m.session.timers.find? timer.id = some timer) :
    (m.session.cancel door timer.id).2.custody.buried = m.session.custody.buried ++
      if m.doing.fired.map Timer.id = some timer.id then [] else [timer.pair] := by
  have running : m.session.timers.running = m.doing.fired.map Timer.id := h.balanced.running
  have fresh : timer.pair ∉ m.session.custody.buried :=
    (Ledger.Balanced.claimed h.balanced
      (.inl (List.mem_map_of_mem (Ledger.find?_mem found).1))).1
  have absent : m.session.custody.isBuried timer.pair = false := by
    simpa [Custody.isBuried] using fresh
  rw [(Session.cancel_found done found).2.2, running]
  split
  · exact (List.append_nil _).symm
  · simp [Custody.bury, absent]

/-- A timer that has been cancelled is dying. -/
theorem Balanced.cancelled (h : m.Balanced) {door : Door} {timer : Timer}
    (done : (m.session.cancel door timer.id).1 = true)
    (found : m.session.timers.find? timer.id = some timer) :
    Dying timer.id timer.pair (m.session.burials timer.pair)
      ⟨(m.session.cancel door timer.id).2, m.doing⟩ := by
  obtain ⟨mem, -⟩ := Ledger.find?_mem found
  obtain ⟨timers, journal, -⟩ := Session.cancel_found done found
  have cancelled : Act m ⟨(m.session.cancel door timer.id).2, m.doing⟩ :=
    .code (Session.Deeds.cancel m.session door timer.id : Session.Deeds .loop _ _) m.doing
  refine ⟨cancelled.balanced h, ?_, ?_, fun other firing same => ?_,
    cancelled.onward.burials _, fun resting => ?_⟩
  · rw [timers]
    exact h.balanced.below timer mem
  · simp [timers, Timers.isLive, Timers.find?, Timers.remove]
  · have fired : m.doing.fired = some other := congrArg Doing.fired firing
    exact ((h.balanced.firing other fired).2 timer mem same.symm).symm
  · have line := h.buried_cancel done found
    rw [if_neg resting] at line
    simp only [Session.burials, journal, line, List.count_append, List.count_singleton_self]
    omega

/-- A handle is left as long as the owning thread goes on. -/
def Attended (m : Moment) : Prop := m.session.dropped = true → m.session.isGone = true

theorem Attended.of_same (h : m.Attended) (loop : m'.session.loop = m.session.loop)
    (dropped : m'.session.dropped = m.session.dropped) : m'.Attended := by
  simpa only [Attended, Session.isGone, loop, dropped] using h

theorem Act.attended (a : Act m m') (h : m.Attended) : m'.Attended := by
  cases a with
  | code d => exact h.of_same d.loop (congrArg Stage.dropped d.fixed_eq)
  | swept s =>
    obtain ⟨_, _, eq, -⟩ := s.sweepGraveyard_eq
    rw [eq]
    exact h.of_same rfl rfl
  | sweepArmed s =>
    have same := s.stage_armSweep true
    exact h.of_same (congrArg Stage.loop same) (congrArg Stage.dropped same)
  | cleared s =>
    obtain ⟨_, -, eq⟩ := s.clear_eq
    rw [eq]
    exact h.of_same rfl rfl
  | ended => exact fun _ => rfl
  | dropped gone => exact fun _ => gone
  | @entered s starting =>
    -- The thread has not ended before it goes on.
    intro dropped
    have dropped : s.dropped = true := by
      rw [← dropped]
      exact (congrArg Stage.dropped (Session.stage_armSweep (s.postUrgent .ready).2 true)).symm
    simpa [Session.isGone, starting] using h dropped
  | abandoned => exact fun _ => rfl
  | crashed => exact fun _ => rfl
  | _ => exact h.of_same rfl rfl

theorem Later.attended (l : Later m m') (h : m.Attended) : m'.Attended := by
  obtain ⟨k, c⟩ := l
  induction c with
  | none => exact h
  | more _ n ih =>
    cases n with
    | act a => exact a.attended ih
    | _ => exact ih.of_same rfl rfl

theorem Occurs.attended (occurs : m.Occurs) : m.Attended := by
  obtain ⟨origin, ⟨_, _, _, _, _, spawned⟩, l⟩ := occurs
  have handle : origin.dropped = false :=
    (Session.Fresh.spawned spawned).induct (P := fun s => s.dropped = false) (fun _ _ _ _ => rfl)
      fun d h => (congrArg Stage.dropped d.fixed_eq).trans h
  refine l.attended fun dropped => ?_
  cases handle.symm.trans dropped

/-- What cancelling timers comes to at a moment. -/
structure CancelsTimers (m : Moment) : Prop where
  /-- Numbers are given out in increasing order, so none is given out twice. -/
  numbered : ∀ {door pair delay recurring id},
    (m.session.schedule door pair delay recurring).1 = some id →
    ∀ {m'}, Later ⟨(m.session.schedule door pair delay recurring).2, m.doing⟩ m' →
    ∀ {door pair delay recurring id'},
      (m'.session.schedule door pair delay recurring).1 = some id' → id < id'
  /-- A timer can be cancelled while it is live and the session is. A view sees the session as long
  as a handle is left, which is so at least until the owning thread has gone. -/
  answer : ∀ door id, (m.session.cancel door id).1 = true ↔
    (m.session.isLive = true ∧ ¬(door = .context ∧ m.session.dropped = true)) ∧
      m.session.timers.isLive id = true
  attended : m.Attended
  /-- What cannot be cancelled leaves everything as it is. -/
  refused : ∀ door id, (m.session.cancel door id).1 = false →
    (m.session.cancel door id).2 = m.session
  /-- A timer that has been cancelled stays so. Its pair is put in line at once, unless it is being
  invoked. -/
  cancelled : ∀ door id, (m.session.cancel door id).1 = true →
    ∃ timer, m.session.timers.find? id = some timer ∧
      (m.session.cancel door id).2.custody.buried = m.session.custody.buried ++
        (if m.doing.fired.map Timer.id = some id then [] else [timer.pair]) ∧
      ∀ m', Later ⟨(m.session.cancel door id).2, m.doing⟩ m' → Cancelled id timer.pair m m'
  /-- A timer that is gone when its callback has returned is not armed again. -/
  fired : ∀ timer, m.session.timers.find? timer.id = some timer →
    (m.session.called timer).timers.isLive timer.id = false →
    m.session.fireTimer timer.id = if m.session.isKeptOut then none else
      some ({ m.session.called timer with
        timers := (m.session.called timer).timers.retired timer.id }.bury timer.pair)

/-- Wherever a timer is cancelled, between messages or in the middle of one, within its own callback
or not, this is what it comes to. An invocation counts as in progress as soon as the loop has begun
the firing, even while it still has to wait for the lock. -/
theorem Occurs.timer_cancellation (occurs : m.Occurs) : m.CancelsTimers where
  numbered given _ l _ _ _ _ _ given' := by
    obtain ⟨rfl, next⟩ := Session.schedule_eq_some given
    obtain ⟨rfl, -⟩ := Session.schedule_eq_some given'
    have onward := l.onward.numbers
    rw [next] at onward
    exact onward
  answer door id := by
    rw [Session.cancel_eq_true]
    cases dropped : m.session.dropped <;> simp [Session.admits, dropped]
  attended := occurs.attended
  refused door id h := Session.cancel_eq_false h
  cancelled door id done := by
    have live := ((Session.cancel_eq_true _ _ _).1 done).2
    obtain ⟨timer, found⟩ := Option.isSome_iff_exists.1 live
    obtain ⟨mem, rfl⟩ := Ledger.find?_mem found
    refine ⟨timer, found, occurs.balanced.buried_cancel done found, fun m' l => ?_⟩
    · exact (l.dying (occurs.balanced.cancelled done found)).cancelled occurs.balanced
        (List.mem_map_of_mem mem)
  fired timer found gone := by
    have some := Session.fireTimer_isSome found
    cases fired : m.session.fireTimer timer.id with
    | none =>
      rw [fired] at some
      simp [show m.session.isKeptOut = true by simpa using some]
    | some t =>
      rw [fired] at some
      rw [show m.session.isKeptOut = false by simpa using some]
      rcases Session.fireTimer_ends found fired with ⟨⟨live, -⟩, -⟩ | ⟨-, retired⟩
      · cases live.symm.trans gone
      · exact congrArg _ retired

end Moment

namespace Session

/-- An engine that has armed two timers and cancelled the first one; then the second one is
cancelled. -/
theorem timer_cancellation_scheduling :
    ∃ m : Moment, m.Occurs ∧ (m.session.cancel .handle 1).1 = false ∧
      (m.session.cancel .handle 2).1 = true ∧ m.CancelsTimers := by
  have occurs : Moment.Occurs ⟨(plain scheduling).bringUp, .nothing⟩ :=
    Reached.occurs (plain_fresh scheduling) .broughtUp
  exact ⟨_, occurs, by decide +kernel, by decide +kernel, Moment.Occurs.timer_cancellation occurs⟩

end Session
end ScriptHost
