import ScriptHost.Proofs.Bounds
import ScriptHost.Proofs.Charts
import ScriptHost.Proofs.Poised

/-!
# Loops that go abreast

Two sessions that are the same without their sweeps stay so while their loops run, though one of
them may handle a sweep, or go on to the time of one, where the other has nothing to do. And apart
from releases they log the same at the same times.

## Main definitions

* `Session.Cue` — what a loop does next, sweeps left out of account.
* `Session.Settling`, `Session.Proceeding` — one step of a loop.
* `undisposed` — a chart without releases.

## Main statements

* `Session.settle_even` — everything at the present instant is handled on both sides.
* `Session.runTo_even`, `Session.run_even` — so is everything up to a time.
-/

namespace ScriptHost

/-- A chart without the releases on it. -/
def undisposed (chart : List (Nat × Entry)) : List (Nat × Entry) :=
  chart.filter fun e => !e.2.isDispose

namespace Lanes

variable {l : Lanes Message}

theorem next?_bare_none (idle : l.next? = none) : l.bare.next? = none := by
  have urgent := urgent_eq_nil_of_next? idle
  have ordinary := ordinary_eq_nil_of_next? idle
  simp [next?, bare, urgent, ordinary]

theorem bare_sorted (sorted : l.alarms.Pairwise fun a b => a.due ≤ b.due) :
    l.bare.alarms.Pairwise fun a b => a.due ≤ b.due :=
  List.pairwise_map.2 (sorted.filter _)

theorem deliverDue_early {clock : Nat} (early : ∀ a ∈ l.alarms, clock < a.due) :
    l.deliverDue clock = l := by
  obtain ⟨urgent, ordinary, alarms, nextTicket, closed, deserted⟩ := l
  cases alarms with
  | nil => simp [deliverDue]
  | cons a rest => simp [deliverDue, early a List.mem_cons_self]

end Lanes

namespace Session

variable {s t u v : Session} {bound bound' : Nat}

theorem Even.symm (h : Even s t) : Even t s :=
  ⟨h.same.symm, discreet_bare.1 (h.same ▸ discreet_bare.2 h.discreet)⟩

/-- What is not seen of a session makes no difference. -/
theorem Even.unseen (h : Even s t) (same : u.bare = s.bare) : Even u t :=
  ⟨same.trans h.same, discreet_bare.1 (same ▸ discreet_bare.2 h.discreet)⟩

/-! ## What comes next -/

/-- What a loop does next at an instant. -/
inductive Cue where
  | nothing
  | message (m : Message)
  /-- Messages come due. -/
  | due

/-- What the loop does next apart from sweeps. -/
def cue (s : Session) : Cue :=
  if s.loop ≠ .running then .nothing
  else
    match s.lanes.bare.next? with
    | some (m, _) => .message m
    | none => if s.lanes.bare.alarms.any (·.due ≤ s.clock) then .due else .nothing

theorem cue_eq (same : s.bare = t.bare) : s.cue = t.cue := by
  have cue_bare (u : Session) : u.bare.cue = u.cue := by
    have lanes : u.bare.lanes.bare = u.lanes.bare := u.lanes.bare_bare
    unfold cue
    rw [lanes]
    rfl
  rw [← cue_bare, same, cue_bare]

/-- Where no other alarm is due, nothing is seen of those that are. -/
theorem deliverDue_unseen (tidy : s.Tidy)
    (early : ∀ a ∈ s.lanes.bare.alarms, s.clock < a.due) : s.deliverDue.bare = s.bare := by
  have delivered := Lanes.deliverDue_bare tidy.sorted s.clock
  rw [Lanes.deliverDue_early early] at delivered
  unfold deliverDue
  simp only [bare, delivered]

theorem Even.due (h : Even s t) (tidy : s.Tidy) (tidy' : t.Tidy) :
    Even s.deliverDue t.deliverDue := by
  have delivered := Lanes.deliverDue_bare tidy.sorted s.clock
  have delivered' := Lanes.deliverDue_bare tidy'.sorted t.clock
  have lanes : s.lanes.bare = t.lanes.bare := congrArg (·.lanes) h.same
  have clock : s.clock = t.clock := congrArg (·.clock) h.same
  refine ⟨?_, Quiet.discreet (.fewer (Lanes.messages_deliverDue ..).subset) h.discreet⟩
  refine congrArg₂ (fun (u : Session) lanes => { u with lanes }) h.same ?_
  exact delivered.trans ((congrArg₂ Lanes.deliverDue lanes clock).trans delivered'.symm)

/-! ## One step of a loop -/

/-- The loop comes to the end of an instant: it has nothing to do, it does something of which
nothing is seen, it handles a message, or it lets messages come due. -/
inductive Settling (bound : Nat) (s t : Session) : Prop where
  | still (cue : s.cue = .nothing) (same : t = s)
  | unseen {u : Session} (same : u.bare = s.bare) (poised : u.Poised) (d : u.settle bound = some t)
  | message {m : Message} {lanes : Lanes Message} {u v : Session} (cue : s.cue = .message m)
      (running : s.loop = .running) (next : s.lanes.next? = some (m, lanes))
      (other : m.isSweep = false) (handled : { s with lanes }.handle bound m = some u)
      (helped : u.runHelpers bound = some v) (d : v.settle bound = some t)
  | due (cue : s.cue = .due) (running : s.loop = .running) (d : s.deliverDue.settle bound = some t)

theorem Poised.settling (h : s.Poised) (d : s.settle (bound + 1) = some t) :
    Settling bound s t := by
  rw [settle_succ] at d
  split at d
  · next ended =>
    cases d
    exact .still (by simp [cue, ended]) rfl
  next runs =>
  have running := Decidable.not_not.1 runs
  have tidy := (h.rested running).tidy
  cases next : s.lanes.next? with
  | some taken =>
    obtain ⟨m, lanes⟩ := taken
    rw [next] at d
    obtain ⟨u, handled, d⟩ := Option.bind_eq_some_iff.1 d
    have left := handle_left (s := { s with lanes }) (h.heeds running) handled
    unfold follow at d
    rw [if_neg (by simpa [helpersWait] using left)] at d
    obtain ⟨v, helped, d⟩ := Option.bind_eq_some_iff.1 d
    have poised := h.handled running next handled helped
    cases sweep : m.isSweep with
    | false =>
      refine .message ?_ running next sweep handled helped d
      simp [cue, running, Lanes.next?_bare sweep next]
    | true =>
      -- A sweep starts no helper.
      obtain rfl : m = .sweep := by cases m <;> first | rfl | cases sweep
      obtain rfl : u = ({ s with lanes } : Session).afterSweep := eq_handleSweep handled
      have same : ({ s with lanes } : Session).afterSweep.bare = s.bare := by
        obtain ⟨ordinary, first, rfl⟩ := taken_ordinary tidy next rfl
        rw [afterSweep_bare]
        simp [bare, Lanes.bare, first, Message.isSweep]
      have idle : ({ s with lanes } : Session).afterSweep.helpers = 0 :=
        (congrArg (·.helpers) same).trans h.idle
      rw [runHelpers_none idle] at helped
      cases helped
      exact .unseen same poised d
  | none =>
    have idle := Lanes.next?_bare_none next
    rw [next] at d
    cases first : s.lanes.nextDue? with
    | none =>
      rw [first] at d
      cases d
      have none : s.lanes.alarms = [] := by simpa [Lanes.nextDue?] using first
      have unarmed : s.lanes.bare.alarms = [] := by simp [Lanes.bare, none]
      exact .still (by simp [cue, running, idle, unarmed]) rfl
    | some due =>
      rw [first] at d
      dsimp only at d
      split at d
      · cases early : s.lanes.bare.alarms.any (·.due ≤ s.clock) with
        | true => exact .due (by simp [cue, running, idle, early]) running d
        | false =>
          refine .unseen (deliverDue_unseen tidy fun a mem => ?_) h.due d
          simpa using List.any_eq_false.1 early a mem
      · next later =>
        cases d
        have early : s.lanes.bare.alarms.any (·.due ≤ s.clock) = false := by
          refine List.any_eq_false.2 fun a mem => ?_
          obtain ⟨b, among, rfl⟩ := List.mem_map.1 mem
          obtain ⟨due', first', le⟩ := Lanes.nextDue?_le tidy.sorted (List.mem_filter.1 among).1
          rw [first] at first'
          cases first'
          simp only [decide_eq_true_eq]
          omega
        exact .still (by simp [cue, running, idle, early]) rfl

/-! ## Everything at one instant -/

theorem settle_poised (h : s.Poised) (d : s.settle bound = some t) :
    t.Poised ∧ t.cue = .nothing := by
  induction bound generalizing s with
  | zero => cases d
  | succ bound ih =>
    cases h.settling d with
    | still cue same => exact same ▸ ⟨h, cue⟩
    | unseen _ poised d => exact ih poised d
    | message _ running next _ handled helped d =>
      exact ih (h.handled running next handled helped) d
    | due _ _ d => exact ih h.due d

/-- Everything at the present instant is handled, whatever sweeps are among it. -/
theorem settle_even (bound bound' : Nat) {s t : Session} (hs : s.Poised) (ht : t.Poised)
    (h : Even s t) (d : s.settle bound = some u) (d' : t.settle bound' = some v) (once : u.Once)
    (once' : v.Once) : Even u v := by
  match bound, bound' with
  | 0, _ => cases d
  | _, 0 => cases d'
  | bound + 1, bound' + 1 =>
    -- What is unseen on one side is no step of the other; everything else is done on both.
    cases hs.settling d with
    | unseen same poised d =>
      exact settle_even bound (bound' + 1) poised ht (h.unseen same) d d' once once'
    | still cue same =>
      cases ht.settling d' with
      | unseen same' poised d' =>
        exact settle_even (bound + 1) bound' hs poised (h.symm.unseen same').symm d d' once once'
      | still _ same' => exact same ▸ same' ▸ h
      | message cue' => nomatch cue.symm.trans ((cue_eq h.same).trans cue')
      | due cue' => nomatch cue.symm.trans ((cue_eq h.same).trans cue')
    | due cue running d₁ =>
      cases ht.settling d' with
      | unseen same' poised d' =>
        exact settle_even (bound + 1) bound' hs poised (h.symm.unseen same').symm d d' once once'
      | still cue' => nomatch cue.symm.trans ((cue_eq h.same).trans cue')
      | message cue' => nomatch cue.symm.trans ((cue_eq h.same).trans cue')
      | due _ running' d₁' =>
        have even := h.due (hs.rested running).tidy (ht.rested running').tidy
        exact settle_even bound bound' hs.due ht.due even d₁ d₁' once once'
    | message cue running next other handled helped d₁ =>
      cases ht.settling d' with
      | unseen same' poised d' =>
        exact settle_even (bound + 1) bound' hs poised (h.symm.unseen same').symm d d' once once'
      | still cue' => nomatch cue.symm.trans ((cue_eq h.same).trans cue')
      | due cue' => nomatch cue.symm.trans ((cue_eq h.same).trans cue')
      | message cue' running' next' _ handled' helped' d₁' =>
        cases cue.symm.trans ((cue_eq h.same).trans cue')
        have once₁ := (recorded_settle d₁).once once
        have once₁' := (recorded_settle d₁').once once'
        have even := handle_even (hs.rested running) (ht.rested running') other next next' h handled
          handled' ((recorded_runHelpers helped).once once₁)
          ((recorded_runHelpers helped').once once₁')
        have inStep : InStep _ _ := ⟨even.same, even.discreet,
          (hs.rested running).handled_fit next handled,
          (ht.rested running').handled_fit next' handled'⟩
        have even := (runHelpers_inStep inStep helped helped' once₁ once₁').even
        exact settle_even bound bound' (hs.handled running next handled helped)
          (ht.handled running' next' handled' helped') even d₁ d₁' once once'
termination_by bound + bound'

/-! ## What is logged -/

/-- What has been logged on the way, apart from releases. -/
theorem undisposed_stamped (h : Grows s t) : ∃ entries, t.bare.log = entries ++ s.bare.log ∧
    undisposed (s.stamped t) = entries.reverse.map (s.clock, ·) := by
  obtain ⟨entries, eq⟩ := h
  refine ⟨entries.filter fun e => !e.isDispose, ?_, ?_⟩
  · simp [bare, ← eq]
  · simp [undisposed, stamped, logged_eq eq, List.filter_map, Function.comp_def]

theorem stamped_unseen (h : Grows s t) (same : t.bare.log = s.bare.log) :
    undisposed (s.stamped t) = [] := by
  obtain ⟨entries, eq, chart⟩ := undisposed_stamped h
  have none : entries = [] := by simpa [same] using eq
  rw [chart, none]
  rfl

theorem stamped_even (h : Even s t) (h' : Even u v) (grows : Grows s u) (grows' : Grows t v) :
    undisposed (s.stamped u) = undisposed (t.stamped v) := by
  obtain ⟨entries, eq, chart⟩ := undisposed_stamped grows
  obtain ⟨entries', eq', chart'⟩ := undisposed_stamped grows'
  rw [h.same, h'.same, eq'] at eq
  have clock : s.clock = t.clock := congrArg (·.clock) h.same
  rw [chart, chart', List.append_cancel_right eq, clock]

/-! ## From one instant to the next -/

/-- Where there is nothing to do but sweeps, nothing is seen of what is done. -/
theorem settle_unseen (h : s.Poised) (cue : s.cue = .nothing) (d : s.settle bound = some t) :
    t.bare = s.bare := by
  induction bound generalizing s with
  | zero => cases d
  | succ bound ih =>
    cases h.settling d with
    | still _ same => rw [same]
    | unseen same poised d =>
      have cue' := cue_eq same
      exact (ih poised (cue'.trans cue) d).trans same
    | message cue' => nomatch cue.symm.trans cue'
    | due cue' => nomatch cue.symm.trans cue'

/-- The alarms of a queue come no later than those that are no sweeps. -/
theorem nextDue?_bare {due : Nat} (tidy : s.Tidy) (next : s.lanes.bare.nextDue? = some due) :
    ∃ first, s.lanes.nextDue? = some first ∧ first ≤ due := by
  obtain ⟨a, head, rfl⟩ := Option.map_eq_some_iff.1 next
  obtain ⟨b, among, rfl⟩ := List.mem_map.1 (List.mem_of_head? head)
  have among : b ∈ s.lanes.alarms := (List.mem_filter.1 among).1
  obtain ⟨first, eq, le⟩ := Lanes.nextDue?_le tidy.sorted among
  exact ⟨first, eq, le⟩

/-- A loop that has nothing more to do at an instant goes on until a time: no message comes due
until then, it goes on to the time of a sweep, or it goes on to the time of another message. -/
inductive Proceeding (bound target : Nat) (s t : Session) : Prop where
  | done (far : ∀ due, s.lanes.bare.nextDue? = some due → target < due)
      (same : t = { s with clock := target }) (chart : s.chartOn bound target = [])
  | unseen {u : Session} {rest : Nat} (less : rest < bound) (running : u.loop = .running)
      (same : ∀ clock, Session.bare { u with clock } = Session.bare { s with clock })
      (poised : u.Poised) (d : u.proceed rest target = some t)
      (chart : undisposed (s.chartOn bound target) = undisposed (u.chartOn rest target))
  | stop {due : Nat} (first : s.lanes.bare.nextDue? = some due) (near : due ≤ target)
      (d : { s with clock := due }.deliverDue.runTo bound target = some t)
      (chart : s.chartOn bound target = { s with clock := due }.deliverDue.chartTo bound target)

theorem Poised.proceeding {target : Nat} (h : s.Poised) (running : s.loop = .running)
    (idle : s.lanes.bare.next? = none) (d : s.proceed bound target = some t) :
    Proceeding bound target s t := by
  have tidy := (h.rested running).tidy
  unfold proceed at d
  rw [if_neg (not_not.2 running)] at d
  cases first : s.lanes.nextDue? with
  | none =>
    rw [first] at d
    cases d
    refine .done (fun due next => ?_) rfl (by simp [chartOn, running, first])
    obtain ⟨due', first', -⟩ := nextDue?_bare tidy next
    cases first.symm.trans first'
  | some due =>
    rw [first] at d
    dsimp only at d
    split at d
    · next near =>
      have chart : s.chartOn bound target =
          { s with clock := due }.deliverDue.chartTo bound target := by
        simp [chartOn, running, first, near]
      by_cases stops : s.lanes.bare.nextDue? = some due
      · exact .stop stops near d chart
      · -- Only a sweep is due then.
        have early : ∀ a ∈ s.lanes.bare.alarms, due < a.due := by
          intro a mem
          obtain ⟨due', first', le⟩ := Lanes.nextDue?_le (Lanes.bare_sorted tidy.sorted) mem
          obtain ⟨due'', first'', le'⟩ := nextDue?_bare tidy first'
          cases first.symm.trans first''
          have other : due' ≠ due := fun same => stops (same ▸ first')
          omega
        have same := deliverDue_unseen (s := { s with clock := due }) tidy early
        have cue : ({ s with clock := due } : Session).deliverDue.cue = .nothing := by
          have unripe : s.lanes.bare.alarms.any (·.due ≤ due) = false :=
            List.any_eq_false.2 fun a mem => by simpa using early a mem
          rw [cue_eq same]
          simp [Session.cue, running, idle, unripe]
        have poised := (h.passed due).due
        generalize ({ s with clock := due } : Session).deliverDue = u at *
        cases bound with
        | zero => cases d
        | succ rest =>
          rw [runTo_succ] at d
          obtain ⟨v, settled, d⟩ := Option.bind_eq_some_iff.1 d
          have settles := settle_unseen poised cue settled
          have same := settles.trans same
          have running : v.loop = .running := (congrArg (·.loop) same).trans running
          refine .unseen rest.lt_succ_self running (fun clock => ?_)
            (settle_poised poised settled).1 d ?_
          · exact congrArg (fun u : Session => { u with clock }) same
          · have unseen := stamped_unseen (grows_settle settled) (congrArg (·.log) settles)
            rw [chart, chartTo_succ settled, undisposed, List.filter_append]
            exact congrArg (· ++ _) unseen
    · next far =>
      cases d
      refine .done (fun due' next => ?_) rfl (by simp [chartOn, running, first, far])
      obtain ⟨first', eq, le⟩ := nextDue?_bare tidy next
      cases first.symm.trans eq
      omega

/-- What two loops do until a time is the same apart from sweeps. -/
def RunsEvenly (target bound bound' : Nat) : Prop :=
  ∀ {s t u v : Session}, s.Poised → t.Poised → Even s t → s.runTo bound target = some u →
    t.runTo bound' target = some v → u.Once → v.Once →
      Even u v ∧ undisposed (s.chartTo bound target) = undisposed (t.chartTo bound' target)

/-- The loops of two sessions that have nothing more to do, though it need not be the same time
there, go on to the next message on both sides. -/
theorem proceed_even {target : Nat} (bound bound' : Nat)
    (runs : ∀ b b', b ≤ bound → b' ≤ bound' → RunsEvenly target b b') {s t : Session}
    (hs : s.Poised) (ht : t.Poised) (up : s.loop = .running)
    (idle : s.lanes.bare.next? = none)
    (h : ∀ clock, Even { s with clock } { t with clock }) (d : s.proceed bound target = some u)
    (d' : t.proceed bound' target = some v) (once : u.Once) (once' : v.Once) :
    Even u v ∧ undisposed (s.chartOn bound target) = undisposed (t.chartOn bound' target) := by
  have lanes : s.lanes.bare = t.lanes.bare := congrArg (·.lanes) (h 0).same
  have running' : t.loop = .running := (congrArg (·.loop) (h 0).same).symm.trans up
  have idle' : t.lanes.bare.next? = none := lanes ▸ idle
  -- What is unseen on one side is no step of the other; everything else is done on both.
  have unseen {w : Session} {rest : Nat} (less : rest < bound') (running : w.loop = .running)
      (same : ∀ clock, Session.bare { w with clock } = Session.bare { t with clock })
      (poised : w.Poised) (d' : w.proceed rest target = some v)
      (chart : undisposed (t.chartOn bound' target) = undisposed (w.chartOn rest target)) :
      Even u v ∧ undisposed (s.chartOn bound target) = undisposed (t.chartOn bound' target) := by
    have even (clock : Nat) := ((h clock).symm.unseen (same clock)).symm
    rw [chart]
    exact proceed_even bound rest (fun b b' le le' => runs b b' le (le'.trans less.le)) hs poised
      up idle even d d' once once'
  cases hs.proceeding up idle d with
  | unseen less running same poised d chart =>
    have even (clock : Nat) := (h clock).unseen (same clock)
    have idle : _ = none := (congrArg (·.lanes.next?) (same 0)).trans idle
    rw [chart]
    exact proceed_even _ bound' (fun b b' le le' => runs b b' (le.trans less.le) le') poised ht
      running idle even d d' once once'
  | done far same chart =>
    cases ht.proceeding running' idle' d' with
    | unseen less running same poised d' chart => exact unseen less running same poised d' chart
    | done far' same' chart' =>
      rw [same, same', chart, chart']
      exact ⟨h target, rfl⟩
    | stop first near => exact absurd near (Nat.not_le.2 (far _ (lanes ▸ first)))
  | @stop due first near d chart =>
    cases ht.proceeding running' idle' d' with
    | unseen less running same poised d' chart => exact unseen less running same poised d' chart
    | done far => exact absurd near (Nat.not_le.2 (far _ (lanes ▸ first)))
    | @stop due' first' near' d' chart' =>
      obtain rfl : due = due' :=
        Option.some.inj (first.symm.trans ((congrArg Lanes.nextDue? lanes).trans first'))
      rw [chart, chart']
      have even := (h due).due (hs.rested up).tidy (ht.rested running').tidy
      exact runs bound bound' le_rfl le_rfl (hs.passed due).due (ht.passed due).due even d d' once
        once'
termination_by bound + bound'

/-- Everything until a time is done on both sides, and logged at the same times. -/
theorem runTo_even (target bound bound' : Nat) : RunsEvenly target bound bound' := by
  intro s t u v hs ht h d d' once once'
  match bound, bound' with
  | 0, _ => cases d
  | _, 0 => cases d'
  | bound + 1, bound' + 1 =>
    rw [runTo_succ] at d d'
    obtain ⟨w, settled, d⟩ := Option.bind_eq_some_iff.1 d
    obtain ⟨x, settled', d'⟩ := Option.bind_eq_some_iff.1 d'
    have even := settle_even bound bound' hs ht h settled settled'
      ((recorded_proceed d).once once) ((recorded_proceed d').once once')
    obtain ⟨poised, cue⟩ := settle_poised hs settled
    obtain ⟨poised', -⟩ := settle_poised ht settled'
    have stamps := stamped_even h even (grows_settle settled) (grows_settle settled')
    rw [chartTo_succ settled, chartTo_succ settled', undisposed, undisposed, List.filter_append,
      List.filter_append]
    suffices left : Even u v ∧
        undisposed (w.chartOn bound target) = undisposed (x.chartOn bound' target) from
      ⟨left.1, congrArg₂ (· ++ ·) stamps left.2⟩
    have loop : w.loop = x.loop := congrArg (·.loop) even.same
    by_cases running : w.loop = .running
    · refine proceed_even bound bound' (fun b b' le le' => runTo_even target b b') poised poised'
        running ?_ (fun clock => ?_) d d' once once'
      · unfold Session.cue at cue
        rw [if_neg (not_not.2 running)] at cue
        split at cue
        · cases cue
        · assumption
      · exact ⟨congrArg (fun u : Session => { u with clock }) even.same, { even.discreet with }⟩
    · have running' : x.loop ≠ .running := loop ▸ running
      unfold proceed at d d'
      unfold chartOn
      rw [if_pos running] at d ⊢
      rw [if_pos running'] at d' ⊢
      cases d
      cases d'
      exact ⟨even, rfl⟩
termination_by bound + bound'

/-! ## Letting the loop run -/

theorem runTo_poised {target : Nat} (h : s.Poised) (d : s.runTo bound target = some t) :
    t.Poised := by
  induction bound generalizing s with
  | zero => cases d
  | succ bound ih =>
    rw [runTo_succ] at d
    obtain ⟨u, settled, d⟩ := Option.bind_eq_some_iff.1 d
    have poised := (settle_poised h settled).1
    unfold proceed at d
    split at d
    · cases d
      exact poised
    split at d
    · split at d
      · exact ih (poised.passed _).due d
      · cases d
        exact poised.passed target
    · cases d
      exact poised.passed target

theorem run_poised {ms : Nat} (h : s.Poised) (d : s.run bound ms = some t) : t.Poised := by
  unfold run at d
  split at d
  · cases d
    exact h
  · obtain ⟨u, ran, d⟩ := Option.bind_eq_some_iff.1 d
    have poised := runTo_poised h.due ran
    cases d
    split
    · exact poised
    · exact poised.passed s.clock

theorem Even.stopped (h : Even s t) (clock : Nat) : Even (s.stopped clock) (t.stopped clock) := by
  have loop : s.loop = t.loop := congrArg (·.loop) h.same
  unfold Session.stopped
  by_cases running : s.loop = .running
  · rw [if_pos running, if_pos (loop ▸ running)]
    exact h
  · rw [if_neg running, if_neg (loop ▸ running)]
    exact ⟨congrArg (fun u : Session => { u with clock }) h.same, { h.discreet with }⟩

/-- The loops of two sessions run for the same time. -/
theorem run_even {ms : Nat} (hs : s.Poised) (ht : t.Poised) (h : Even s t)
    (d : s.run bound ms = some u) (d' : t.run bound' ms = some v) (once : u.Once)
    (once' : v.Once) :
    Even u v ∧ undisposed (s.chartRun bound ms) = undisposed (t.chartRun bound' ms) := by
  have loop : s.loop = t.loop := congrArg (·.loop) h.same
  have clock : s.clock = t.clock := congrArg (·.clock) h.same
  unfold run at d d'
  unfold chartRun
  by_cases running : s.loop = .running
  · have running' : t.loop = .running := loop ▸ running
    rw [if_neg (not_not.2 running)] at d ⊢
    rw [if_neg (not_not.2 running'), ← clock] at d' ⊢
    obtain ⟨w, ran, last⟩ := Option.bind_eq_some_iff.1 d
    obtain ⟨x, ran', last'⟩ := Option.bind_eq_some_iff.1 d'
    obtain rfl : w.stopped s.clock = u := Option.some.inj last
    obtain rfl : x.stopped s.clock = v := Option.some.inj last'
    have due := h.due (hs.rested running).tidy (ht.rested running').tidy
    obtain ⟨even, chart⟩ := runTo_even _ bound bound' hs.due ht.due due ran ran'
      ((recorded_stopped s.clock w).once once) ((recorded_stopped s.clock x).once once')
    exact ⟨even.stopped s.clock, chart⟩
  · have running' : t.loop ≠ .running := loop ▸ running
    rw [if_pos running] at d ⊢
    rw [if_pos running'] at d' ⊢
    cases d
    cases d'
    exact ⟨h, rfl⟩

end Session
end ScriptHost
