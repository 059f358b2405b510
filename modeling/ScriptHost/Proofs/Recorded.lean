import ScriptHost.Proofs.Course

/-!
# The record only grows

Nothing that a session does takes anything off its journal, so whatever was on record at some time
still is at any later one.

## Main definitions

* `Session.Recorded` — whatever was on record in one state still is in another.

## Main statements

* `Session.Deeds.recorded` — code takes nothing off the record.
* `Session.recorded_handle`, `Session.recorded_settle`, `Session.recorded_stepAll` — neither does a
  message, a run of the loop, or the host.
-/

namespace ScriptHost

theorem Journal.called_append (j k : Journal) : called (j ++ k) = called j ++ called k := by
  induction j with
  | nil => rfl
  | cons e j ih => cases e <;> simp [called, ih]

theorem Journal.executed_append (j k : Journal) :
    executed (j ++ k) = executed k ++ executed j := by
  induction j with
  | nil => exact (List.append_nil _).symm
  | cons e j ih => cases e <;> simp [executed, ih]

namespace Session

variable {s t u : Session} {thread : Thread}

/-- Whatever was on record still is. -/
def Recorded (s t : Session) : Prop := s.journal <:+ t.journal

namespace Recorded

theorem same (h : t.journal = s.journal) : Recorded s t := ⟨[], h.symm⟩

theorem refl (s : Session) : Recorded s s := same rfl

theorem trans (h : Recorded s t) (h' : Recorded t u) : Recorded s u := List.IsSuffix.trans h h'

theorem more {e : Event} (h : t.journal = e :: s.journal) : Recorded s t := ⟨[e], h.symm⟩

end Recorded

/-! ## Operations -/

theorem recorded_withdraw (s : Session) (ticket : Option Nat) :
    Recorded s (s.withdraw ticket) := by
  rw [withdraw_eq]
  exact .same rfl

theorem recorded_sweeps (s : Session) : KeptBySweeps (Recorded s) where
  sweepArmed _ h := h
  withdrawn ticket h := h.trans (recorded_withdraw _ ticket)
  ticketed _ h := h
  entered _ h := h

theorem recorded_edits (s : Session) : KeptByEdits (Recorded s) where
  toKeptBySweeps := recorded_sweeps s
  counted _ h := h
  held _ h := h
  errands _ h := h
  posted _ _ h := h
  dropped _ h := h.trans (.more rfl)
  transported _ h := h
  sent _ h := h.trans (.more rfl)
  issued _ h := h.trans (.more rfl)
  registered _ h := h.trans (.more rfl)
  buried _ h := h
  firingArmed _ _ h := h
  timers _ h := h
  listeners _ h := h
  ticks _ h := h
  helpers _ h := h
  accepted _ h := h.trans (.more rfl)
  urged h := h
  aside aside h := by
    obtain ⟨_, _, _, _, _, _, _, -, -, rfl⟩ := aside
    exact h
  plain _ h := h
  taskArmed _ _ h := h
  shut _ h := (recorded_sweeps s).beginShutdown (fun h => h) (fun h => h) h
  locked _ h := h
  called _ _ h := h.trans (.more rfl)

/-! ## Deeds -/

/-- Code takes nothing off the record. -/
theorem Deeds.recorded (d : Deeds thread s t) : Recorded s t :=
  (recorded_edits s).deeds d (.refl s)

/-! ## The loop -/

theorem recorded_kept (o : Session) : KeptByDrains (Recorded o) where
  deeds d h := h.trans d.recorded
  lock _ h := h
  ready _ _ h := h
  ticks _ h := h
  helpers _ h := h
  begun _ _ h := h.trans (.more rfl)

theorem recorded_swept (s : Session) :
    Recorded s (s.engaged fun s => s.sweepGraveyard.2) := by
  refine (recorded_kept s).toKept.engaged (fun t h => h.trans ?_) (.refl s)
  obtain ⟨released, failures, swept, -⟩ := t.sweepGraveyard_eq
  rw [swept]
  exact .more rfl

/-- Whoever is invoked, the record is at most longer by a refusal. -/
theorem recorded_invokeLive (thread : Thread) (pair : Pair) (arguments : List Json.Value)
    (s : Session) : Recorded s (s.invokeLive thread pair arguments).2 :=
  (recorded_kept s).toKept.invokeLive (fun h _ => h.trans (.more rfl)) thread arguments (.refl s)

theorem recorded_fireTimer {id : Nat} (d : s.fireTimer id = some t) : Recorded s t := by
  have called (timer : Timer) : Recorded s (s.called timer) :=
    (recorded_kept s).toKept.engaged (fun t h => h.trans (recorded_invokeLive ..)) (.same rfl)
  rcases fireTimer_cases d with ⟨-, h⟩ | ⟨timer, -, -, ⟨-, -, -, h⟩ | h⟩ <;> rw [h]
  · exact .refl s
  · exact (called timer).trans (.same rfl)
  · exact (called timer).trans (.same rfl)

theorem recorded_clear (s : Session) : Recorded s s.clear := by
  obtain ⟨alarms, -, h⟩ := clear_eq s
  rw [h]
  exact .same rfl

theorem recorded_finish {query : Option Nat} (d : s.finish query = some t) : Recorded s t := by
  have swept := Recorded.trans (.more rfl : Recorded s (s.record .lastSweep)) (recorded_swept _)
  rw [eq_finish d]
  exact swept.trans (.same rfl)

theorem recorded_terminate {bound : Nat} {query : Option Nat}
    (d : s.terminate bound query = some t) : Recorded s t := by
  obtain ⟨u, drained, d⟩ := terminate_cases d
  refine Recorded.trans ?_ (recorded_finish d)
  rcases drained with ⟨-, rfl⟩ | drained
  · exact recorded_clear s
  · exact (recorded_clear s).trans ((recorded_kept _).drain (.refl _) drained)

/-- No message takes anything off the record. -/
theorem recorded_handle {bound : Nat} {m : Message} (d : s.handle bound m = some t) :
    Recorded s t := by
  by_cases routine : m.isRoutine = true
  · have k := recorded_kept s
    exact k.toKept.routine routine (fun _ _ _ _ _ _ h _ => h.trans (.more rfl))
      (fun _ => k.drain (.refl s)) (.refl s) d
  cases m with
  | sweep =>
    rw [eq_handleSweep d]
    exact (recorded_edits s).armSweep true (recorded_swept s)
  | fire id => exact recorded_fireTimer d
  | complete call completion =>
    rw [eq_deliver d]
    have k := recorded_kept s
    exact k.toKept.engaged (fun t h => h.trans (recorded_invokeLive ..)) (.more rfl)
  | shutdown query => exact recorded_terminate d
  | _ => exact absurd rfl routine

theorem recorded_runHelpers {bound : Nat} (d : s.runHelpers bound = some t) : Recorded s t :=
  (recorded_kept s).runHelpers (.refl s) d

/-! ## Runs -/

theorem recorded_follow {bound : Nat}
    (settled : ∀ {u : Session}, u.settle bound = some t → Recorded u t)
    (followed : s.follow bound = some t) : Recorded s t := by
  obtain ⟨u, first, d⟩ := follow_cases followed
  rcases first with ⟨-, rfl⟩ | ⟨-, helped⟩
  · exact settled d
  · exact (recorded_runHelpers helped).trans (settled d)

theorem recorded_settle {bound : Nat} (d : s.settle bound = some t) : Recorded s t := by
  induction bound generalizing s with
  | zero => cases d
  | succ bound ih =>
    rw [settle_succ] at d
    split at d
    · cases d
      exact .refl _
    split at d
    · next m lanes next =>
      obtain ⟨u, handled, d⟩ := Option.bind_eq_some_iff.1 d
      have taken : Recorded s { s with lanes } := .same rfl
      exact (taken.trans (recorded_handle handled)).trans (recorded_follow ih d)
    · split at d
      · split at d
        · exact (Recorded.same rfl : Recorded s s.deliverDue).trans (ih d)
        · cases d
          exact .refl _
      · cases d
        exact .refl _

/-- What follows when there is nothing to do at the present instant: the loop goes on to the next
one, as far as it may. -/
def proceed (bound target : Nat) (s : Session) : Option Session :=
  if s.loop ≠ .running then some s
  else
    match s.lanes.nextDue? with
    | some due =>
      if due ≤ target then runTo bound target { s with clock := due }.deliverDue
      else some { s with clock := target }
    | none => some { s with clock := target }

theorem runTo_succ (bound target : Nat) (s : Session) :
    s.runTo (bound + 1) target = (s.settle bound).bind (proceed bound target) := rfl

theorem proceed_cases {bound target : Nat} (d : s.proceed bound target = some t) :
    Recorded s t ∨ ∃ u, Recorded s u ∧ u.runTo bound target = some t := by
  unfold proceed at d
  split at d
  · cases d
    exact .inl (.refl _)
  split at d
  · next due _ =>
    split at d
    · exact .inr ⟨({ s with clock := due } : Session).deliverDue, .same rfl, d⟩
    · cases d
      exact .inl (.same rfl)
  · cases d
    exact .inl (.same rfl)

theorem recorded_runTo {bound target : Nat} (d : s.runTo bound target = some t) :
    Recorded s t := by
  induction bound generalizing s with
  | zero => cases d
  | succ bound ih =>
    rw [runTo_succ] at d
    obtain ⟨u, settled, d⟩ := Option.bind_eq_some_iff.1 d
    have settled := recorded_settle settled
    rcases proceed_cases d with recorded | ⟨v, recorded, d⟩
    · exact settled.trans recorded
    · exact (settled.trans recorded).trans (ih d)

theorem recorded_proceed {bound target : Nat} (d : s.proceed bound target = some t) :
    Recorded s t := by
  rcases proceed_cases d with recorded | ⟨u, recorded, d⟩
  · exact recorded
  · exact recorded.trans (recorded_runTo d)

theorem recorded_run {bound ms : Nat} (d : s.run bound ms = some t) : Recorded s t := by
  unfold run at d
  split at d
  · cases d
    exact .refl _
  · simp only [Option.bind_eq_bind, Option.bind_eq_some_iff] at d
    obtain ⟨u, ran, d⟩ := d
    have ran : Recorded s u :=
      (Recorded.same rfl : Recorded s s.deliverDue).trans (recorded_runTo ran)
    cases d
    split
    · exact ran
    · exact ran.trans (.same rfl)

theorem recorded_step {bound : Nat} {h : HostStep} {reply : Reply}
    (d : s.step bound h = some (reply, t)) : Recorded s t := by
  cases h with
  | run ms =>
    simp only [step, Option.bind_eq_bind, Option.bind_eq_some_iff] at d
    obtain ⟨u, ran, d⟩ := d
    cases d
    exact recorded_run ran
  | drop =>
    cases d
    split <;> exact .same rfl
  | act a =>
    unfold step at d
    dsimp only at d
    split at d
    · next ask asks =>
      have asked := (blockingAsk_deeds asks s).recorded
      split at d
      · next heq =>
        rw [heq] at asked
        simp only [Option.bind_eq_bind, Option.bind_eq_some_iff] at d
        obtain ⟨u, ran, d⟩ := d
        cases d
        exact asked.trans (recorded_run ran)
      · next heq =>
        rw [heq] at asked
        cases d
        exact asked
    · simp only [Option.bind_eq_bind, Option.bind_eq_some_iff] at d
      obtain ⟨u, helped, d⟩ := d
      cases d
      exact (act_deeds a s).recorded.trans (recorded_runHelpers helped)

theorem recorded_stepAll {bound : Nat} {steps : List HostStep} {reports : List Report}
    (d : s.stepAll bound steps = some (reports, t)) : Recorded s t := by
  induction steps generalizing s reports with
  | nil =>
    cases d
    exact .refl _
  | cons h rest ih =>
    simp only [stepAll, Option.bind_eq_bind, Option.bind_eq_some_iff] at d
    obtain ⟨⟨reply, u⟩, stepped, ⟨others, v⟩, d, heq⟩ := d
    cases heq
    exact (recorded_step stepped).trans (ih d)

end Session
end ScriptHost
