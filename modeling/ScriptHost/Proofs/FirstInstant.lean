import ScriptHost.Proofs.Hosted
import ScriptHost.Proofs.Poised

/-!
# Discreet sessions that come up

If the program of a session is discreet and so is whatever the host does before bring-up, then
whatever waits to be run when bring-up is over and everything at the first instant has been done is
discreet.

## Main definitions

* `HostStep.isDiscreet` — discreet steps of the host.

## Main statements

* `Session.act_agree`, `Session.blockingAsk_agree` — what the host does to two sessions in step.
* `Session.earlySteps_discreet`, `Session.bringUp_discreet`, `Session.start_discreet` — nothing that
  is not discreet has been handed over.
-/

namespace ScriptHost

/-- Whether a step of the host neither looks at phase and counters nor pauses, nor hands anything
over that does. -/
def HostStep.isDiscreet : HostStep → Bool
  | .act a => a.isDiscreet
  | .run _ | .drop => true

namespace Session

variable {o s t u : Session} {bound : Nat}

/-! ## Actions of the host -/

theorem act_agree (h : InStep s t) {a : Action} (discreet : a.isDiscreet = true) :
    Agree (s.act a) (t.act a) := by
  rw [act_eq, act_eq]
  exact (perform_agree engineAccess_deeds.outside engineAccess_agrees.outside .host a discreet
    h).map actReply

theorem blockingAsk_agree {a : Action} {ask : Session → Except Failure Nat × Session}
    (asks : blockingAsk a = some ask) (h : InStep s t) : Agree (ask s) (ask t) := by
  cases a with
  | script source name =>
    cases asks
    exact ask_agree h (fun _ => rfl) (fun _ => rfl) fun _ => rfl
  | require path =>
    cases asks
    exact ask_agree h (fun _ => rfl) (fun _ => rfl) fun _ => rfl
  | shutdown =>
    cases asks
    exact askShutdown_agree h
  | _ => cases asks

/-! ## Before bring-up -/

theorem spawn_discreet {isDirectory : String → Bool} {env : Locale.Environment}
    {settings : Settings} {program : Program} {modules : List String}
    (discreet : program.isDiscreet = true)
    (made : spawn isDirectory env settings program modules = .ok s) : s.Discreet := by
  rw [spawn_eq_ok made]
  exact ⟨discreet, List.forall_mem_nil _, List.forall_mem_nil _,
    by simp [create, Lanes.messages, Lanes.empty]⟩

theorem Fresh.inStep (p : Fresh s) (d : s.Discreet) : InStep s s :=
  have fit : s.Fit := ⟨p.arises.upkeep.1, ⟨none, p.timed⟩, none, [], p.owned⟩
  ⟨rfl, d, fun _ => fit, fun _ => fit⟩

theorem earlyStep_discreet (p : Fresh s) (d : s.Discreet) {h : HostStep}
    (discreet : h.isDiscreet = true) (once : (s.earlyStep h).2.2.Once) :
    (s.earlyStep h).2.2.Discreet := by
  cases h with
  | run ms => exact d
  | drop => exact d
  | act a =>
    unfold earlyStep at once ⊢
    dsimp only at once ⊢
    split at once
    · next ask asks => exact (blockingAsk_agree asks (p.inStep d) once once).2.discreet
    · exact (act_agree (p.inStep d) discreet once once).2.discreet

theorem earlySteps_discreet (p : Fresh s) (d : s.Discreet) {steps : List HostStep}
    (discreet : ∀ h ∈ steps, h.isDiscreet = true) (once : (s.earlySteps steps).2.2.Once) :
    (s.earlySteps steps).2.2.Discreet := by
  induction steps generalizing s with
  | nil => exact d
  | cons h rest ih =>
    have first := earlyStep_discreet p d (discreet h List.mem_cons_self)
      ((recorded_earlySteps rest _).once once)
    exact ih (p.early h) first (fun h mem => discreet h (List.mem_cons_of_mem _ mem)) once

/-! ## Bring-up -/

theorem InStep.refl_deeds {thread : Thread} (h : InStep s s) (d : Deeds thread s t)
    (discreet : t.Discreet) : InStep t t :=
  h.deeds d d rfl discreet

theorem loadModules_inStep (names : List String) (h : InStep s s) :
    InStep (loadModules names s).2 (loadModules names s).2 := by
  induction names generalizing s with
  | nil => exact h
  | cons name rest ih =>
    have taken : InStep (s.note (.register name)) (s.note (.register name)) := h.note rfl rfl
    unfold loadModules loadModule
    cases s.program.moduleEnd name with
    | panicked => exact taken
    | ok _ => exact ih taken
    | failed f => exact ih taken

theorem enterScript_discreet {x : Bool × Session} (h : InStep x.2 x.2)
    (once : (enterScript x).2.Once) : (enterScript x).2.Discreet := by
  rcases x with ⟨survived, u⟩
  cases survived with
  | false => exact h.discreet
  | true =>
    cases script : u.settings.scriptPath with
    | none =>
      simp only [enterScript, script]
      exact h.discreet
    | some path =>
      simp only [enterScript, script] at once ⊢
      exact (loadPath_agree h .loop path once once).2.discreet

theorem loadAll_discreet (h : InStep s s) (once : s.loadAll.2.Once) : s.loadAll.2.Discreet := by
  rw [loadAll_eq] at once ⊢
  have opened : InStep { s with backlog := ⟨true, []⟩ } { s with backlog := ⟨true, []⟩ } :=
    h.refl_deeds (.aside (aside_backlog s _) : Deeds .loop _ _) { h.discreet with }
  exact enterScript_discreet (loadModules_inStep s.backlog.names opened) once

/-- Behind a bring-up that has come to its end, however that may be, no task waits that did not wait
before. -/
theorem deserted_discreet (d : s.Discreet) (lanes : Lanes Message) (none : lanes.messages = []) :
    Discreet { s with lanes } :=
  (Quiet.fewer (by simp [none])).discreet d

theorem enterLoop_discreet (d : s.Discreet) : s.enterLoop.Discreet :=
  have armed := (quiet_tables s).armSweep true (quiet_postUrgent s (m := .ready) rfl)
  { armed.discreet d with }

theorem bringUp_discreet (p : Fresh o) (d : o.Discreet) (once : o.bringUp.Once) :
    o.bringUp.Discreet := by
  rw [bringUp_eq] at once ⊢
  have started : Agree o.engineStart o.engineStart :=
    playScripted_agree ((p.inStep d).note (e := .bringUp ..) rfl rfl) .loop (by
      have discreet := d.program
      simp only [Program.isDiscreet, Bool.and_eq_true] at discreet
      exact discreet.1.1)
  have before := (recorded_engineStarted o.engineStart).once once
  have inStep := (started before before).2
  generalize o.engineStart = engine at once inStep ⊢
  rcases engine with ⟨result, u⟩
  cases result with
  | failed f => exact { deserted_discreet inStep.discreet u.lanes.close.desert rfl with }
  | panicked => exact { deserted_discreet inStep.discreet u.lanes.desert rfl with }
  | ok _ =>
    have loads := loadAll_discreet inStep ((recorded_loaded u.loadAll).once once)
    unfold engineStarted
    dsimp only
    generalize u.loadAll = x at loads ⊢
    rcases x with ⟨survived, v⟩
    cases survived with
    | true => exact enterLoop_discreet { loads with }
    | false => exact { deserted_discreet loads v.lanes.desert rfl with }

/-! ## The first instant -/

/-- Whatever message is handled, what waits to be run remains discreet. -/
theorem handle_discreet {m : Message} {lanes : Lanes Message} (rested : s.Rested) (d : s.Discreet)
    (next : s.lanes.next? = some (m, lanes)) (handled : { s with lanes }.handle bound m = some t)
    (once : t.Once) : t.Discreet := by
  cases sweep : m.isSweep with
  | false =>
    exact (handle_even rested rested sweep next next ⟨rfl, d⟩ handled handled once once).discreet
  | true =>
    obtain rfl : m = .sweep := by cases m <;> first | rfl | cases sweep
    obtain rfl : t = ({ s with lanes } : Session).afterSweep := eq_handleSweep handled
    have fewer : Quiet s { s with lanes } :=
      .fewer fun m mem => (Lanes.messages_next next).mem_iff.2 (List.mem_cons_of_mem _ mem)
    have same := afterSweep_bare ({ s with lanes } : Session)
    exact discreet_bare.1 (same ▸ discreet_bare.2 (fewer.discreet d))

theorem runHelpers_discreet (fit : s.isLive = true → s.Fit) (d : s.Discreet)
    (helped : s.runHelpers bound = some t) (once : t.Once) : t.Discreet :=
  (runHelpers_inStep ⟨rfl, d, fit, fit⟩ helped helped once once).discreet

/-- What comes up, or is handled, is discreet, and so is what follows on it. -/
theorem follow_discreet
    (settles : ∀ {u : Session}, (u.loop = .running → u.Rested) → u.Discreet →
      u.settle bound = some t → t.Discreet ∧ (t.loop = .running → t.Rested))
    (rested : s.loop = .running → s.Rested) (fit : s.isLive = true → s.Fit) (d : s.Discreet)
    (followed : s.follow bound = some t) (once : t.Once) :
    t.Discreet ∧ (t.loop = .running → t.Rested) := by
  obtain ⟨u, ⟨-, rfl⟩ | ⟨-, helped⟩, settled⟩ := follow_cases followed
  · exact settles rested d settled
  · have loop := runHelpers_loop helped
    have before := (recorded_settle settled).once once
    exact settles (fun running => (rested (loop.symm.trans running)).helped helped)
      (runHelpers_discreet fit d helped before) settled

theorem settle_discreet (rested : s.loop = .running → s.Rested) (d : s.Discreet)
    (settled : s.settle bound = some t) (once : t.Once) :
    t.Discreet ∧ (t.loop = .running → t.Rested) := by
  induction bound generalizing s with
  | zero => cases settled
  | succ bound ih =>
    rw [settle_succ] at settled
    split at settled
    · cases settled
      exact ⟨d, rested⟩
    next runs =>
    have rested := rested (Decidable.not_not.1 runs)
    split at settled
    · next m lanes next =>
      obtain ⟨u, handled, settled⟩ := Option.bind_eq_some_iff.1 settled
      have discreet := handle_discreet rested d next handled
        ((recorded_follow recorded_settle settled).once once)
      exact follow_discreet (fun r d h => ih r d h) (rested.handled_running next handled)
        (rested.handled_fit next handled) discreet settled once
    · have fewer : Quiet s s.deliverDue :=
        .fewer (Lanes.messages_deliverDue s.lanes s.clock).subset
      have due := fewer.discreet d
      split at settled
      · split at settled
        · exact ih (fun _ => rested.due) due settled
        · cases settled
          exact ⟨d, fun _ => rested⟩
      · cases settled
        exact ⟨d, fun _ => rested⟩

/-- A loop that does not run is not set going. -/
theorem follow_stopped (stopped : s.loop ≠ .running) (d : s.follow bound = some t) :
    t.loop = s.loop := by
  obtain ⟨u, first, settled⟩ := follow_cases d
  have same : u.loop = s.loop := by
    rcases first with ⟨-, rfl⟩ | ⟨-, helped⟩
    · rfl
    · exact runHelpers_loop helped
  cases bound with
  | zero => cases settled
  | succ bound =>
    rw [settle_succ, if_pos (same.symm ▸ stopped)] at settled
    exact Option.some.inj settled ▸ same

/-- When everything at the first instant has been done and the loop goes on, what waits to be run is
discreet. -/
theorem start_discreet (p : Fresh o) (d : o.Discreet) (started : o.start bound = some t)
    (running : t.loop = .running) (once : t.Once) : t.Discreet := by
  rw [start_eq] at started
  obtain ⟨u, followed, helped⟩ := Option.bind_eq_some_iff.1 started
  have before := (recorded_runHelpers helped).once once
  have entered : o.bringUp.loop = .running := by
    by_contra stopped
    exact stopped ((follow_stopped stopped followed).symm.trans
      ((runHelpers_loop helped).symm.trans running))
  have up := bringUp_discreet p d ((recorded_follow recorded_settle followed).once before)
  obtain ⟨discreet, rested⟩ := follow_discreet
    (fun rested d settled => settle_discreet rested d settled before) p.broughtUp_rested
    (fun _ => (p.broughtUp_rested entered).fit) up followed before
  have rested := rested ((runHelpers_loop helped).symm.trans running)
  exact runHelpers_discreet (fun _ => rested.fit) discreet helped once

end Session
end ScriptHost
