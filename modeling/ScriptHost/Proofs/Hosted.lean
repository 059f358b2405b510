import ScriptHost.Proofs.Undisturbed

/-!
# The host sees the same

What the host is told of its steps, before bring-up and behind it, does not depend on how contained
code ends; nor does bring-up itself, as long as it succeeds.

## Main definitions

* `HostStep.mend` — a step of the host with the code that it hands over mended.
* `Report.blur` — a report apart from the failed releases.

## Main statements

* `Session.act_mend`, `Session.step_mend`, `Session.stepAll_mend` — steps of the host.
* `Session.earlySteps_mend` — steps before bring-up.
* `Session.bringUp_mend`, `Session.start_mend` — a bring-up that succeeds.

## Design notes

A module that makes the engine panic during bring-up leaves no loop behind, so that this end is
seen. This is why bring-up has to succeed here.
-/

namespace ScriptHost

/-- The same step, with the code that it hands over mended. -/
def HostStep.mend : HostStep → HostStep
  | .act a => .act a.mend
  | h => h

/-- The same report but for the failed releases. -/
def Report.blur (r : Report) : Report where
  reply := r.reply.blur
  log := r.log.map Entry.blur
  clock := r.clock
  state := r.state.map fun state => (state.1, state.2.blur)

namespace Session

variable (chosen : Invocations)

/-! ## Actions of the host -/

theorem blockingAsk_mend (a : Action) : blockingAsk a.mend = blockingAsk a := by
  cases a <;> simp only [Action.mend, blockingAsk]

theorem blockingAsk_asks_mend {a : Action} {ask : Session → Except Failure Nat × Session}
    (asks : blockingAsk a = some ask) (s : Session) :
    ask (s.mend chosen) = Prod.map id (mend chosen) (ask s) := by
  unfold blockingAsk at asks
  split at asks
  · cases asks
    exact s.askScript_mend chosen _ _
  · cases asks
    exact s.askRequire_mend chosen _
  · cases asks
    exact s.askShutdown_mend chosen
  · cases asks

/-- What the host is told of an action. -/
def actReply : Outcome String Reply → Reply
  | .ok reply => reply
  | _ => .panicked

theorem act_eq (a : Action) (s : Session) : s.act a =
    Prod.map actReply id (perform engineAccess.outside .host a s) := by
  unfold act
  rcases perform _ .host a s with ⟨result, t⟩
  cases result <;> rfl

theorem act_mend (a : Action) (s : Session) :
    Alike (ExposedIn chosen) ((s.mend chosen).act a.mend)
      (Prod.map Reply.blur (mend chosen) (s.act a)) := by
  have done := alike_map (perform_mend engineAccess_deeds.outside
    (engineAccess_mend chosen).outside .host a s) actReply
  rw [act_eq, act_eq]
  refine done.trans (.inl ?_)
  rcases perform _ .host a s with ⟨result, t⟩
  cases result <;> rfl

/-! ## Steps of the host -/

/-- What follows on an action of the host: helpers drain. -/
def acted (bound : Nat) (x : Reply × Session) : Option (Reply × Session) :=
  (x.2.runHelpers bound).bind fun s => some (x.1, s)

theorem acted_exposed (bound : Nat) (x : Reply × Session) (exposed : ExposedIn chosen x) :
    Throughout (ExposedIn chosen) (acted bound x) := by
  intro y d
  obtain ⟨s, helped, ⟨⟩⟩ := Option.bind_eq_some_iff.1 d
  exact (recorded_runHelpers helped).exposed exposed

theorem acted_mend (bound : Nat) (x : Reply × Session) :
    Alike (Throughout (ExposedIn chosen)) (acted bound (Prod.map Reply.blur (mend chosen) x))
      ((acted bound x).map (Prod.map Reply.blur (mend chosen))) := by
  refine (runHelpers_mend chosen bound x.2).bind ?_ fun u => .refl _
  rintro u exposed _ ⟨⟩
  exact exposed

theorem step_mend (bound : Nat) (h : HostStep) (s : Session) :
    Alike (Throughout (ExposedIn chosen)) ((s.mend chosen).step bound h.mend)
      ((s.step bound h).map (Prod.map Reply.blur (mend chosen))) := by
  cases h with
  | run ms =>
    refine (run_mend chosen bound ms s).bind ?_ fun u => .refl _
    rintro u exposed _ ⟨⟩
    exact exposed
  | drop =>
    refine .inl (congrArg (fun t => some (Reply.flag s.isGone, t)) ?_)
    rw [show (s.mend chosen).isGone = s.isGone from rfl]
    split <;> rfl
  | act a =>
    unfold step
    dsimp only [HostStep.mend]
    rw [blockingAsk_mend]
    split
    · next ask asks =>
      rw [blockingAsk_asks_mend chosen asks]
      rcases ask s with ⟨asked, t⟩
      cases asked with
      | error f => exact .refl _
      | ok query =>
        refine (run_mend chosen bound 0 t).bind ?_ fun u => ?_
        · rintro u exposed _ ⟨⟩
          exact exposed
        · exact .inl (congrArg (fun reply => some (reply, u.mend chosen))
            (u.answerOf_mend chosen query))
    · exact ((act_mend chosen a s).congr (acted bound) (acted_exposed chosen bound)).trans
        (acted_mend chosen bound _)

theorem report_mend (s t : Session) (reply : Reply) :
    (s.mend chosen).report (t.mend chosen) reply.blur = (s.report t reply).blur := by
  have length (u : Session) : (u.mend chosen).log.length = u.log.length := List.length_map ..
  have log : (t.mend chosen).log = t.log.map Entry.blur := rfl
  have dropped : (t.mend chosen).dropped = t.dropped := rfl
  have errands : (t.mend chosen).errands.isEmpty = t.errands.isEmpty := rfl
  unfold report Report.blur
  rw [length, length, log, dropped, errands, statistics_mend, ← List.map_take, ← List.map_reverse]
  congr 1
  · split <;> rfl
  · dsimp only
    split <;> rfl

/-- The report on a step comes before those on the steps that follow. -/
def reported (s : Session) (x : Reply × Session) (y : List Report × Session) :
    List Report × Session :=
  (s.report x.2 x.1 :: y.1, y.2)

theorem stepAll_cons (bound : Nat) (h : HostStep) (rest : List HostStep) (s : Session) :
    s.stepAll bound (h :: rest) = (s.step bound h).bind fun x =>
      (x.2.stepAll bound rest).bind fun y => some (s.reported x y) := rfl

theorem stepAll_mend (bound : Nat) (steps : List HostStep) (s : Session) :
    Alike (Throughout (ExposedIn chosen))
      ((s.mend chosen).stepAll bound (steps.map HostStep.mend))
      ((s.stepAll bound steps).map (Prod.map (List.map Report.blur) (mend chosen))) := by
  induction steps generalizing s with
  | nil => exact .refl _
  | cons h rest ih =>
    rw [List.map_cons, stepAll_cons, stepAll_cons]
    refine (step_mend chosen bound h s).bind (fun x exposed => ?_) fun x => ?_
    · rintro y d
      obtain ⟨z, stepped, ⟨⟩⟩ := Option.bind_eq_some_iff.1 d
      exact (recorded_stepAll stepped).exposed exposed
    · refine (ih x.2).bind ?_ fun y => ?_
      · rintro y exposed _ ⟨⟩
        exact exposed
      · exact .inl (congrArg (fun r => some (r :: y.1.map Report.blur, y.2.mend chosen))
          (report_mend chosen s x.2 x.1))

/-! ## Before bring-up -/

/-- The state behind what the host has done before bring-up is exposed. -/
def ExposedEarly {α β : Type} (x : α × β × Session) : Prop := x.2.2.Exposed chosen

theorem earlyStep_mend (h : HostStep) (s : Session) :
    Alike (ExposedEarly chosen) ((s.mend chosen).earlyStep h.mend)
      (Prod.map Reply.blur (Prod.map id (mend chosen)) (s.earlyStep h)) := by
  cases h with
  | run ms => exact .refl _
  | drop => exact .refl _
  | act a =>
    unfold earlyStep
    dsimp only [HostStep.mend]
    rw [blockingAsk_mend]
    split
    · next ask asks =>
      rw [blockingAsk_asks_mend chosen asks]
      exact .refl _
    · exact (act_mend chosen a s).congr (fun x => (x.1, [], x.2)) fun _ exposed => exposed

theorem recorded_earlySteps (steps : List HostStep) (s : Session) :
    Recorded s (s.earlySteps steps).2.2 := by
  induction steps generalizing s with
  | nil => exact .refl s
  | cons h rest ih => exact (earlyStep_deeds h s).recorded.trans (ih _)

/-- What is known of a step before bring-up stands before what is known of those that follow. -/
def earlyReported (s : Session) (x : Reply × List (Except Failure Nat) × Session)
    (y : List Report × List (Except Failure Nat) × Session) :
    List Report × List (Except Failure Nat) × Session :=
  (s.report x.2.2 x.1 :: y.1, x.2.1 ++ y.2.1, y.2.2)

theorem earlySteps_cons (h : HostStep) (rest : List HostStep) (s : Session) :
    s.earlySteps (h :: rest) =
      s.earlyReported (s.earlyStep h) ((s.earlyStep h).2.2.earlySteps rest) := rfl

theorem earlySteps_mend (steps : List HostStep) (s : Session) :
    Alike (ExposedEarly chosen) ((s.mend chosen).earlySteps (steps.map HostStep.mend))
      (Prod.map (List.map Report.blur) (Prod.map id (mend chosen)) (s.earlySteps steps)) := by
  induction steps generalizing s with
  | nil => exact .refl _
  | cons h rest ih =>
    rw [List.map_cons, earlySteps_cons, earlySteps_cons]
    have stepped : Alike (ExposedEarly chosen) _ _ :=
      (earlyStep_mend chosen h s).congr
        (fun x => (s.mend chosen).earlyReported x (x.2.2.earlySteps (rest.map HostStep.mend)))
        fun x exposed => (recorded_earlySteps _ x.2.2).exposed exposed
    refine stepped.trans ?_
    obtain ⟨reply, asked, t⟩ := s.earlyStep h
    have others : Alike (ExposedEarly chosen) _ _ :=
      (ih t).congr ((s.mend chosen).earlyReported (reply.blur, asked, t.mend chosen))
        fun _ exposed => exposed
    refine others.trans (.inl ?_)
    obtain ⟨reports, asked', u⟩ := t.earlySteps rest
    exact congrArg (fun r => (r :: reports.map Report.blur, asked ++ asked', u.mend chosen))
      (report_mend chosen s t reply)

/-! ## Bring-up -/

theorem enterLoop_mend (s : Session) : (s.mend chosen).enterLoop = s.enterLoop.mend chosen := by
  have posted : (s.mend chosen).postUrgent .ready =
      Prod.map id (mend chosen) (s.postUrgent .ready) :=
    s.postUrgent_mend chosen .ready
  unfold enterLoop
  rw [posted, Prod.map_snd, armSweep_mend]
  rfl

theorem loadModules_mend (names : List String) (s : Session)
    (survived : (loadModules names s).1 = true) :
    loadModules names (s.mend chosen) = Prod.map id (mend chosen) (loadModules names s) := by
  induction names generalizing s with
  | nil => rfl
  | cons name rest ih =>
    have taken := ih (s.note (.register name))
    unfold loadModules at survived ⊢
    unfold loadModule at survived ⊢
    cases ends : s.program.moduleEnd name with
    | panicked =>
      rw [ends] at survived
      cases survived
    | ok _ =>
      rw [ends] at survived
      exact taken survived
    | failed f =>
      rw [ends] at survived
      exact taken survived

/-- Whether the engine has survived code that it ran. -/
def survives {α : Type} : Outcome EngineFailure α → Bool
  | .panicked => false
  | _ => true

/-- The entry script runs, if there is one and the engine has survived its modules. -/
def enterScript : Bool × Session → Bool × Session
  | (true, s) =>
    match s.settings.scriptPath with
    | none => (true, s)
    | some path => Prod.map survives id (s.loadPath .loop path)
  | (false, s) => (false, s)

theorem loadAll_eq (s : Session) : s.loadAll =
    enterScript (loadModules s.backlog.names { s with backlog := ⟨true, []⟩ }) := by
  unfold loadAll
  rcases loadModules s.backlog.names _ with ⟨survived, t⟩
  cases survived with
  | false => rfl
  | true =>
    cases script : t.settings.scriptPath with
    | none => simp only [enterScript, script]
    | some path =>
      simp only [enterScript, script]
      rcases t.loadPath .loop path with ⟨result, u⟩
      cases result <;> rfl

theorem enterScript_mend (s : Session) :
    Alike (ExposedIn chosen) (enterScript (true, s.mend chosen))
      (Prod.map id (mend chosen) (enterScript (true, s))) := by
  cases script : s.settings.scriptPath with
  | none =>
    simp only [enterScript, mend_settings, script]
    exact .refl _
  | some path =>
    simp only [enterScript, mend_settings, script]
    exact alike_map (loadPath_mend chosen .loop path s) survives

theorem loadAll_mend (s : Session) (survived : s.loadAll.1 = true) :
    Alike (ExposedIn chosen) (s.mend chosen).loadAll (Prod.map id (mend chosen) s.loadAll) := by
  have mended := loadModules_mend chosen s.backlog.names { s with backlog := ⟨true, []⟩ }
  have modules : (s.mend chosen).loadAll =
      enterScript (loadModules s.backlog.names (mend chosen { s with backlog := ⟨true, []⟩ })) :=
    loadAll_eq _
  rw [loadAll_eq s] at survived ⊢
  rw [modules]
  generalize loadModules s.backlog.names { s with backlog := ⟨true, []⟩ } = taken at *
  rcases taken with ⟨alive, t⟩
  cases alive with
  | false => cases survived
  | true =>
    rw [mended rfl]
    exact enterScript_mend chosen t

/-- The engine has been given its modules and its entry script. -/
def loaded : Bool × Session → Session
  | (true, s) => s.unlock.enterLoop
  | (false, s) => s.unlock.crash

/-- What follows on the start of the engine itself. -/
def engineStarted : Outcome EngineFailure Unit × Session → Session
  | (.failed _, s) => s.unlock.abandon
  | (.panicked, s) => s.unlock.crash
  | (.ok _, s) => loaded s.loadAll

theorem bringUp_eq (s : Session) : s.bringUp = engineStarted s.engineStart := by
  unfold bringUp engineStart
  dsimp only
  rcases playScripted .loop _ _ with ⟨result, t⟩
  cases result with
  | ok _ =>
    dsimp only [engineStarted]
    rcases t.loadAll with ⟨survived, u⟩
    cases survived <;> rfl
  | failed f => rfl
  | panicked => rfl

theorem recorded_loaded (x : Bool × Session) : Recorded x.2 (loaded x) := by
  rcases x with ⟨survived, t⟩
  cases survived with
  | false => exact .same rfl
  | true =>
    have posted : Recorded t (t.unlock.postUrgent .ready).2 := .same rfl
    exact ((recorded_edits t).armSweep true posted).trans (.same rfl)

theorem recorded_engineStarted (x : Outcome EngineFailure Unit × Session) :
    Recorded x.2 (engineStarted x) := by
  rcases x with ⟨result, t⟩
  cases result with
  | ok _ => exact (loadAll_deeds t).recorded.trans (recorded_loaded _)
  | failed f => exact .same rfl
  | panicked => exact .same rfl

theorem loaded_mend (x : Bool × Session) :
    loaded (Prod.map id (mend chosen) x) = (loaded x).mend chosen := by
  rcases x with ⟨survived, t⟩
  cases survived with
  | false => rfl
  | true => exact enterLoop_mend chosen t.unlock

theorem survived_of_loaded {x : Bool × Session} (up : (loaded x).loop = .running) :
    x.1 = true := by
  rcases x with ⟨survived, t⟩
  cases survived with
  | true => rfl
  | false => cases up

/-- A bring-up that succeeds is the same however contained code ends. -/
theorem bringUp_mend (s : Session) (up : s.bringUp.loop = .running) :
    Alike (Exposed chosen) (s.mend chosen).bringUp (s.bringUp.mend chosen) := by
  have started : Alike (ExposedIn chosen) (s.mend chosen).engineStart
      (Prod.map id (mend chosen) s.engineStart) := by
    exact playScripted_mend chosen .loop s.program.bringUp
      (s.note (.bringUp s.locale s.settings.density s.settings.formFactor))
  rw [bringUp_eq] at up ⊢
  rw [bringUp_eq]
  have followed : Alike (Exposed chosen) _ _ := started.congr engineStarted
    fun x exposed => (recorded_engineStarted x).exposed exposed
  refine followed.trans ?_
  generalize s.engineStart = engine at up ⊢
  rcases engine with ⟨result, t⟩
  cases result with
  | failed f => exact .refl _
  | panicked => exact .refl _
  | ok _ =>
    have survived : t.loadAll.1 = true := survived_of_loaded up
    have entered : Alike (Exposed chosen) _ _ := (loadAll_mend chosen t survived).congr loaded
      fun x exposed => (recorded_loaded x).exposed exposed
    exact entered.trans (.inl (loaded_mend chosen _))

theorem recorded_first {bound : Nat} {s t : Session}
    (d : (s.follow bound).bind (runHelpers bound) = some t) : Recorded s t := by
  obtain ⟨u, settled, helped⟩ := Option.bind_eq_some_iff.1 d
  exact (recorded_follow recorded_settle settled).trans (recorded_runHelpers helped)

theorem start_mend (bound : Nat) (s : Session) (up : s.bringUp.loop = .running) :
    Alike (Throughout (Exposed chosen)) ((s.mend chosen).start bound)
      ((s.start bound).map (mend chosen)) := by
  rw [start_eq, start_eq]
  have first : Alike (Throughout (Exposed chosen)) _ _ :=
    (bringUp_mend chosen s up).congr (fun u => (u.follow bound).bind (runHelpers bound))
      fun u exposed t d => (recorded_first d).exposed exposed
  have followed := follow_mend chosen bound (settle_mend chosen bound) s.bringUp
  refine first.trans (followed.bind ?_ fun u => ?_)
  · exact fun u exposed t d => (recorded_runHelpers d).exposed exposed
  · exact runHelpers_mend chosen bound u

end Session
end ScriptHost
