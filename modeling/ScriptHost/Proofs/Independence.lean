import ScriptHost.Proofs.Hosted

/-!
# Failures do not leak

Two sessions whose code does the same, but ends differently where the ends are contained, cannot be
told apart but for the number of failed releases.

## Main definitions

* `Scenario.mend` — a scenario with mended code; two scenarios whose code differs in contained ends
  alone are the same when mended.
* `Transcript.blur` — a transcript apart from the failed releases.
* `Scenario.Enters` — the session comes up and enters the loop.
* `Move`, `Session.moves` — what can happen to a session, one thing after the other.

## Main statements

* `Session.along_stepAll`, `Scenario.outcome_along` — whatever the host does comes about by moves.
* `Session.moves_mend` — moves of the mended session.
* `Scenario.ends_contained` — of two scenarios that are the same when mended, whatever happens to
  one happens to the other.

## Design notes

The clock stands still in every move but those that set it. So code that has run and calls that the
engine has taken by the end of some moves of one session have done so by the end of the same moves
of the other, in the same order and at the same times.
-/

namespace ScriptHost

section
variable {β : Type} {spoilt : β → Prop}

/-- What is alike to a result that is not spoilt comes about as well. -/
theorem Alike.twin {φ : β → β} {x x' y : Option β} {b : β}
    (h : Alike (Throughout spoilt) y (x.map φ)) (h' : Alike (Throughout spoilt) y (x'.map φ))
    (found : x = .some b) (fine : ¬ spoilt (φ b)) : ∃ b', x' = .some b' ∧ φ b' = φ b := by
  rw [found, Option.map_some] at h
  rcases h.symm.trans h' with same | ⟨all, -⟩
  · exact Option.map_eq_some_iff.1 same.symm
  · exact absurd (all (φ b) rfl) fine

end

/-! ## Moves -/

/-- What can happen to a session. -/
inductive Move where
  /-- The loop handles the next message. -/
  | next (bound : Nat)
  /-- The helpers that have been started drain. -/
  | help (bound : Nat)
  /-- What is due is moved to the ordinary lane. -/
  | due
  | pass (clock : Nat)
  /-- The host acts, and does not wait for an answer. -/
  | act (a : Action)
  | drop

/-- The same move, with the code that it hands over mended. -/
def Move.mend : Move → Move
  | .act a => .act a.mend
  | m => m

namespace Session

/-- The session behind a move, if the move is possible. -/
def move (s : Session) : Move → Option Session
  | .next bound =>
    if s.loop ≠ .running then none
    else s.lanes.next?.bind fun next => { s with lanes := next.2 }.handle bound next.1
  | .help bound => s.runHelpers bound
  | .due => some s.deliverDue
  | .pass clock => some { s with clock := clock }
  | .act a =>
    match blockingAsk a with
    | some ask => some (ask s).2
    | none => some (s.act a).2
  | .drop => some (if s.isGone then s.forsake else s)

/-- The session behind several moves. -/
def moves (s : Session) : List Move → Option Session
  | [] => some s
  | m :: rest => (s.move m).bind fun t => t.moves rest

variable {s t u : Session}

theorem recorded_move {m : Move} (d : s.move m = some t) : Recorded s t := by
  cases m with
  | next bound =>
    unfold move at d
    dsimp only at d
    split at d
    · cases d
    · obtain ⟨next, -, d⟩ := Option.bind_eq_some_iff.1 d
      have taken : Recorded s { s with lanes := next.2 } := .same rfl
      exact taken.trans (recorded_handle d)
  | help bound => exact recorded_runHelpers d
  | due =>
    cases d
    exact .same rfl
  | pass clock =>
    cases d
    exact .same rfl
  | act a =>
    unfold move at d
    dsimp only at d
    split at d
    · next asks =>
      cases d
      exact (blockingAsk_deeds asks s).recorded
    · cases d
      exact (act_deeds a s).recorded
  | drop =>
    cases d
    refine .same ?_
    split <;> rfl

theorem recorded_moves {ms : List Move} (d : s.moves ms = some t) : Recorded s t := by
  induction ms generalizing s with
  | nil =>
    cases d
    exact .refl _
  | cons m rest ih =>
    obtain ⟨u, moved, d⟩ := Option.bind_eq_some_iff.1 d
    exact (recorded_move moved).trans (ih d)

/-! ## Whatever happens comes about by moves -/

/-- One state leads to another by moves. -/
def Along (s t : Session) : Prop := ∃ ms, s.moves ms = some t

namespace Along

theorem refl (s : Session) : Along s s := ⟨[], rfl⟩

theorem move {m : Move} (d : s.move m = some t) : Along s t :=
  ⟨[m], by rw [moves, d]; rfl⟩

theorem trans (h : Along s t) (h' : Along t u) : Along s u := by
  obtain ⟨ms, d⟩ := h
  obtain ⟨ms', d'⟩ := h'
  refine ⟨ms ++ ms', ?_⟩
  induction ms generalizing s with
  | nil =>
    cases d
    exact d'
  | cons m rest ih =>
    obtain ⟨v, moved, d⟩ := Option.bind_eq_some_iff.1 d
    exact Option.bind_eq_some_iff.2 ⟨v, moved, ih d⟩

end Along

theorem along_follow {bound : Nat}
    (settled : ∀ {u : Session}, u.settle bound = some t → Along u t)
    (followed : s.follow bound = some t) : Along s t := by
  obtain ⟨u, first, d⟩ := follow_cases followed
  rcases first with ⟨-, rfl⟩ | ⟨-, helped⟩
  · exact settled d
  · have helped : s.move (.help bound) = some u := helped
    exact (Along.move helped).trans (settled d)

theorem along_settle {bound : Nat} (d : s.settle bound = some t) : Along s t := by
  induction bound generalizing s with
  | zero => cases d
  | succ bound ih =>
    rw [settle_succ] at d
    split at d
    · cases d
      exact .refl _
    next running =>
    split at d
    · next m lanes next =>
      obtain ⟨u, handled, d⟩ := Option.bind_eq_some_iff.1 d
      have handled : s.move (.next bound) = some u := by
        unfold move
        dsimp only
        rw [if_neg running, next]
        exact handled
      exact (Along.move handled).trans (along_follow ih d)
    · split at d
      · split at d
        · exact (Along.move (m := .due) rfl).trans (ih d)
        · cases d
          exact .refl _
      · cases d
        exact .refl _

theorem along_runTo {bound target : Nat} (d : s.runTo bound target = some t) : Along s t := by
  induction bound generalizing s with
  | zero => cases d
  | succ bound ih =>
    rw [runTo_succ] at d
    obtain ⟨u, settled, d⟩ := Option.bind_eq_some_iff.1 d
    refine (along_settle settled).trans ?_
    unfold proceed at d
    split at d
    · cases d
      exact .refl _
    split at d
    · next due _ =>
      split at d
      · exact ((Along.move (m := .pass due) rfl).trans (Along.move (m := .due) rfl)).trans (ih d)
      · cases d
        exact .move (m := .pass target) rfl
    · cases d
      exact .move (m := .pass target) rfl

theorem along_run {bound ms : Nat} (d : s.run bound ms = some t) : Along s t := by
  unfold run at d
  split at d
  · cases d
    exact .refl _
  · obtain ⟨u, ran, d⟩ := Option.bind_eq_some_iff.1 d
    have ran := (Along.move (m := .due) rfl).trans (along_runTo ran)
    cases d
    split
    · exact ran
    · exact ran.trans (.move (m := .pass s.clock) rfl)

theorem along_step {bound : Nat} {h : HostStep} {reply : Reply}
    (d : s.step bound h = some (reply, t)) : Along s t := by
  cases h with
  | run ms =>
    obtain ⟨u, ran, ⟨⟩⟩ := Option.bind_eq_some_iff.1 d
    exact along_run ran
  | drop =>
    cases d
    exact .move (m := .drop) rfl
  | act a =>
    have acted : Along s (match blockingAsk a with
        | some ask => (ask s).2
        | none => (s.act a).2) := by
      refine .move (m := .act a) ?_
      unfold move
      dsimp only
      split <;> rfl
    unfold step at d
    dsimp only at d
    split at d
    · next ask asks =>
      simp only [asks] at acted
      split at d
      · next heq =>
        rw [heq] at acted
        obtain ⟨u, ran, ⟨⟩⟩ := Option.bind_eq_some_iff.1 d
        exact acted.trans (along_run ran)
      · next heq =>
        rw [heq] at acted
        cases d
        exact acted
    · next asks =>
      simp only [asks] at acted
      obtain ⟨u, helped, ⟨⟩⟩ := Option.bind_eq_some_iff.1 d
      exact acted.trans (.move (m := .help bound) helped)

theorem along_stepAll {bound : Nat} {steps : List HostStep} {reports : List Report}
    (d : s.stepAll bound steps = some (reports, t)) : Along s t := by
  induction steps generalizing s reports with
  | nil =>
    cases d
    exact .refl _
  | cons h rest ih =>
    rw [stepAll_cons] at d
    obtain ⟨x, stepped, d⟩ := Option.bind_eq_some_iff.1 d
    obtain ⟨y, others, ⟨⟩⟩ := Option.bind_eq_some_iff.1 d
    exact (along_step stepped).trans (ih others)

/-! ## Moves of the mended session -/

variable (chosen : Invocations)

theorem move_mend (m : Move) (s : Session) :
    Alike (Throughout (Exposed chosen)) ((s.mend chosen).move m.mend)
      ((s.move m).map (mend chosen)) := by
  cases m with
  | next bound =>
    unfold move
    dsimp only [Move.mend]
    rw [mend_loop, mend_lanes, Lanes.next?_map]
    split
    · exact .refl _
    cases s.lanes.next? with
    | none => exact .refl _
    | some next => exact handle_mend chosen bound next.1 { s with lanes := next.2 }
  | help bound => exact runHelpers_mend chosen bound s
  | due => exact .inl (congrArg some (deliverDue_mend chosen s))
  | pass clock => exact .refl _
  | act a =>
    unfold move
    dsimp only [Move.mend]
    rw [blockingAsk_mend]
    split
    · next ask asks =>
      have asked := blockingAsk_asks_mend chosen asks s
      exact .inl (congrArg (fun x => some x.2) asked)
    · have acted := (act_mend chosen a s).congr Prod.snd fun _ exposed => exposed
      exact acted.some
  | drop =>
    refine .inl (congrArg some ?_)
    rw [show (s.mend chosen).isGone = s.isGone from rfl]
    split <;> rfl

theorem moves_mend (ms : List Move) (s : Session) :
    Alike (Throughout (Exposed chosen)) ((s.mend chosen).moves (ms.map Move.mend))
      ((s.moves ms).map (mend chosen)) := by
  induction ms generalizing s with
  | nil => exact .refl _
  | cons m rest ih =>
    rw [List.map_cons, moves, moves]
    exact (move_mend chosen m s).bind (fun t exposed u d => (recorded_moves d).exposed exposed) ih

theorem recorded_bringUp (s : Session) : Recorded s s.bringUp := by
  rw [bringUp_eq]
  exact (engineStart_deeds s).recorded.trans (recorded_engineStarted _)

theorem recorded_start {bound : Nat} (d : s.start bound = some t) : Recorded s t :=
  (recorded_bringUp s).trans (recorded_first (start_eq bound s ▸ d))

theorem spawn_mend {isDirectory : String → Bool} {env : Locale.Environment} {settings : Settings}
    {program : Program} {modules : List String}
    (h : spawn isDirectory env settings program modules = .ok s) :
    spawn isDirectory env settings (program.mend chosen) modules = .ok (s.mend chosen) := by
  unfold spawn at h ⊢
  simp only [bind, Except.bind] at h ⊢
  split at h
  · cases h
  · cases h
    rfl

end Session

/-! ## Scenarios -/

/-- The same transcript but for the failed releases. -/
def Transcript.blur (t : Transcript) : Transcript where
  early := t.early.map Report.blur
  start := t.start.blur
  steps := t.steps.map Report.blur

namespace Scenario

open Session

variable (chosen : Invocations)

/-- The same scenario with mended code. -/
def mend (c : Scenario) : Scenario := { c with
  program := c.program.mend chosen
  early := c.early.map HostStep.mend
  steps := c.steps.map HostStep.mend }

/-- The answers that the host has waited for during bring-up. -/
def answers (asked : List (Except Failure Nat)) (started : Session) : List Reply :=
  asked.map fun
    | .ok query => started.answerOf query
    | .error f => .failed f

/-- What follows on the steps before bring-up. -/
def attended (bound : Nat) (steps : List HostStep)
    (x : List Report × List (Except Failure Nat) × Session) : Option (Transcript × Session) :=
  (x.2.2.start bound).bind fun started => (started.stepAll bound steps).bind fun y =>
    some (⟨x.1, x.2.2.report started (.replies (answers x.2.1 started)), y.1⟩, y.2)

/-- The engine comes up, and the session enters the loop in this state. -/
structure Enters (isDirectory : String → Bool) (env : Locale.Environment) (c : Scenario)
    (s : Session) : Prop where
  broughtUp : ((spawn isDirectory env c.settings c.program c.modules).map fun s =>
    (s.earlySteps c.early).2.2.bringUp) = .ok s
  running : s.loop = .running

theorem attended_exposed (bound : Nat) (steps : List HostStep)
    (x : List Report × List (Except Failure Nat) × Session) (exposed : ExposedEarly chosen x) :
    Throughout (ExposedIn chosen) (attended bound steps x) := by
  intro y d
  obtain ⟨started, start, d⟩ := Option.bind_eq_some_iff.1 d
  obtain ⟨z, stepped, ⟨⟩⟩ := Option.bind_eq_some_iff.1 d
  exact (recorded_stepAll stepped).exposed ((recorded_start start).exposed exposed)

theorem answers_mend (asked : List (Except Failure Nat)) (s : Session) :
    (Reply.replies (answers asked s)).blur = .replies (answers asked (s.mend chosen)) := by
  have all : Reply.blurAll (answers asked s) = answers asked (s.mend chosen) := by
    induction asked with
    | nil => rfl
    | cons query rest ih =>
      cases query with
      | ok query => exact congrArg₂ List.cons (s.answerOf_mend chosen query).symm ih
      | error f => exact congrArg (List.cons (.failed f)) ih
  exact congrArg Reply.replies all

theorem attended_mend (bound : Nat) (steps : List HostStep)
    (x : List Report × List (Except Failure Nat) × Session) (up : x.2.2.bringUp.loop = .running) :
    Alike (Throughout (ExposedIn chosen))
      (attended bound (steps.map HostStep.mend)
        (Prod.map (List.map Report.blur) (Prod.map id (Session.mend chosen)) x))
      ((attended bound steps x).map (Prod.map Transcript.blur (Session.mend chosen))) := by
  refine (start_mend chosen bound x.2.2 up).bind (fun started exposed => ?_) fun started => ?_
  · intro y d
    obtain ⟨z, stepped, ⟨⟩⟩ := Option.bind_eq_some_iff.1 d
    exact (recorded_stepAll stepped).exposed exposed
  · refine (stepAll_mend chosen bound steps started).bind ?_ fun y => ?_
    · rintro y exposed _ ⟨⟩
      exact exposed
    · have report := report_mend chosen x.2.2 started (.replies (answers x.2.1 started))
      rw [answers_mend] at report
      exact .inl (congrArg (fun r => some ((⟨x.1.map Report.blur, r, y.1.map Report.blur⟩ :
        Transcript), y.2.mend chosen)) report)

section
variable {isDirectory : String → Bool} {env : Locale.Environment} {c c' : Scenario}
  {s s' o o' : Session}

theorem outcome_eq (spawned : spawn isDirectory env c.settings c.program c.modules = .ok s)
    (bound : Nat) : c.outcome bound isDirectory env =
      if c.noThreads then some (.error (.noThread "no threads"))
      else (attended bound c.steps (s.earlySteps c.early)).map .ok := by
  unfold outcome
  rw [spawned]
  dsimp only
  split
  · rfl
  unfold attended
  simp only [Option.map_bind, Function.comp_def, Option.map_some, Option.bind_eq_bind]
  rfl

/-- A scenario goes on from where it enters the loop. -/
theorem attended_of_outcome
    (spawned : spawn isDirectory env c.settings c.program c.modules = .ok s) {bound : Nat}
    {y : Transcript × Session} (h : c.outcome bound isDirectory env = some (.ok y)) :
    c.noThreads = false ∧ attended bound c.steps (s.earlySteps c.early) = some y := by
  rw [outcome_eq spawned] at h
  split at h
  · cases h
  · next threads =>
    obtain ⟨z, found, ⟨⟩⟩ := Option.map_eq_some_iff.1 h
    exact ⟨by simpa using threads, found⟩

theorem Enters.spawned (h : c.Enters isDirectory env o) :
    ∃ s, spawn isDirectory env c.settings c.program c.modules = .ok s ∧
      o = (s.earlySteps c.early).2.2.bringUp := by
  have up := h.broughtUp
  cases spawned : spawn isDirectory env c.settings c.program c.modules with
  | error f =>
    rw [spawned] at up
    cases up
  | ok s =>
    rw [spawned] at up
    cases up
    exact ⟨s, rfl, rfl⟩

/-- The state in which a scenario ends comes about by moves. -/
theorem outcome_along (enters : c.Enters isDirectory env o) {bound : Nat}
    {transcript : Transcript} {last : Session}
    (h : c.outcome bound isDirectory env = some (.ok (transcript, last))) : Along o last := by
  obtain ⟨s, spawned, rfl⟩ := enters.spawned
  obtain ⟨-, attended⟩ := attended_of_outcome spawned h
  obtain ⟨started, start, d⟩ := Option.bind_eq_some_iff.1 attended
  obtain ⟨y, stepped, ⟨⟩⟩ := Option.bind_eq_some_iff.1 d
  rw [start_eq] at start
  obtain ⟨u, followed, helped⟩ := Option.bind_eq_some_iff.1 start
  have helped : u.move (.help bound) = some started := helped
  exact ((along_follow along_settle followed).trans (.move helped)).trans (along_stepAll stepped)

/-- The sessions of scenarios that are the same when mended are so as well. -/
theorem spawned_mend (same : c'.mend chosen = c.mend chosen)
    (spawned : spawn isDirectory env c.settings c.program c.modules = .ok s)
    (spawned' : spawn isDirectory env c'.settings c'.program c'.modules = .ok s') :
    s'.mend chosen = s.mend chosen := by
  have mended := spawn_mend chosen spawned
  have mended' : spawn isDirectory env (c'.mend chosen).settings (c'.mend chosen).program
      (c'.mend chosen).modules = .ok (s'.mend chosen) := spawn_mend chosen spawned'
  rw [same] at mended'
  exact Except.ok.inj (mended'.symm.trans mended)

/-- Bring-up of the mended session, behind the mended steps of the host. -/
theorem entered_mend (spawned : spawn isDirectory env c.settings c.program c.modules = .ok s)
    (enters : c.Enters isDirectory env o) :
    Alike (Exposed chosen) ((s.mend chosen).earlySteps (c.mend chosen).early).2.2.bringUp
      (o.mend chosen) := by
  obtain ⟨_, spawned', rfl⟩ := enters.spawned
  cases spawned.symm.trans spawned'
  have early : Alike (Exposed chosen) _ _ := (earlySteps_mend chosen c.early s).congr
    (fun x => x.2.2.bringUp) fun x exposed => (recorded_bringUp x.2.2).exposed exposed
  exact early.trans (bringUp_mend chosen _ enters.running)

/-- What the mended scenario comes to. -/
theorem attended_spawned_mend
    (spawned : spawn isDirectory env c.settings c.program c.modules = .ok s)
    (enters : c.Enters isDirectory env o) (bound : Nat) :
    Alike (Throughout (ExposedIn chosen))
      (attended bound (c.mend chosen).steps ((s.mend chosen).earlySteps (c.mend chosen).early))
      ((attended bound c.steps (s.earlySteps c.early)).map
        (Prod.map Transcript.blur (Session.mend chosen))) := by
  obtain ⟨_, spawned', rfl⟩ := enters.spawned
  cases spawned.symm.trans spawned'
  have early : Alike (Throughout (ExposedIn chosen)) _ _ :=
    (earlySteps_mend chosen c.early s).congr (attended bound (c.mend chosen).steps)
      fun x exposed => attended_exposed chosen bound _ x exposed
  exact early.trans (attended_mend chosen bound c.steps _ enters.running)

/-- What a scenario comes to, another one comes to that is the same when mended. -/
theorem outcome_twin (same : c'.mend chosen = c.mend chosen)
    (enters : c.Enters isDirectory env o) (enters' : c'.Enters isDirectory env o') {bound : Nat}
    {transcript : Transcript} {last : Session}
    (h : c.outcome bound isDirectory env = some (.ok (transcript, last)))
    (fine : ¬ last.Exposed chosen) :
    ∃ transcript' last', c'.outcome bound isDirectory env = some (.ok (transcript', last')) ∧
      transcript'.blur = transcript.blur ∧ last'.mend chosen = last.mend chosen := by
  obtain ⟨s, spawned, -⟩ := enters.spawned
  obtain ⟨s', spawned', -⟩ := enters'.spawned
  obtain ⟨threads, attended⟩ := attended_of_outcome spawned h
  have threads' : c'.noThreads = false :=
    (congrArg Scenario.noThreads same).trans threads
  have mended := attended_spawned_mend chosen spawned enters bound
  have mended' := attended_spawned_mend chosen spawned' enters' bound
  rw [same, spawned_mend chosen same spawned spawned'] at mended'
  obtain ⟨⟨transcript', last'⟩, attended', eq⟩ :=
    mended.twin mended' attended (mt exposed_mend.1 fine)
  refine ⟨transcript', last', ?_, congrArg Prod.fst eq, congrArg Prod.snd eq⟩
  rw [outcome_eq spawned', threads', attended']
  rfl

/-- What comes about by moves in one session comes about in another one that is the same when
mended. -/
theorem moves_twin (same : c'.mend chosen = c.mend chosen) (enters : c.Enters isDirectory env o)
    (enters' : c'.Enters isDirectory env o') {ms ms' : List Move}
    (alike : ms'.map Move.mend = ms.map Move.mend) (h : o.moves ms = some s)
    (fine : ¬ s.Exposed chosen) :
    ∃ s', o'.moves ms' = some s' ∧ s'.mend chosen = s.mend chosen := by
  obtain ⟨t, spawned, -⟩ := enters.spawned
  obtain ⟨t', spawned', -⟩ := enters'.spawned
  have entered := entered_mend chosen spawned enters
  have entered' := entered_mend chosen spawned' enters'
  rw [same, spawned_mend chosen same spawned spawned'] at entered'
  -- Nothing has been exposed yet where the loop is entered, so both enter it alike.
  have unexposed : ¬ (o.mend chosen).Exposed chosen :=
    fun exposed => fine ((recorded_moves h).exposed (exposed_mend.1 exposed))
  have begun : o.mend chosen = o'.mend chosen := (entered.symm.trans entered').eq_of_not unexposed
  have moved := moves_mend chosen ms o
  have moved' := moves_mend chosen ms' o'
  rw [alike, ← begun] at moved'
  exact moved.twin moved' h (mt exposed_mend.1 fine)

end

/-- Two sessions come up whose code differs in contained ends alone. Whatever bound suffices for one
of them suffices for the other; what is seen of them is the same but for failed releases, and so is
what comes about by moves. -/
theorem ends_contained {isDirectory : String → Bool} {env : Locale.Environment}
    {chosen : Invocations} {c c' : Scenario} {o o' : Session}
    (same : c'.mend chosen = c.mend chosen) (enters : c.Enters isDirectory env o)
    (enters' : c'.Enters isDirectory env o') :
    (∀ bound transcript last, c.outcome bound isDirectory env = some (.ok (transcript, last)) →
      ¬ last.Exposed chosen →
      ∃ transcript' last', c'.outcome bound isDirectory env = some (.ok (transcript', last')) ∧
        transcript'.blur = transcript.blur ∧ last'.mend chosen = last.mend chosen) ∧
    ∀ moves moves' : List Move, moves'.map Move.mend = moves.map Move.mend →
      ∀ s, o.moves moves = some s → ¬ s.Exposed chosen →
        ∃ s', o'.moves moves' = some s' ∧ s'.mend chosen = s.mend chosen :=
  ⟨fun _ _ _ h fine => outcome_twin chosen same enters enters' h fine,
    fun _ _ alike _ h fine => moves_twin chosen same enters enters' alike h fine⟩

/-- Nothing but a timer fires here: its callback does this, and the release of these pairs fails. -/
def firing (callback : List Action) (failing : List Pair) : Scenario where
  settings := { Settings.default with cleanupInterval := 8 }
  program := { (default : Program) with callbacks := [(1, [callback])], failDispose := failing }
  modules := []
  noThreads := false
  early := []
  steps := [.act (.schedule .handle ⟨1, 2⟩ 5 false), .run 10]

/-- The session of such a scenario as it enters the loop. -/
def firingSession (callback : List Action) (failing : List Pair) : Session :=
  let c := firing callback failing
  { create c.settings (Locale.capture none none ⟨none, none, none⟩) c.program [] with
    lock := ⟨some .loop⟩ }.bringUp

theorem firing_enters (callback : List Action) (failing : List Pair) :
    (firing callback failing).Enters (fun _ => false) ⟨none, none, none⟩
      (firingSession callback failing) where
  broughtUp := rfl
  running := rfl

/-- The callback panics and the release of its pair fails, or neither does: in the end, and when the
timer has fired. -/
theorem ends_contained_firing :
    let chosen : Invocations := fun callback _ => callback = 1
    let emits : Action := .emit "e" .null
    let fires : List Move :=
      [.next 1, .act (.schedule .handle ⟨1, 2⟩ 5 false), .pass 5, .due, .next 1]
    (∃ transcript last transcript' last',
      (firing [emits, .panic] [⟨1, 2⟩]).outcome 9 (fun _ => false) ⟨none, none, none⟩ =
        some (.ok (transcript, last)) ∧ last.custody.failures = 1 ∧
      (firing [emits] []).outcome 9 (fun _ => false) ⟨none, none, none⟩ =
        some (.ok (transcript', last')) ∧
      transcript'.blur = transcript.blur ∧ last'.mend chosen = last.mend chosen) ∧
    ∃ s s', (firingSession [emits, .panic] [⟨1, 2⟩]).moves fires = some s ∧
      s.invocations = [(1, 1)] ∧ (firingSession [emits] []).moves fires = some s' ∧
      s'.mend chosen = s.mend chosen := by
  intro chosen emits fires
  obtain ⟨ends, moves⟩ := @ends_contained (fun _ => false) ⟨none, none, none⟩ chosen
    (firing [emits, .panic] [⟨1, 2⟩]) (firing [emits] []) _ _ rfl (firing_enters _ _)
    (firing_enters _ _)
  have unexposed {s : Session} (none : s.journal.called = []) : ¬ s.Exposed chosen := by
    rintro ⟨call, mem, -⟩
    rw [none] at mem
    cases mem
  constructor
  · have came : ((firing [emits, .panic] [⟨1, 2⟩]).outcome 9 (fun _ => false)
        ⟨none, none, none⟩).any (fun r => r.toOption.any fun y =>
          y.2.custody.failures = 1 ∧ y.2.journal.called = []) = true := by
      decide +kernel
    obtain ⟨r, came, found⟩ := (Option.any_eq_true _ _).1 came
    obtain ⟨⟨transcript, last⟩, ok, found⟩ := (Option.any_eq_true _ _).1 found
    cases r with
    | error f => cases ok
    | ok y =>
      cases ok
      obtain ⟨failures, none⟩ := of_decide_eq_true found
      obtain ⟨transcript', last', came', same⟩ := ends 9 transcript last came (unexposed none)
      exact ⟨transcript, last, transcript', last', came, failures, came', same⟩
  · have moved : ((firingSession [emits, .panic] [⟨1, 2⟩]).moves fires).any (fun s =>
        s.invocations = [(1, 1)] ∧ s.journal.called = []) = true := by
      decide +kernel
    obtain ⟨s, moved, found⟩ := (Option.any_eq_true _ _).1 moved
    obtain ⟨invoked, none⟩ := of_decide_eq_true found
    obtain ⟨s', moved', same⟩ := moves fires fires rfl s moved (unexposed none)
    exact ⟨s, s', moved, invoked, moved', same⟩

end Scenario
end ScriptHost
