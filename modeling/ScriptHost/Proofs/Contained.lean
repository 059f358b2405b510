import ScriptHost.Proofs.Carried
import ScriptHost.Proofs.Recorded

/-!
# Ends that nobody looks at

Mended code does to the mended session what the code does to the session: the same actions lead to
the same replies and the same states, however the code between them ends. The only way to see an end
is to make an invocation oneself, with the engine at hand.

## Main definitions

* `Alike` — two results are the same, or both are spoilt.
* `Session.Exposed` — code has made one of the chosen invocations itself.

## Main statements

* `Session.perform_mend`, `Session.play_mend`, `Session.collect_mend` — actions and mended actions.
* `Session.play_untilEnd` — a list of actions and the same list ending normally.
* `Session.engineAccess_mend`, `Session.invoke_contained`, `Session.sweepGraveyard_mend`,
  `Session.runWork_mend` — the engine, and what runs code on it.

## Design notes

A state in which a chosen invocation has been exposed stays so, since the journal only grows. From
there on nothing is claimed, so every statement is that two results are alike: the same, or exposed
both.
-/

namespace ScriptHost

/-- Two results are the same, or both are spoilt. -/
def Alike {β : Type} (spoilt : β → Prop) (x y : β) : Prop := x = y ∨ spoilt x ∧ spoilt y

namespace Alike

variable {β γ : Type} {spoilt : β → Prop} {spoilt' : γ → Prop} {x y z : β}

theorem refl (x : β) : Alike spoilt x x := .inl rfl

theorem symm (h : Alike spoilt x y) : Alike spoilt y x := h.imp Eq.symm And.symm

theorem trans (h : Alike spoilt x y) (h' : Alike spoilt y z) : Alike spoilt x z := by
  rcases h with rfl | ⟨left, right⟩
  · exact h'
  · rcases h' with rfl | ⟨-, right⟩
    · exact .inr ⟨left, right⟩
    · exact .inr ⟨left, right⟩

/-- What spoils nothing less leads from alike to alike. -/
theorem congr (h : Alike spoilt x y) (f : β → γ) (spoils : ∀ x, spoilt x → spoilt' (f x)) :
    Alike spoilt' (f x) (f y) :=
  h.imp (congrArg f) fun both => ⟨spoils x both.1, spoils y both.2⟩

theorem eq_of_not (h : Alike spoilt x y) (fine : ¬ spoilt x) : x = y :=
  h.resolve_right fun both => fine both.1

end Alike

namespace Journal

theorem called_mend (j : Journal) : called (j.map Event.mend) = called j := by
  induction j with
  | nil => rfl
  | cons e j ih => cases e <;> simp [called, Event.mend, ih]

end Journal

namespace Session

variable {chosen : Invocations} {s t : Session}

/-- Code has made one of the chosen invocations itself, and looked at its end. -/
def Exposed (chosen : Invocations) (s : Session) : Prop :=
  ∃ call ∈ s.journal.called, chosen call.1 call.2 = true

theorem Recorded.exposed (h : Recorded s t) (e : s.Exposed chosen) : t.Exposed chosen := by
  obtain ⟨call, mem, among⟩ := e
  obtain ⟨later, eq⟩ := h
  refine ⟨call, ?_, among⟩
  rw [← eq, Journal.called_append]
  exact List.mem_append_right _ mem

theorem exposed_mend : (s.mend chosen).Exposed chosen ↔ s.Exposed chosen := by
  unfold Exposed
  rw [show (s.mend chosen).journal = s.journal.map Event.mend from rfl, Journal.called_mend]

/-- The state that an operation has led to is exposed. -/
def ExposedIn {α : Type} (chosen : Invocations) (x : α × Session) : Prop := x.2.Exposed chosen

/-- Whatever is made of a result leaves the state alone. -/
theorem alike_map {α β : Type} {x y : α × Session} (h : Alike (ExposedIn chosen) x y)
    (f : α → β) : Alike (ExposedIn chosen) (Prod.map f id x) (Prod.map f id y) :=
  h.congr (Prod.map f id) fun _ exposed => exposed

/-- Calls to the engine, where it is at hand, do to the mended session what they do to the session.
-/
def AccessMends (chosen : Invocations) : EngineAccess → Prop :=
  EngineAccess.All fun engine => ∀ thread call s,
    Alike (ExposedIn chosen) (engine thread call (s.mend chosen))
      (Prod.map id (mend chosen) (engine thread call s))

theorem askFrom_mend (thread : Thread) (ask : Session → Except Failure Nat × Session)
    (h : ask (s.mend chosen) = Prod.map id (mend chosen) (ask s)) :
    askFrom thread ask (s.mend chosen) =
      Prod.map (Outcome.map Reply.blur) (mend chosen) (askFrom thread ask s) := by
  unfold askFrom
  rw [h]
  split
  · rfl
  · rcases ask s with ⟨asked, t⟩
    cases asked <;> rfl

theorem shutdownFrom_mend (thread : Thread) :
    shutdownFrom thread (s.mend chosen) =
      Prod.map (Outcome.map Reply.blur) (mend chosen) (shutdownFrom thread s) := by
  unfold shutdownFrom
  split
  · rw [beginShutdown_mend]
    rcases s.beginShutdown none with ⟨begun, t⟩
    cases begun <;> rfl
  · rw [askShutdown_mend]
    rcases s.askShutdown with ⟨asked, t⟩
    cases asked <;> rfl

/-- What is replied to code that has called the engine. -/
def engineReply : Outcome EngineFailure Json.Value → Outcome String Reply
  | .ok v => .ok (.value v)
  | .failed f => .ok (.engineFailed f)
  | .panicked => .panicked

theorem engineReply_blur (result : Outcome EngineFailure Json.Value) :
    (engineReply result).map Reply.blur = engineReply result := by
  cases result <;> rfl

theorem callEngine_given {access : EngineAccess} {engine : EngineCaller}
    (given : access.given = some engine) (thread : Thread) (call : EngineCall) (s : Session) :
    callEngine access thread call s = Prod.map engineReply id (engine thread call s) := by
  unfold callEngine
  rw [given]
  dsimp only
  rcases engine thread call s with ⟨result, t⟩
  cases result <;> rfl

theorem callEngine_mend {access : EngineAccess} (h : AccessMends chosen access) (thread : Thread)
    (call : EngineCall) (s : Session) :
    Alike (ExposedIn chosen) (callEngine access thread call (s.mend chosen))
      (Prod.map (Outcome.map Reply.blur) (mend chosen) (callEngine access thread call s)) := by
  cases given : access.given with
  | none =>
    simp only [callEngine, given]
    exact .refl _
  | some engine =>
    have called := alike_map (h.1 engine given thread call s) engineReply
    rw [callEngine_given given, callEngine_given given]
    refine called.trans (.inl ?_)
    rcases engine thread call s with ⟨result, t⟩
    exact congrArg (Prod.mk · _) (engineReply_blur result).symm

/-! ## Lists of actions -/

theorem play_cons_recorded {access : EngineAccess} (deeds : AccessDeeds access) (thread : Thread)
    (a : Action) (rest : List Action) (s : Session) :
    Recorded (perform access thread a s).2 (play access thread (a :: rest) s).2 := by
  unfold play
  split
  · next reply t heq =>
    rw [heq]
    have played := (play_deeds deeds thread rest (t.note (.did a.name reply))).recorded
    exact (Recorded.same rfl : Recorded t (t.note _)).trans played
  · next heq =>
    rw [heq]
    exact .refl _
  · next heq =>
    rw [heq]
    exact .refl _

theorem collect_cons_recorded {access : EngineAccess} (deeds : AccessDeeds access)
    (thread : Thread) (a : Action) (rest : List Action) (s : Session) :
    Recorded (perform access thread a s).2 (collect access thread (a :: rest) s).2 := by
  unfold collect
  split
  · next reply t heq =>
    rw [heq]
    have others := (collect_deeds deeds thread rest t).recorded
    split <;> next heq => rw [heq] at others; exact others
  · next heq =>
    rw [heq]
    exact .refl _

theorem name_mend (a : Action) : a.mend.name = a.name := by
  cases a <;> simp only [Action.mend, Action.name]

theorem isEnd_mend (a : Action) : a.mend.isEnd = a.isEnd := by
  cases a <;> simp only [Action.mend, Action.isEnd]

/-- An observer is entered. -/
def enter (observer : Work) (s : Session) : Outcome String Reply × Session :=
  let (index, readiness) := s.readiness.add observer
  (.ok (.count index), { s with readiness })

theorem enter_mend (observer : Work) (s : Session) :
    enter observer.mend (s.mend chosen) =
      Prod.map (Outcome.map Reply.blur) (mend chosen) (enter observer s) := by
  have added : (s.readiness.map Work.mend).add observer.mend =
      Prod.map id (Readiness.map Work.mend) (s.readiness.add observer) := by
    cases ready : s.readiness.ready with
    | false => simp [Readiness.add, Readiness.map, ready]
    | true => simp [Readiness.add, Readiness.map, ready]
  unfold enter
  rw [mend_readiness, added]
  rfl

theorem unobserve_mend {access : EngineAccess} (thread : Thread) (index : Nat) (s : Session) :
    perform access thread (.unobserve index) (s.mend chosen) =
      Prod.map (Outcome.map Reply.blur) (mend chosen)
        (perform access thread (.unobserve index) s) := by
  have waiting : (s.readiness.map Work.mend).isWaiting index = s.readiness.isWaiting index := by
    simp [Readiness.isWaiting, Readiness.map, Function.comp_def]
  have removed : (s.readiness.map Work.mend).remove index =
      (s.readiness.remove index).map Work.mend := by
    simp [Readiness.remove, Readiness.map, List.filter_map, Function.comp_def]
  unfold perform
  rw [mend_readiness, waiting, removed]
  rfl

/-- A guarded body has ended, and the lock is released. -/
def close : Option (List Reply) × Session → Outcome String Reply × Session
  | (some replies, s) => (.ok (.replies replies), s.unlock)
  | (none, s) => (.ok .panicked, s.unlock)

theorem close_mend (x : Option (List Reply) × Session) :
    close (Prod.map (Option.map Reply.blurAll) (mend chosen) x) =
      Prod.map (Outcome.map Reply.blur) (mend chosen) (close x) := by
  rcases x with ⟨replies, s⟩
  cases replies <;> rfl

/-- The reply of one action stands before those of the others. -/
def gather (reply : Reply) : Option (List Reply) × Session → Option (List Reply) × Session
  | (some replies, s) => (some (reply :: replies), s)
  | (none, s) => (none, s)

theorem gather_mend (reply : Reply) (x : Option (List Reply) × Session) :
    gather reply.blur (Prod.map (Option.map Reply.blurAll) (mend chosen) x) =
      Prod.map (Option.map Reply.blurAll) (mend chosen) (gather reply x) := by
  rcases x with ⟨replies, s⟩
  cases replies <;> rfl

theorem ExposedIn.close {x : Option (List Reply) × Session} (h : ExposedIn chosen x) :
    ExposedIn chosen (close x) := by
  rcases x with ⟨replies, s⟩
  cases replies <;> exact h

theorem ExposedIn.gather {reply : Reply} {x : Option (List Reply) × Session}
    (h : ExposedIn chosen x) : ExposedIn chosen (gather reply x) := by
  rcases x with ⟨replies, s⟩
  cases replies <;> exact h

mutual

theorem perform_mend {access : EngineAccess} (deeds : AccessDeeds access)
    (h : AccessMends chosen access) (thread : Thread) : (a : Action) → (s : Session) →
      Alike (ExposedIn chosen) (perform access thread a.mend (s.mend chosen))
        (Prod.map (Outcome.map Reply.blur) (mend chosen) (perform access thread a s))
  | .schedule door pair delay recurring, s => by
    refine .inl ?_
    simp only [Action.mend, perform, schedule_mend]
    rcases s.schedule door pair delay recurring with ⟨id, t⟩
    cases id <;> rfl
  | .cancel door timer, s => .inl (congrArg flagged (s.cancel_mend chosen door timer))
  | .tick door noThreads tag actions, s => by
    refine .inl ?_
    simp only [Action.mend]
    exact (congrArg flagged (s.enqueue_mend chosen door thread noThreads ⟨tag, actions⟩))
  | .request door noThreads order, s => by
    refine .inl ?_
    simp only [Action.mend, perform, issue_mend]
    rcases s.issue door noThreads order with ⟨id, t⟩
    cases id <;> rfl
  | .on door event pair, s => .inl (congrArg flagged (s.listen_mend chosen door event pair))
  | .off door event, s => by
    refine .inl ?_
    simp only [Action.mend, perform, unlisten_mend]
    rfl
  | .phase door, s => .refl _
  | .locale door, s => by
    refine .inl ?_
    simp only [Action.mend, perform]
    rw [show (s.mend chosen).dropped = s.dropped from rfl]
    split <;> rfl
  | .isTimerLive timer, s => .refl _
  | .emit event value, s => .inl (congrArg flagged (s.emit_mend chosen event value))
  | .emitFlag event value, s => .inl (congrArg flagged (s.emit_mend chosen event (.bool value)))
  | .register name, s => .inl (congrArg flagged (s.registerModule_mend chosen name))
  | .post tag delay actions, s => by
    refine .inl ?_
    simp only [Action.mend]
    exact congrArg flagged (s.postWork_mend chosen delay ⟨tag, actions⟩)
  | .pause, s => .inl (congrArg flagged (s.pause_mend chosen))
  | .unpause, s => .inl (congrArg flagged (s.unpause_mend chosen))
  | .sweep, s => .inl (congrArg flagged (s.sweepNow_mend chosen))
  | .readiness, s => .refl _
  | .awaitReady, s => .refl _
  | .interval, s => .refl _
  | .statistics, s =>  by
    refine .inl ?_
    simp only [Action.mend, perform, statistics_mend]
    rfl
  | .observe tag actions, s => by
    have played := play_untilEnd deeds.outside h.outside thread actions
      (s.note (.observer tag thread))
    have told : Alike (Exposed chosen)
        (if s.readiness.ready then
            (play access.outside thread (Action.untilEnd (Action.mendAll actions))
              ((s.mend chosen).note (.observer tag thread))).2
          else s.mend chosen)
        ((if s.readiness.ready then
            (play access.outside thread actions (s.note (.observer tag thread))).2
          else s).mend chosen) := by
      split
      · exact played
      · exact .refl _
    simp only [Action.mend]
    unfold perform
    refine (told.congr (enter ⟨tag, _⟩) fun _ exposed => exposed).trans ?_
    exact .inl (enter_mend ⟨tag, actions⟩ _)
  | .unobserve index, s => .inl (unobserve_mend thread index s)
  | .release key, s => .inl (congrArg flagged (s.release_mend chosen key))
  | .guarded body, s => by
    simp only [Action.mend]
    unfold perform
    rw [takeLock_mend]
    cases takeLock thread s with
    | error reply => exact .refl _
    | ok t =>
      have played := collect_mend deeds.inside h.inside thread body t
      exact (played.congr close fun _ => ExposedIn.close).trans (.inl (close_mend _))
  | .leakLock, s => by
    refine .inl ?_
    simp only [Action.mend, perform, takeLock_mend]
    cases takeLock thread s <;> rfl
  | .script source name, s =>
    .inl (askFrom_mend thread (·.askScript source name) (s.askScript_mend chosen source name))
  | .require path, s =>
    .inl (askFrom_mend thread (·.askRequire path) (s.askRequire_mend chosen path))
  | .shutdown, s => .inl (shutdownFrom_mend thread)
  | .beginScript key source name, s => by
    refine .inl ?_
    simp only [Action.mend, perform, beginScript_mend]
    rfl
  | .scriptResult key, s => by
    refine .inl ?_
    simp only [Action.mend, perform, scriptResult_mend]
    rfl
  | .callScript source name, s => callEngine_mend h thread (.script source name) s
  | .callBack pair arguments, s => callEngine_mend h thread (.invoke pair arguments) s
  | .fail _, s => .refl _
  | .panic, s => .refl _

theorem play_mend {access : EngineAccess} (deeds : AccessDeeds access)
    (h : AccessMends chosen access) (thread : Thread) : (actions : List Action) → (s : Session) →
      Alike (ExposedIn chosen) (play access thread (Action.mendAll actions) (s.mend chosen))
        (Prod.map id (mend chosen) (play access thread actions s))
  | [], s => .refl _
  | a :: rest, s => by
    rcases perform_mend deeds h thread a s with same | ⟨exposed, exposed'⟩
    · simp only [Action.mendAll, play, same]
      rcases perform access thread a s with ⟨result, t⟩
      cases result with
      | ok reply =>
        simp only [Prod.map, Outcome.map, name_mend]
        exact play_mend deeds h thread rest (t.note (.did a.name reply))
      | failed message => exact .refl _
      | panicked => exact .refl _
    · refine .inr ⟨?_, ?_⟩
      · exact (play_cons_recorded deeds thread _ _ _).exposed exposed
      · have exposed := exposed_mend.1 exposed'
        exact exposed_mend.2 ((play_cons_recorded deeds thread a rest s).exposed exposed)

/-- What a list of actions does does not depend on how it ends. -/
theorem play_untilEnd {access : EngineAccess} (deeds : AccessDeeds access)
    (h : AccessMends chosen access) (thread : Thread) : (actions : List Action) → (s : Session) →
      Alike (Exposed chosen)
        (play access thread (Action.untilEnd (Action.mendAll actions)) (s.mend chosen)).2
        ((play access thread actions s).2.mend chosen)
  | [], s => .refl _
  | a :: rest, s => by
    cases ends : a.isEnd with
    | true =>
      have none : Action.untilEnd (Action.mendAll (a :: rest)) = [] := by
        simp [Action.mendAll, Action.untilEnd, isEnd_mend, ends]
      rw [none]
      cases a with
      | fail message => exact .refl _
      | panic => exact .refl _
      | _ => cases ends
    | false =>
      have some : Action.untilEnd (Action.mendAll (a :: rest)) =
          a.mend :: Action.untilEnd (Action.mendAll rest) := by
        simp [Action.mendAll, Action.untilEnd, isEnd_mend, ends]
      rw [some]
      rcases perform_mend deeds h thread a s with same | ⟨exposed, exposed'⟩
      · simp only [play, same]
        rcases perform access thread a s with ⟨result, t⟩
        cases result with
        | ok reply =>
          simp only [Prod.map, Outcome.map, name_mend]
          exact play_untilEnd deeds h thread rest (t.note (.did a.name reply))
        | failed message => exact .refl _
        | panicked => exact .refl _
      · refine .inr ⟨?_, ?_⟩
        · exact (play_cons_recorded deeds thread _ _ _).exposed exposed
        · have exposed := exposed_mend.1 exposed'
          exact exposed_mend.2 ((play_cons_recorded deeds thread a rest s).exposed exposed)

theorem collect_mend {access : EngineAccess} (deeds : AccessDeeds access)
    (h : AccessMends chosen access) (thread : Thread) : (actions : List Action) → (s : Session) →
      Alike (ExposedIn chosen) (collect access thread (Action.mendAll actions) (s.mend chosen))
        (Prod.map (Option.map Reply.blurAll) (mend chosen) (collect access thread actions s))
  | [], s => .refl _
  | a :: rest, s => by
    rcases perform_mend deeds h thread a s with same | ⟨exposed, exposed'⟩
    · simp only [Action.mendAll, collect, same]
      rcases perform access thread a s with ⟨result, t⟩
      cases result with
      | ok reply =>
        have gathered := (collect_mend deeds h thread rest t).congr (gather reply.blur)
          fun _ => ExposedIn.gather
        exact gathered.trans (.inl (gather_mend reply _))
      | failed message => exact .refl _
      | panicked => exact .refl _
    · refine .inr ⟨?_, ?_⟩
      · exact (collect_cons_recorded deeds thread _ _ _).exposed exposed
      · have exposed := exposed_mend.1 exposed'
        exact exposed_mend.2 ((collect_cons_recorded deeds thread a rest s).exposed exposed)

end

/-! ## The engine -/

variable (chosen)

/-- How a list of actions ends for the engine. -/
def scriptEnd : Outcome String Unit → Outcome EngineFailure Unit
  | .ok _ => .ok ()
  | .failed message => .failed (.script message)
  | .panicked => .panicked

theorem playScripted_eq (thread : Thread) (actions : List Action) (s : Session) :
    playScripted thread actions s = Prod.map scriptEnd id (play .nowhere thread actions s) := by
  unfold playScripted
  rcases play .nowhere thread actions s with ⟨result, t⟩
  cases result <;> rfl

theorem playScripted_mend (thread : Thread) (actions : List Action) (s : Session) :
    Alike (ExposedIn chosen) (playScripted thread (Action.mendAll actions) (s.mend chosen))
      (Prod.map id (mend chosen) (playScripted thread actions s)) := by
  rw [playScripted_eq, playScripted_eq]
  exact alike_map
    (play_mend EngineAccess.all_nowhere EngineAccess.all_nowhere thread actions s) scriptEnd

theorem playScripted_untilEnd (thread : Thread) (actions : List Action) (s : Session) :
    Alike (Exposed chosen)
      (playScripted thread (Action.untilEnd (Action.mendAll actions)) (s.mend chosen)).2
      ((playScripted thread actions s).2.mend chosen) := by
  rw [playScripted_eq, playScripted_eq]
  exact play_untilEnd EngineAccess.all_nowhere EngineAccess.all_nowhere thread actions s

theorem runScript_mend (thread : Thread) (source name : String) (s : Session) :
    Alike (ExposedIn chosen) (runScript thread source name (s.mend chosen))
      (Prod.map id (mend chosen) (runScript thread source name s)) := by
  have played := playScripted_mend chosen thread (s.program.scriptActions name)
    (s.note (.script name source))
  rw [runScript_eq, runScript_eq, mend_program, Program.scriptActions_mend]
  exact alike_map played (scriptValue source name)

theorem loadPath_mend (thread : Thread) (path : String) (s : Session) :
    Alike (ExposedIn chosen) (loadPath thread path (s.mend chosen))
      (Prod.map id (mend chosen) (loadPath thread path s)) := by
  have played := playScripted_mend chosen thread (s.program.scriptActions path)
    (s.note (.require path))
  rw [← Program.scriptActions_mend] at played
  exact alike_map played (Outcome.map fun _ => Json.Value.text path)

/-- An invocation is logged and counted. -/
def counted (thread : Thread) (pair : Pair) (arguments : List Json.Value) (s : Session) :
    Session :=
  { s.note (.invoke pair arguments thread) with
    invocations := (pair.callback, s.invoked pair.callback + 1) ::
      s.invocations.filter (·.1 != pair.callback) }

/-- An invocation whose end may be looked at goes on as before. -/
theorem invoke_mend {pair : Pair} (kept : chosen pair.callback (s.invoked pair.callback) = false)
    (thread : Thread) (arguments : List Json.Value) :
    Alike (ExposedIn chosen) (invoke thread pair arguments (s.mend chosen))
      (Prod.map id (mend chosen) (invoke thread pair arguments s)) := by
  have actions := s.program.callbackActions_mend chosen pair.callback (s.invoked pair.callback)
  rw [kept, if_neg Bool.false_ne_true] at actions
  have played := playScripted_mend chosen thread
    (s.program.callbackActions pair.callback (s.invoked pair.callback))
    (s.counted thread pair arguments)
  rw [← actions] at played
  exact played

/-- However an invocation ends, it does the same. -/
theorem invoke_contained (thread : Thread) (pair : Pair)
    (arguments : List Json.Value) (s : Session) :
    Alike (Exposed chosen) (invoke thread pair arguments (s.mend chosen)).2
      ((invoke thread pair arguments s).2.mend chosen) := by
  have actions := s.program.callbackActions_mend chosen pair.callback (s.invoked pair.callback)
  cases among : chosen pair.callback (s.invoked pair.callback) with
  | true =>
    rw [among, if_pos rfl] at actions
    have played := playScripted_untilEnd chosen thread
      (s.program.callbackActions pair.callback (s.invoked pair.callback))
      (s.counted thread pair arguments)
    rw [← actions] at played
    exact played
  | false =>
    have invoked := invoke_mend chosen among thread arguments
    exact invoked.congr Prod.snd fun _ exposed => exposed

theorem engineAccess_mend : AccessMends chosen engineAccess := by
  refine EngineAccess.all_engineAccess ?_
  intro thread call s
  cases call with
  | script source name => exact runScript_mend chosen thread source name s
  | invoke pair arguments =>
    let t := s.record (.called pair.callback (s.invoked pair.callback))
    cases among : chosen pair.callback (s.invoked pair.callback) with
    | true =>
      have exposed : t.Exposed chosen := ⟨_, List.mem_cons_self .., among⟩
      have exposed' : (t.mend chosen).Exposed chosen := exposed_mend.2 exposed
      refine .inr ⟨?_, ?_⟩
      · exact (invoke_deeds thread pair arguments _).recorded.exposed exposed'
      · exact exposed_mend.2 ((invoke_deeds thread pair arguments t).recorded.exposed exposed)
    | false =>
      have invoked := invoke_mend chosen (s := t) among thread arguments
      exact alike_map invoked (Outcome.map fun _ => Json.Value.null)

theorem invokeLive_mend (thread : Thread) (pair : Pair) (arguments : List Json.Value)
    (s : Session) :
    Alike (Exposed chosen) ((s.mend chosen).invokeLive thread pair arguments).2
      ((s.invokeLive thread pair arguments).2.mend chosen) := by
  have invoked := invoke_contained chosen thread pair arguments s
  unfold invokeLive
  rw [show (s.mend chosen).custody.isLive pair = s.custody.isLive pair from rfl]
  split
  · exact invoked
  · exact .refl _

/-- However the releases of a sweep end, it does the same. -/
theorem retire_mend (pair : Pair) (c : Custody) (s : Session) :
    (Custody.retire disposer pair ({ c with failures := 0 }, s.mend chosen)).2 =
      Prod.map (fun c => { c with failures := 0 }) (mend chosen)
        (Custody.retire disposer pair (c, s)).2 := by
  have released : (s.mend chosen).dispose pair =
      (.ok (), (s.note (.dispose pair)).mend chosen) := by
    simp [dispose, note, mend, Program.mend, Entry.blur]
  rcases retire_disposer pair c s with ⟨live, failures, h⟩ | ⟨dead, h⟩
  · have live' : Custody.isLive { c with failures := 0 } pair = true := live
    rw [h]
    simp only [Custody.retire, live', if_true, disposer, released]
    rfl
  · have dead' : Custody.isLive { c with failures := 0 } pair = false := dead
    rw [h]
    simp only [Custody.retire, dead', Bool.false_eq_true, if_false]
    rfl

theorem sweepGraveyard_mend (s : Session) :
    (s.mend chosen).sweepGraveyard.2 = s.sweepGraveyard.2.mend chosen := by
  have all (pairs : List Pair) (c : Custody) (s : Session) :
      (Custody.retireAll disposer pairs ({ c with failures := 0 }, s.mend chosen)).2 =
        Prod.map (fun c => { c with failures := 0 }) (mend chosen)
          (Custody.retireAll disposer pairs (c, s)).2 := by
    induction pairs generalizing c s with
    | nil => rfl
    | cons pair rest ih =>
      rw [Custody.retireAll_cons_snd, Custody.retireAll_cons_snd, retire_mend]
      exact ih _ _
  have swept := all s.custody.buried { s.custody with buried := [] }
    (s.record (.swept s.custody.buried))
  exact congrArg (fun x : Custody × Session => ({ x.2 with custody := x.1 } : Session)) swept

variable {chosen} in
theorem runWork_mend {access : EngineAccess} (deeds : AccessDeeds access)
    (h : AccessMends chosen access) (thread : Thread) (entry : Entry) (work : Work) (s : Session) :
    Alike (Exposed chosen) ((s.mend chosen).runWork access thread entry.blur work.mend)
      ((s.runWork access thread entry work).mend chosen) :=
  play_untilEnd deeds h thread work.actions (s.note entry)

end Session
end ScriptHost
