import ScriptHost.Proofs.Turns

/-!
# What code leaves in the log

Code that plays actions leaves the replies it gets, the requests that go to the transport, and the
observers it tells, if readiness has been announced; the rest is left by the engine, where it is at
hand. So before readiness a thread that runs code leaves entries of its own only: of the jobs it
begins, of its calls to the engine, of replies, and of requests. The others — observers, tasks,
modules, paths — are left by the loop and by bring-up.

## Main definitions

* `Logged` — what has come into the log meanwhile.
* `Session.Leaves` — code has left such entries; `Session.Habits` — those that all code leaves.
* `Entry.isOwn` — the entries that a thread leaves while it runs code before readiness.
* `Session.OwnWork` — a thread has done work of its own.

## Main statements

* `Session.perform_leaves`, `Session.play_leaves` — what actions leave.
* `Session.drain_ownWork`, `Session.runHelpers_ownWork` — drains do work of their thread.
-/

namespace ScriptHost

/-- All entries that have come into the log meanwhile are such. -/
def Logged (such : Entry → Prop) (before after : List Entry) : Prop :=
  ∃ entries, (∀ e ∈ entries, such e) ∧ after = entries ++ before

namespace Logged

variable {such such' : Entry → Prop} {log log' log'' : List Entry}

theorem refl (log : List Entry) : Logged such log log := ⟨[], by simp, rfl⟩

theorem trans (h : Logged such log log') (h' : Logged such log' log'') : Logged such log log'' := by
  obtain ⟨entries, all, rfl⟩ := h
  obtain ⟨entries', all', rfl⟩ := h'
  refine ⟨entries' ++ entries, fun e mem => ?_, by rw [List.append_assoc]⟩
  exact (List.mem_append.1 mem).elim (all' e) (all e)

theorem mono (h : Logged such log log') (imp : ∀ e, such e → such' e) : Logged such' log log' := by
  obtain ⟨entries, all, eq⟩ := h
  exact ⟨entries, fun e mem => imp e (all e mem), eq⟩

end Logged

namespace Session

variable {such : Entry → Prop} {told : Bool} {thread : Thread} {s t u : Session}

/-- Readiness is as it was, and what has been logged meanwhile are such entries. -/
def Leaves (such : Entry → Prop) (told : Bool) (s t : Session) : Prop :=
  s.readiness.ready = told → t.readiness.ready = told ∧ Logged such s.log t.log

/-- Such entries include those that any code leaves on a thread. -/
structure Habits (such : Entry → Prop) (told : Bool) (thread : Thread) : Prop where
  sent : ∀ e : Entry, e.isTransport = true → such e
  replied : ∀ action reply, such (.did action reply)
  observed : told = true → ∀ tag, such (.observer tag thread)

namespace Leaves

theorem still (ready : t.readiness.ready = s.readiness.ready) (log : t.log = s.log) :
    Leaves such told s t :=
  fun same => ⟨ready.trans same, by rw [log]; exact .refl s.log⟩

theorem refl (s : Session) : Leaves such told s s := still rfl rfl

theorem of_stage (h : t.stage = s.stage) : Leaves such told s t :=
  still (congrArg Stage.told h) (congrArg Stage.log h)

theorem trans (h : Leaves such told s t) (h' : Leaves such told t u) : Leaves such told s u := by
  intro same
  obtain ⟨same, logged⟩ := h same
  obtain ⟨same, logged'⟩ := h' same
  exact ⟨same, logged.trans logged'⟩

/-- Requests have the transport called, at most. -/
theorem of_sent (h : Habits such told thread)
    (eq : ∃ entries, (∀ e ∈ entries, e.isTransport = true) ∧
      t.stage = { s.stage with log := entries ++ s.log }) : Leaves such told s t := by
  obtain ⟨entries, sent, eq⟩ := eq
  exact fun same => ⟨(congrArg Stage.told eq).trans same, entries,
    fun e mem => h.sent e (sent e mem), congrArg Stage.log eq⟩

theorem note (s : Session) {e : Entry} (one : such e) : Leaves such told s (s.note e) :=
  fun same => ⟨same, [e], by simpa using one, rfl⟩

end Leaves

/-! ## Operations -/

section
variable (thread : Thread) (s : Session)

theorem enqueue_leaves (door : Door) (noThreads : Bool) (job : Work) :
    Leaves such told s (s.enqueue door thread noThreads job).2 := by
  rcases enqueue_cases s door thread noThreads job with h | ⟨-, ⟨-, h⟩ | ⟨-, h | h⟩⟩ <;> rw [h]
  · exact .refl s
  · exact .still rfl rfl
  · exact .still rfl rfl
  · exact .still rfl rfl

theorem pause_leaves : Leaves such told s s.pause.2 := by
  rcases pause_cases s with h | ⟨-, h⟩ <;> rw [h]
  · exact .refl s
  · rw [withdrawSweep_eq]
    exact .still rfl rfl

theorem unpause_leaves : Leaves such told s s.unpause.2 := by
  rcases unpause_cases s with h | ⟨-, h⟩ <;> rw [h]
  · exact .refl s
  · have armed := stage_armSweep { s with phase := .ready } true
    exact .still (congrArg Stage.told armed) (congrArg Stage.log armed)

theorem beginShutdown_leaves (query : Option Nat) :
    Leaves such told s (s.beginShutdown query).2 := by
  rcases beginShutdown_cases s query with h | ⟨-, ⟨-, h⟩ | ⟨-, h⟩⟩ <;> rw [h]
  · exact .refl s
  · rw [withdrawSweep_eq]
    exact .still rfl rfl
  · rw [withdrawSweep_eq]
    exact .still rfl rfl

theorem askFrom_leaves {ask : Session → Except Failure Nat × Session}
    (h : (ask s).2.stage = s.stage) : Leaves such told s (askFrom thread ask s).2 := by
  unfold askFrom
  split
  · exact .refl s
  · split <;> next heq => rw [heq] at h; exact .of_stage h

theorem shutdownFrom_leaves : Leaves such told s (shutdownFrom thread s).2 := by
  have begun : Leaves such told s (s.beginShutdown none).2 := beginShutdown_leaves s none
  have asked : Leaves such told s s.askShutdown.2 := by
    have begun : Leaves such told s (s.beginShutdown (some s.nextQuery)).2 :=
      beginShutdown_leaves s _
    unfold askShutdown
    dsimp only
    split <;> next heq => rw [heq] at begun; exact begun.trans (.still rfl rfl)
  unfold shutdownFrom
  split
  · split <;> next heq => rw [heq] at begun; exact begun
  · split <;> next heq => rw [heq] at asked; exact asked

end

/-! ## Actions -/

/-- Such entries include those that calls to the engine leave on a thread, where it is at hand. -/
def AccessLeaves (such : Entry → Prop) (told : Bool) (thread : Thread) (access : EngineAccess) :
    Prop :=
  access.All fun engine => ∀ call s, Leaves such told s (engine thread call s).2

theorem callEngine_leaves {access : EngineAccess} (h : AccessLeaves such told thread access)
    (call : EngineCall) (s : Session) : Leaves such told s (callEngine access thread call s).2 := by
  unfold callEngine
  split
  · exact .refl s
  next engine given =>
    have called := h.1 engine given call s
    split <;> next heq => rw [heq] at called; exact called

mutual

theorem perform_leaves {access : EngineAccess} (habits : Habits such told thread)
    (h : AccessLeaves such told thread access) :
    (a : Action) → (s : Session) → Leaves such told s (perform access thread a s).2
  | .schedule door pair delay recurring, s => .of_stage (stage_schedule s door pair delay recurring)
  | .cancel door timer, s => .of_stage (stage_cancel s door timer)
  | .tick door noThreads tag actions, s => enqueue_leaves thread s door noThreads ⟨tag, actions⟩
  | .request door noThreads order, s => .of_sent habits (stage_issue s door noThreads order)
  | .on door event pair, s => .of_stage (stage_listen s door event pair)
  | .off door event, s => .of_stage (stage_unlisten s door event)
  | .phase _, s => .refl s
  | .locale _, s => .refl s
  | .isTimerLive _, s => .refl s
  | .emit event value, s => .of_stage (stage_emit s event value)
  | .emitFlag event value, s => .of_stage (stage_emit s event (.bool value))
  | .register name, s => .of_stage (stage_registerModule s name)
  | .post tag delay actions, s => .of_stage (stage_postWork s delay ⟨tag, actions⟩)
  | .pause, s => pause_leaves s
  | .unpause, s => unpause_leaves s
  | .sweep, s => .of_stage (stage_sweepNow s)
  | .readiness, s => .refl s
  | .awaitReady, s => .refl s
  | .interval, s => .refl s
  | .statistics, s => .refl s
  | .observe tag actions, s => by
    -- An observer is told at once behind the announcement only.
    intro same
    refine Leaves.trans (t := if s.readiness.ready then
      (play access.outside thread actions (s.note (.observer tag thread))).2 else s) ?_
        (.still rfl rfl) same
    split
    · next ready =>
      have observed := habits.observed (same.symm.trans ready) tag
      exact (Leaves.note s observed).trans (play_leaves habits h.outside actions _)
    · exact .refl s
  | .unobserve _, s => .still rfl rfl
  | .release key, s => .of_sent habits (stage_release s key)
  | .guarded body, s => by
    unfold perform
    split
    · exact .refl s
    next u take =>
      obtain ⟨-, -, rfl⟩ := takeLock_eq_ok.1 take
      have inner := collect_leaves habits h.inside body { s with lock := ⟨some thread⟩ }
      split <;> next heq => rw [heq] at inner; exact inner
  | .leakLock, s => by
    unfold perform
    split
    · exact .refl s
    next u take =>
      obtain ⟨-, -, rfl⟩ := takeLock_eq_ok.1 take
      exact .still rfl rfl
  | .script source name, s => askFrom_leaves thread s (stage_ask s (.script source name))
  | .require path, s => askFrom_leaves thread s (stage_ask s (.require path))
  | .shutdown, s => shutdownFrom_leaves thread s
  | .beginScript key source name, s => .of_stage (stage_beginScript s key source name)
  | .scriptResult key, s => .of_stage (stage_scriptResult s key)
  | .callScript source name, s => callEngine_leaves h (.script source name) s
  | .callBack pair arguments, s => callEngine_leaves h (.invoke pair arguments) s
  | .fail _, s => .refl s
  | .panic, s => .refl s

theorem play_leaves {access : EngineAccess} (habits : Habits such told thread)
    (h : AccessLeaves such told thread access) :
    (actions : List Action) → (s : Session) → Leaves such told s (play access thread actions s).2
  | [], s => .refl s
  | a :: rest, s => by
    have first := perform_leaves habits h a s
    unfold play
    split
    · next reply t heq =>
      rw [heq] at first
      exact (first.trans (.note t (habits.replied _ _))).trans (play_leaves habits h rest _)
    · next heq => rw [heq] at first; exact first
    · next heq => rw [heq] at first; exact first

theorem collect_leaves {access : EngineAccess} (habits : Habits such told thread)
    (h : AccessLeaves such told thread access) :
    (actions : List Action) → (s : Session) → Leaves such told s (collect access thread actions s).2
  | [], s => .refl s
  | a :: rest, s => by
    have first := perform_leaves habits h a s
    unfold collect
    split
    · next reply t heq =>
      rw [heq] at first
      have others := collect_leaves habits h rest t
      split <;> next heq => rw [heq] at others; exact first.trans others
    · next heq => rw [heq] at first; exact first

end

/-! ## What plays actions -/

/-- The engine plays without calling itself. -/
theorem playScripted_leaves (habits : Habits such told thread) (actions : List Action)
    (s : Session) : Leaves such told s (playScripted thread actions s).2 := by
  have played : Leaves such told s (play .nowhere thread actions s).2 :=
    play_leaves habits EngineAccess.all_nowhere actions s
  unfold playScripted
  split <;> next heq => rw [heq] at played; exact played

end Session

/-! ## Before readiness -/

/-- The entries that a thread leaves while it runs code before readiness has been announced. -/
def Entry.isOwn (thread : Thread) : Entry → Bool
  | .job _ other | .invoke _ _ other => other = thread
  | .script .. | .transport _ | .did .. => true
  | .bringUp .. | .register _ | .require _ | .dispose _ | .task .. | .observer .. => false

namespace Session

variable {thread : Thread} {s t : Session}

/-- Unless readiness has been announced, it still is not, and what has been logged meanwhile are the
thread's own entries. -/
def OwnWork (thread : Thread) : Session → Session → Prop :=
  Leaves (fun e => e.isOwn thread = true) false

theorem ownHabits (thread : Thread) : Habits (fun e => e.isOwn thread = true) false thread where
  sent e sent := by
    cases e with
    | transport request => rfl
    | _ => cases sent
  replied _ _ := rfl
  observed told := by cases told

theorem invoke_ownWork (thread : Thread) (pair : Pair) (arguments : List Json.Value)
    (s : Session) : OwnWork thread s (invoke thread pair arguments s).2 := by
  refine Leaves.trans ?_ (playScripted_leaves (ownHabits thread) _ _)
  exact fun untold => ⟨untold, [.invoke pair arguments thread], by simp [Entry.isOwn], rfl⟩

theorem runScript_ownWork (thread : Thread) (source name : String) (s : Session) :
    OwnWork thread s (runScript thread source name s).2 := by
  have noted : OwnWork thread s (s.note (.script name source)) := .note s rfl
  rw [runScript_eq]
  exact noted.trans (playScripted_leaves (ownHabits thread) _ _)

/-- Calls to the engine are work of the thread that makes them. -/
theorem engineAccess_ownWork (thread : Thread) :
    AccessLeaves (fun e => e.isOwn thread = true) false thread engineAccess := by
  refine EngineAccess.all_engineAccess fun call s => ?_
  cases call with
  | script source name => exact runScript_ownWork thread source name s
  | invoke pair arguments =>
    have recorded : OwnWork thread s
        (s.record (.called pair.callback (s.invoked pair.callback))) := .still rfl rfl
    exact recorded.trans (invoke_ownWork thread pair arguments _)

theorem runJob_ownWork (thread : Thread) (job : Work) (s : Session) :
    OwnWork thread s (s.runJob thread job) := by
  have noted : OwnWork thread (s.record (.executed job))
      ((s.record (.executed job)).note (.job job.tag thread)) := .note _ (by simp [Entry.isOwn])
  exact noted.trans (play_leaves (ownHabits thread) (engineAccess_ownWork thread) job.actions _)

theorem drain_ownWork {bound : Nat} (d : s.drain bound thread = some t) : OwnWork thread s t :=
  drain_induct (P := OwnWork thread s) (fun _ h => h) (fun _ h => h)
    (fun job h => h.trans (runJob_ownWork thread job _)) (.refl s) d

theorem runHelpers_ownWork {bound : Nat} (d : s.runHelpers bound = some t) :
    OwnWork .helper s t :=
  runHelpers_induct (P := OwnWork .helper s) (fun h => h) (fun h d => h.trans (drain_ownWork d))
    (.refl s) d

end Session
end ScriptHost
