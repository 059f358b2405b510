import ScriptHost.Session.Scenario

/-!
# What code does to a session

Callbacks, scripts, jobs, tasks, observers and the host act on a session through its operations
only. `Session.Deeds` lists these operations; everything that plays actions leads from one session
to another by deeds, so what deeds keep is kept by all code, whatever it does and however it ends.

## Main definitions

* `Message.isPlain` — the messages that code posts as such.
* `Entry.byCode` — the entries that code leaves in the log; `Entry.isAside` — those that do not come
  from a request.
* `Session.Aside` — a change that touches neither queue nor tables.
* `Session.Deeds` — what code on a thread can lead to.
* `EngineAccess.All` — a property of whatever calls reach the engine.

## Main statements

* `Session.play_deeds`, `Session.perform_deeds`, `Session.collect_deeds` — actions are deeds.
* `Session.act_deeds`, `Session.runWork_deeds`, `Session.invoke_deeds`, … — so is what plays them.
-/

namespace ScriptHost

/-- The messages that are posted as they are, by the operation of the same name. -/
def Message.isPlain : Message → Bool
  | .sweep | .emit .. | .register _ | .task _ | .script .. | .require .. => true
  | .ready | .fire _ | .drain | .complete .. | .shutdown _ => false

/-- The entries that come into the log while code plays its actions. -/
def Entry.byCode : Entry → Bool
  | .job .. | .dispose _ => false
  | _ => true

/-- The entries of requests that go to the transport. -/
def Entry.isTransport : Entry → Bool
  | .transport _ => true
  | _ => false

/-- An invocation of a callback. -/
def Entry.isInvoke : Entry → Bool
  | .invoke .. => true
  | _ => false

theorem Entry.byCode_of_isTransport {e : Entry} (h : e.isTransport = true) : e.byCode = true := by
  cases e with
  | transport request => rfl
  | _ => cases h

/-- The entries that code leaves otherwise than by a request. -/
def Entry.isAside : Entry → Bool
  | .job .. | .dispose _ | .transport _ => false
  | _ => true

theorem Entry.byCode_of_isAside {e : Entry} (h : e.isAside = true) : e.byCode = true := by
  cases e with
  | job tag thread => cases h
  | dispose pair => cases h
  | _ => rfl

/-! ## Access to the engine -/

namespace EngineAccess

/-- Whatever calls reach the engine have a property. -/
def All (P : EngineCaller → Prop) (access : EngineAccess) : Prop :=
  (∀ engine ∈ access.given, P engine) ∧ ∀ engine ∈ access.locked, P engine

variable {P : EngineCaller → Prop} {access : EngineAccess}

theorem all_nowhere : nowhere.All P := ⟨nofun, nofun⟩

theorem All.outside (h : access.All P) : access.outside.All P := ⟨nofun, h.2⟩

theorem All.inside (h : access.All P) : access.inside.All P := ⟨h.2, h.2⟩

/-- Jobs and tasks have one way to the engine. -/
theorem all_engineAccess (h : P Session.callDirectly) : Session.engineAccess.All P := by
  refine ⟨?_, ?_⟩ <;> rintro engine ⟨⟩ <;> exact h

end EngineAccess

namespace Session

/-- A change that touches neither the queue nor the tables: numbers that are given out, what waits
for readiness, and entries that code leaves in the log. Readiness itself is not announced. -/
def Aside (s t : Session) : Prop :=
  ∃ readiness backlog nextQuery answers keys invocations entries,
    (∀ e ∈ entries, e.isAside = true) ∧ readiness.ready = s.readiness.ready ∧
    t = { s with
      readiness := readiness
      backlog := backlog
      nextQuery := nextQuery
      answers := answers
      keys := keys
      invocations := invocations
      log := entries ++ s.log }

/-- Where code that runs on a thread can lead. -/
inductive Deeds (thread : Thread) : Session → Session → Prop where
  | none (s : Session) : Deeds thread s s
  | trans {s t u : Session} (d : Deeds thread s t) (e : Deeds thread t u) : Deeds thread s u
  | aside {s t : Session} (h : Aside s t) : Deeds thread s t
  | post (s : Session) {m : Message} (h : m.isPlain = true) : Deeds thread s (s.post m).2
  | arm (s : Session) (delay : Nat) (work : Work) : Deeds thread s (s.arm delay (.task work)).2
  | schedule (s : Session) (door : Door) (pair : Pair) (delay : Nat) (recurring : Bool) :
      Deeds thread s (s.schedule door pair delay recurring).2
  | cancel (s : Session) (door : Door) (id : Nat) : Deeds thread s (s.cancel door id).2
  | enqueue (s : Session) (door : Door) (noThreads : Bool) (job : Work) :
      Deeds thread s (s.enqueue door thread noThreads job).2
  | issue (s : Session) (door : Door) (noThreads : Bool) (order : Order) :
      Deeds thread s (s.issue door noThreads order).2
  | release (s : Session) (key : String) : Deeds thread s (s.release key).2
  | listen (s : Session) (door : Door) (event : String) (pair : Pair) :
      Deeds thread s (s.listen door event pair).2
  | unlisten (s : Session) (door : Door) (event : String) :
      Deeds thread s (s.unlisten door event).2
  | pause (s : Session) : Deeds thread s s.pause.2
  | unpause (s : Session) : Deeds thread s s.unpause.2
  | shutdown (s : Session) (query : Option Nat) : Deeds thread s (s.beginShutdown query).2
  | guarded {s t u : Session} (take : takeLock thread s = .ok t) (body : Deeds thread t u) :
      Deeds thread s u.unlock
  | leak {s t : Session} (take : takeLock thread s = .ok t) : Deeds thread s t
  /-- Code goes to the engine directly, to invoke a callback. -/
  | called (s : Session) (callback : UInt64) (before : Nat) :
      Deeds thread s (s.record (.called callback before))

/-! ## Asides -/

section
variable (s : Session)

theorem aside_note {e : Entry} (h : e.isAside = true) : Aside s (s.note e) :=
  ⟨_, _, _, _, _, _, [e], by simpa using h, rfl, rfl⟩

theorem aside_readiness {r : Readiness Work} (h : r.ready = s.readiness.ready) :
    Aside s { s with readiness := r } :=
  ⟨_, _, _, _, _, _, [], by simp, h, rfl⟩

theorem aside_backlog (b : Backlog) : Aside s { s with backlog := b } :=
  ⟨_, _, _, _, _, _, [], by simp, rfl, rfl⟩

theorem aside_nextQuery (n : Nat) : Aside s { s with nextQuery := n } :=
  ⟨_, _, _, _, _, _, [], by simp, rfl, rfl⟩

theorem aside_keys (keys : List (String × Nat)) : Aside s { s with keys := keys } :=
  ⟨_, _, _, _, _, _, [], by simp, rfl, rfl⟩

theorem aside_answer (query : Nat) (result : Except Failure Json.Value) :
    Aside s (s.answer query result) :=
  ⟨_, _, _, _, _, _, [], by simp, rfl, rfl⟩

end

/-! ## Operations that only post -/

section
variable (thread : Thread) (s : Session)

theorem emit_deeds (event : String) (value : Json.Value) :
    Deeds thread s (s.emit event value).2 := by
  unfold emit
  split
  · exact .post s rfl
  · exact .none s

theorem registerModule_deeds (name : String) : Deeds thread s (s.registerModule name).2 := by
  unfold registerModule
  split
  · exact .none s
  split
  · exact .post s rfl
  · exact .aside (aside_backlog s _)

theorem postWork_deeds (delay : Nat) (work : Work) : Deeds thread s (s.postWork delay work).2 := by
  unfold postWork
  split
  · exact .none s
  split
  · exact .post s rfl
  · exact .arm s delay work

theorem sweepNow_deeds : Deeds thread s s.sweepNow.2 := by
  unfold sweepNow
  split
  · exact .post s rfl
  · exact .none s

theorem ask_deeds {message : Nat → Message} (h : ∀ query, (message query).isPlain = true) :
    Deeds thread s (s.ask message).2 := by
  have posted : Deeds thread s (s.post (message s.nextQuery)).2 := .post s (h _)
  unfold ask
  split
  · exact .none s
  · dsimp only
    split
    · next heq => rw [heq] at posted; exact posted.trans (.aside (aside_nextQuery _ _))
    · next heq => rw [heq] at posted; exact posted

theorem askScript_deeds (source name : String) : Deeds thread s (s.askScript source name).2 :=
  ask_deeds thread s fun _ => rfl

theorem askRequire_deeds (path : String) : Deeds thread s (s.askRequire path).2 :=
  ask_deeds thread s fun _ => rfl

theorem askShutdown_deeds : Deeds thread s s.askShutdown.2 := by
  have begun : Deeds thread s (s.beginShutdown (some s.nextQuery)).2 := .shutdown s _
  unfold askShutdown
  dsimp only
  split
  · next heq => rw [heq] at begun; exact begun.trans (.aside (aside_nextQuery _ _))
  · next heq => rw [heq] at begun; exact begun

theorem beginScript_deeds (key source name : String) :
    Deeds thread s (s.beginScript key source name).2 := by
  have asked := askScript_deeds thread s source name
  unfold beginScript
  split
  · next heq => rw [heq] at asked; exact asked.trans (.aside (aside_keys _ _))
  · next heq => rw [heq] at asked; exact asked

theorem scriptResult_deeds (key : String) : Deeds thread s (s.scriptResult key).2 := by
  unfold scriptResult
  split
  · exact .none s
  split
  · exact .none s
  · exact .aside (aside_keys s _)

theorem askFrom_deeds {ask : Session → Except Failure Nat × Session}
    (h : Deeds thread s (ask s).2) : Deeds thread s (askFrom thread ask s).2 := by
  unfold askFrom
  split
  · exact .none s
  · split
    · next heq => rw [heq] at h; exact h
    · next heq => rw [heq] at h; exact h

theorem shutdownFrom_deeds : Deeds thread s (shutdownFrom thread s).2 := by
  have begun : Deeds thread s (s.beginShutdown none).2 := .shutdown s _
  have asked := askShutdown_deeds thread s
  unfold shutdownFrom
  split
  · split
    · next heq => rw [heq] at begun; exact begun
    · next heq => rw [heq] at begun; exact begun
  · split
    · next heq => rw [heq] at asked; exact asked
    · next heq => rw [heq] at asked; exact asked

end

/-! ## Actions -/

/-- Calls to the engine, where it is at hand, are deeds. -/
def AccessDeeds : EngineAccess → Prop :=
  EngineAccess.All fun engine => ∀ thread call s, Deeds thread s (engine thread call s).2

theorem callEngine_deeds {access : EngineAccess} (h : AccessDeeds access) (thread : Thread)
    (call : EngineCall) (s : Session) : Deeds thread s (callEngine access thread call s).2 := by
  unfold callEngine
  split
  · exact .none s
  next engine given =>
    have called := h.1 engine given thread call s
    split <;> next heq => rw [heq] at called; exact called

mutual

theorem perform_deeds {access : EngineAccess} (h : AccessDeeds access) (thread : Thread) :
    (a : Action) → (s : Session) → Deeds thread s (perform access thread a s).2
  | .schedule door pair delay recurring, s => .schedule s door pair delay recurring
  | .cancel door timer, s => .cancel s door timer
  | .tick door noThreads tag actions, s => .enqueue s door noThreads ⟨tag, actions⟩
  | .request door noThreads order, s => .issue s door noThreads order
  | .on door event pair, s => .listen s door event pair
  | .off door event, s => .unlisten s door event
  | .phase _, s => .none s
  | .locale _, s => .none s
  | .isTimerLive _, s => .none s
  | .emit event value, s => emit_deeds thread s event value
  | .emitFlag event value, s => emit_deeds thread s event (.bool value)
  | .register name, s => registerModule_deeds thread s name
  | .post tag delay actions, s => postWork_deeds thread s delay ⟨tag, actions⟩
  | .pause, s => .pause s
  | .unpause, s => .unpause s
  | .sweep, s => sweepNow_deeds thread s
  | .readiness, s => .none s
  | .awaitReady, s => .none s
  | .interval, s => .none s
  | .statistics, s => .none s
  | .observe tag actions, s => by
    have noted : Deeds thread s (s.note (.observer tag thread)) := .aside (aside_note s rfl)
    have told := noted.trans (play_deeds h.outside thread actions _)
    unfold perform
    cases s.readiness.ready with
    | false => exact .aside (aside_readiness s rfl)
    | true => exact told.trans (.aside (aside_readiness _ rfl))
  | .unobserve _, s => .aside (aside_readiness s rfl)
  | .release key, s => .release s key
  | .guarded body, s => by
    unfold perform
    split
    · exact .none s
    next u take =>
      have inner := collect_deeds h.inside thread body u
      split <;> next heq => rw [heq] at inner; exact .guarded take inner
  | .leakLock, s => by
    unfold perform
    split
    · exact .none s
    next u take => exact .leak take
  | .script source name, s => askFrom_deeds thread s (askScript_deeds thread s source name)
  | .require path, s => askFrom_deeds thread s (askRequire_deeds thread s path)
  | .shutdown, s => shutdownFrom_deeds thread s
  | .beginScript key source name, s => beginScript_deeds thread s key source name
  | .scriptResult key, s => scriptResult_deeds thread s key
  | .callScript source name, s => callEngine_deeds h thread (.script source name) s
  | .callBack pair arguments, s => callEngine_deeds h thread (.invoke pair arguments) s
  | .fail _, s => .none s
  | .panic, s => .none s

theorem play_deeds {access : EngineAccess} (h : AccessDeeds access) (thread : Thread) :
    (actions : List Action) → (s : Session) → Deeds thread s (play access thread actions s).2
  | [], s => .none s
  | a :: rest, s => by
    have first := perform_deeds h thread a s
    unfold play
    split
    · next reply t heq =>
      rw [heq] at first
      exact (first.trans (.aside (aside_note t rfl))).trans (play_deeds h thread rest _)
    · next heq => rw [heq] at first; exact first
    · next heq => rw [heq] at first; exact first

theorem collect_deeds {access : EngineAccess} (h : AccessDeeds access) (thread : Thread) :
    (actions : List Action) → (s : Session) → Deeds thread s (collect access thread actions s).2
  | [], s => .none s
  | a :: rest, s => by
    have first := perform_deeds h thread a s
    unfold collect
    split
    · next reply t heq =>
      rw [heq] at first
      have others := collect_deeds h thread rest t
      split <;> next heq => rw [heq] at others; exact first.trans others
    · next heq => rw [heq] at first; exact first

end

/-! ## What plays actions -/

theorem playScripted_deeds (thread : Thread) (actions : List Action) (s : Session) :
    Deeds thread s (playScripted thread actions s).2 := by
  have played := play_deeds EngineAccess.all_nowhere thread actions s
  unfold playScripted
  split <;> next heq => rw [heq] at played; exact played

theorem invoke_deeds (thread : Thread) (pair : Pair) (arguments : List Json.Value) (s : Session) :
    Deeds thread s (invoke thread pair arguments s).2 :=
  .trans
    (.aside
      ⟨_, _, _, _, _, _, [.invoke pair arguments thread], by simp [Entry.isAside], rfl, rfl⟩)
    (playScripted_deeds thread _ _)

/-- How a script ends: one whose source begins with `throw ` raises the rest. -/
def scriptValue (source name : String) :
    Outcome EngineFailure Unit → Outcome EngineFailure Json.Value
  | .ok _ =>
    match behind? "throw " source with
    | some reason => .failed (.script reason)
    | none => .ok (.object [("name", .text name), ("length", .ofNat source.utf8ByteSize)])
  | .failed f => .failed f
  | .panicked => .panicked

theorem runScript_eq (thread : Thread) (source name : String) (s : Session) :
    runScript thread source name s = Prod.map (scriptValue source name) id
      (playScripted thread (s.program.scriptActions name) (s.note (.script name source))) := by
  unfold runScript
  dsimp only
  rw [show (s.note (.script name source)).program = s.program from rfl]
  rcases playScripted thread (s.program.scriptActions name) _ with ⟨result, t⟩
  cases result with
  | ok _ =>
    cases thrown : behind? "throw " source with
    | none => simp [scriptValue, thrown]
    | some reason => simp [scriptValue, thrown]
  | failed f => rfl
  | panicked => rfl

theorem runScript_deeds (thread : Thread) (source name : String) (s : Session) :
    Deeds thread s (runScript thread source name s).2 := by
  rw [runScript_eq]
  exact .trans (.aside (aside_note s rfl)) (playScripted_deeds thread _ _)

theorem loadPath_deeds (thread : Thread) (path : String) (s : Session) :
    Deeds thread s (loadPath thread path s).2 :=
  .trans (.aside (aside_note s (e := .require path) rfl)) (playScripted_deeds thread _ _)

theorem loadModule_deeds (thread : Thread) (name : String) (s : Session) :
    Deeds thread s (loadModule name s).2 :=
  .aside (aside_note s rfl)

theorem engineAccess_deeds : AccessDeeds engineAccess := by
  refine EngineAccess.all_engineAccess fun thread call s => ?_
  cases call with
  | script source name => exact runScript_deeds thread source name s
  | invoke pair arguments => exact .trans (.called s _ _) (invoke_deeds thread pair arguments _)

/-- A pair in custody is invoked without a refusal. -/
theorem invokeLive_deeds {s : Session} {pair : Pair} (live : s.custody.isLive pair = true)
    (thread : Thread) (arguments : List Json.Value) :
    Deeds thread s (s.invokeLive thread pair arguments).2 := by
  simp only [invokeLive, live, if_true]
  exact invoke_deeds thread pair arguments s

theorem runWork_deeds {access : EngineAccess} (h : AccessDeeds access) (thread : Thread)
    (entry : Entry) (work : Work) (s : Session) :
    Deeds thread (s.note entry) (s.runWork access thread entry work) :=
  play_deeds h thread work.actions (s.note entry)

theorem runJob_deeds (thread : Thread) (job : Work) (s : Session) :
    Deeds thread ((s.record (.executed job)).note (.job job.tag thread)) (s.runJob thread job) :=
  runWork_deeds engineAccess_deeds thread _ job _

theorem tell_deeds (observer : Work) (s : Session) : Deeds .loop s (s.tell observer) :=
  .trans (.aside (aside_note s (e := .observer observer.tag .loop) rfl))
    (runWork_deeds engineAccess_deeds.outside .loop _ observer s)

theorem act_deeds (a : Action) (s : Session) : Deeds .host s (s.act a).2 := by
  have done := perform_deeds engineAccess_deeds.outside .host a s
  unfold act
  split <;> next heq => rw [heq] at done; exact done

theorem blockingAsk_deeds {a : Action} {ask : Session → Except Failure Nat × Session}
    (h : blockingAsk a = some ask) (s : Session) : Deeds .host s (ask s).2 := by
  unfold blockingAsk at h
  split at h
  · cases h; exact askScript_deeds .host s _ _
  · cases h; exact askRequire_deeds .host s _
  · cases h; exact askShutdown_deeds .host s
  · cases h

theorem loadModules_deeds (names : List String) (s : Session) :
    Deeds .loop s (loadModules names s).2 := by
  induction names generalizing s with
  | nil => exact .none s
  | cons name rest ih =>
    have loaded := loadModule_deeds .loop name s
    unfold loadModules
    split
    · next heq => rw [heq] at loaded; exact loaded
    · next heq => rw [heq] at loaded; exact loaded.trans (ih _)

theorem loadAll_deeds (s : Session) : Deeds .loop s s.loadAll.2 := by
  have opened : Deeds .loop s { s with backlog := ⟨true, []⟩ } := .aside (aside_backlog s _)
  have modules := opened.trans (loadModules_deeds s.backlog.names _)
  unfold loadAll
  split
  · next heq => rw [heq] at modules; exact modules
  next t heq =>
    rw [heq] at modules
    split
    · exact modules
    next path _ =>
      have loaded := modules.trans (loadPath_deeds .loop path t)
      split <;> next heq => rw [heq] at loaded; exact loaded

end Session
end ScriptHost
