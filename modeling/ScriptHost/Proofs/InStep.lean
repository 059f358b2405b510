import ScriptHost.Proofs.Discreet
import ScriptHost.Proofs.Seen
import ScriptHost.Proofs.Undisturbed

/-!
# Code on two sessions in step

Discreet code does the same to two sessions that are the same without their sweeps: it gets the same
answers, ends in the same way, and leaves sessions that are the same without their sweeps.

## Main definitions

* `Session.InStep` — two sessions of which the same is seen, with nothing but discreet code in
  store.
* `Session.Agree` — two results that are the same, in sessions that are in step.

## Main statements

* `Session.perform_agree`, `Session.play_agree`, `Session.collect_agree` — actions agree.
* `Session.invoke_agree`, `Session.runScript_agree`, … — so does what plays them.
-/

namespace ScriptHost
namespace Session

variable {thread : Thread} {s t u v : Session} {α β : Type} {x y : α × Session}

/-! ## Sessions that are fit -/

/-- A session that accepts work has accepted work before. -/
theorem Deeds.live (d : Deeds thread s t) (live : t.isLive = true) : s.isLive = true := by
  have stirred : ∀ {g g' : Stage}, Stage.Stirred g g' → g'.isLive = true → g.isLive = true := by
    intro g g' d
    induction d with
    | trans _ _ ih ih' => exact ih ∘ ih'
    | paused ready => simp [Stage.isLive, ready, Phase.isLive]
    | unpaused paused => simp [Stage.isLive, paused, Phase.isLive]
    | shut => simp [Stage.isLive]
    | guarded _ _ _ ih => exact ih
    | _ => exact id
  exact stirred d.stirred live

theorem Deeds.fit (d : Deeds thread s t) (fit : s.Fit) : t.Fit where
  tidy := d.marked.elim fun _ marked => (marked.upheld fit.tidy).1
  timed := fit.timed.imp fun _ => d.timed
  owned := by
    obtain ⟨fired, hand, owned⟩ := fit.owned
    exact ⟨fired, hand, d.owned owned⟩

/-- Whatever runs code keeps a session fit as long as it is live. -/
theorem fit_kept : KeptByDrains fun s => s.isLive = true → s.Fit where
  deeds d h live := d.fit (h (d.live live))
  lock lock h live :=
    have fit := h live
    ⟨fit.tidy, fit.timed, fit.owned.imp fun _ => Exists.imp fun _ => owned_kept.lock lock⟩
  ready readiness initializing h live := by
    have fit := h (by simpa [isLive, initializing, Phase.isLive] using live)
    exact ⟨fit.tidy, fit.timed,
      fit.owned.imp fun _ => Exists.imp fun _ => owned_kept.ready readiness initializing⟩
  ticks ticks h live :=
    have fit := h live
    ⟨fit.tidy, fit.timed, fit.owned.imp fun _ => Exists.imp fun _ => owned_kept.ticks ticks⟩
  helpers helpers h live :=
    have fit := h live
    ⟨fit.tidy, fit.timed, fit.owned.imp fun _ => Exists.imp fun _ => owned_kept.helpers helpers⟩
  begun job thread h live :=
    have fit := h live
    ⟨fit.tidy, fit.timed, fit.owned.imp fun _ => Exists.imp fun _ => owned_kept.begun job thread⟩

/-! ## Sessions in step -/

/-- Two sessions in step: the same is seen of them, and nothing waits to be run that could tell. -/
structure InStep (s t : Session) : Prop where
  same : s.bare = t.bare
  discreet : s.Discreet
  fit : s.isLive = true → s.Fit
  fit' : t.isLive = true → t.Fit

namespace InStep

theorem isLive (h : InStep s t) : s.isLive = t.isLive := by
  rw [← isLive_bare, h.same, isLive_bare]

theorem lock_eq (h : InStep s t) : s.lock = t.lock := congrArg (·.lock) h.same

theorem program_eq (h : InStep s t) : s.program = t.program := congrArg (·.program) h.same

theorem ticks_eq (h : InStep s t) : s.ticks = t.ticks := congrArg (·.ticks) h.same

theorem readiness_eq (h : InStep s t) : s.readiness = t.readiness := congrArg (·.readiness) h.same

theorem invoked_eq (h : InStep s t) (callback : UInt64) : s.invoked callback = t.invoked callback :=
  congrArg (·.invoked callback) h.same

/-- Code has led both sessions on. -/
theorem deeds (h : InStep s t) (d : Deeds thread s u) (d' : Deeds thread t v)
    (same : u.bare = v.bare) (discreet : u.Discreet) : InStep u v where
  same := same
  discreet := discreet
  fit := fit_kept.deeds d h.fit
  fit' := fit_kept.deeds d' h.fit'

theorem note (h : InStep s t) {e : Entry} (aside : e.isAside = true) (other : e.isDispose = false) :
    InStep (s.note e) (t.note e) :=
  h.deeds (.aside (aside_note s aside) : Deeds .loop _ _) (.aside (aside_note t aside))
    (by rw [note_bare s other, note_bare t other, h.same]) { h.discreet with }

theorem locked (h : InStep s t) (lock : Lock Thread) :
    InStep { s with lock := lock } { t with lock := lock } where
  same := congrArg (fun u : Session => { u with lock := lock }) h.same
  discreet := { h.discreet with }
  fit := fit_kept.lock lock h.fit
  fit' := fit_kept.lock lock h.fit'

end InStep

/-! ## Results that agree -/

/-- Two results agree: unless a pair has been registered twice they are the same, and the sessions
are in step. -/
def Agree (x y : α × Session) : Prop := x.2.Once → y.2.Once → x.1 = y.1 ∧ InStep x.2 y.2

/-- An operation of which the same is seen agrees. -/
theorem InStep.agree (h : InStep s t) (d : Deeds thread s x.2) (d' : Deeds thread t y.2)
    (discreet : x.2.Discreet) (same : x.2.Once → y.2.Once → seen x = seen y) : Agree x y :=
  fun once once' =>
    have same := Prod.mk.inj (same once once')
    ⟨same.1, h.deeds d d' same.2 discreet⟩

namespace Agree

theorem of_inStep (h : InStep s t) (a : α) : Agree (a, s) (a, t) := fun _ _ => ⟨rfl, h⟩

theorem map (h : Agree x y) (f : α → β) : Agree (Prod.map f id x) (Prod.map f id y) :=
  fun once once' =>
    have ⟨same, inStep⟩ := h once once'
    ⟨congrArg f same, inStep⟩

theorem flagged {x y : Bool × Session} (h : Agree x y) : Agree (flagged x) (flagged y) :=
  h.map (β := Outcome String Reply) fun b => .ok (.flag b)

/-- What is done behind results that agree. -/
theorem bind (h : Agree x y) {k : α → Session → β × Session}
    (records : ∀ a s, Recorded s (k a s).2)
    (agree : ∀ a {s t}, InStep s t → Agree (k a s) (k a t)) :
    Agree (k x.1 x.2) (k y.1 y.2) := fun once once' => by
  obtain ⟨same, inStep⟩ := h ((records _ _).once once) ((records _ _).once once')
  rw [← same] at once' ⊢
  exact agree _ inStep once once'

end Agree

/-! ## Operations -/

theorem ask_agree (h : InStep s t) {message : Nat → Message}
    (plain : ∀ query, (message query).isPlain = true)
    (other : ∀ query, (message query).isSweep = false)
    (idle : ∀ query, (message query).isIdle = true) : Agree (s.ask message) (t.ask message) := by
  have quiet : Quiet s (s.ask message).2 := by
    have posted := quiet_post s (idle s.nextQuery)
    unfold ask
    dsimp only
    split
    · exact .refl s
    · split <;> next heq => rw [heq] at posted; exact posted.trans (.same rfl rfl rfl rfl)
  have blind : Blind (·.ask message) := .of_eq fun s => s.ask_bare other
  exact h.agree (ask_deeds .loop s plain) (ask_deeds .loop t plain) (quiet.discreet h.discreet)
    fun _ _ => blind.seen_eq h.same

theorem emit_agree (h : InStep s t) (event : String) (value : Json.Value) :
    Agree (s.emit event value) (t.emit event value) := by
  have quiet : Quiet s (s.emit event value).2 := by
    unfold emit
    split
    · exact quiet_post s rfl
    · exact .refl s
  have blind : Blind (·.emit event value) := .of_eq fun s => s.emit_bare event value
  exact h.agree (emit_deeds .loop s event value) (emit_deeds .loop t event value)
    (quiet.discreet h.discreet) fun _ _ => blind.seen_eq h.same

theorem registerModule_agree (h : InStep s t) (name : String) :
    Agree (s.registerModule name) (t.registerModule name) := by
  have quiet : Quiet s (s.registerModule name).2 := by
    unfold registerModule
    split
    · exact .refl s
    split
    · exact quiet_post s rfl
    · exact .same rfl rfl rfl rfl
  have blind : Blind (·.registerModule name) := .of_eq fun s => s.registerModule_bare name
  exact h.agree (registerModule_deeds .loop s name) (registerModule_deeds .loop t name)
    (quiet.discreet h.discreet) fun _ _ => blind.seen_eq h.same

theorem sweepNow_agree (h : InStep s t) : Agree s.sweepNow t.sweepNow := by
  have quiet : Quiet s s.sweepNow.2 := by
    unfold sweepNow
    split
    · exact quiet_post s rfl
    · exact .refl s
  exact h.agree (sweepNow_deeds .loop s) (sweepNow_deeds .loop t) (quiet.discreet h.discreet)
    fun _ _ => sweepNow_blind.seen_eq h.same

theorem keyed (h : InStep s t) (keys : List (String × Nat)) :
    InStep { s with keys := keys } { t with keys := keys } :=
  h.deeds (.aside (aside_keys s keys) : Deeds .loop _ _) (.aside (aside_keys t keys))
    (congrArg (fun u : Session => { u with keys := keys }) h.same) { h.discreet with }

/-- The result of a script that has been asked for is waited for under a key. -/
def awaitUnder (key : String) : Except Failure Nat → Session → Reply × Session
  | .ok query, s => (.pending, { s with keys := (key, query) :: s.keys.filter (·.1 != key) })
  | .error f, s => (.failed f, s)

theorem beginScript_agree (h : InStep s t) (key source name : String) :
    Agree (s.beginScript key source name) (t.beginScript key source name) := by
  have eq (u : Session) : u.beginScript key source name =
      awaitUnder key (u.askScript source name).1 (u.askScript source name).2 := by
    unfold beginScript
    rcases u.askScript source name with ⟨asked, v⟩
    cases asked <;> rfl
  rw [eq, eq]
  refine (ask_agree h (fun _ => rfl) (fun _ => rfl) fun _ => rfl).bind (fun asked s => ?_)
    fun asked u v h => ?_
  · cases asked <;> exact .same rfl
  · cases asked with
    | ok query =>
      have keys : u.keys = v.keys := congrArg (·.keys) h.same
      simp only [awaitUnder, keys]
      exact .of_inStep (keyed h _) _
    | error f => exact .of_inStep h _

theorem scriptResult_agree (h : InStep s t) (key : String) :
    Agree (s.scriptResult key) (t.scriptResult key) := by
  have keys : s.keys = t.keys := congrArg (·.keys) h.same
  have answers (query : Nat) : s.answerOf query = t.answerOf query :=
    congrArg (·.answerOf query) h.same
  unfold scriptResult
  rw [keys]
  split
  · exact .of_inStep h _
  · rw [answers]
    split
    · exact .of_inStep h _
    · exact .of_inStep (keyed h _) _

/-- What is replied to a thread that asks the loop and waits. -/
def askReply : Except Failure Nat → Outcome String Reply
  | .ok _ => .ok .stuck
  | .error f => .ok (.failed f)

theorem askFrom_agree (h : InStep s t) {ask : Session → Except Failure Nat × Session}
    (agree : Agree (ask s) (ask t)) : Agree (askFrom thread ask s) (askFrom thread ask t) := by
  by_cases loop : thread = .loop
  · simp only [askFrom, loop, if_true]
    exact .of_inStep h _
  · have asked (u : Session) : askFrom thread ask u = Prod.map askReply id (ask u) := by
      simp only [askFrom, loop, if_false]
      rcases ask u with ⟨result, v⟩
      cases result <;> rfl
    rw [asked, asked]
    exact agree.map askReply

theorem beginShutdown_agree (h : InStep s t) (query : Option Nat) :
    Agree (s.beginShutdown query) (t.beginShutdown query) :=
  h.agree (.shutdown s query : Deeds .loop _ _) (.shutdown t query)
    ((quiet_beginShutdown s query).discreet h.discreet)
    fun _ _ => beginShutdown_seen h.same h.fit h.fit' query

theorem nextQuery_eq (h : InStep s t) : s.nextQuery = t.nextQuery := congrArg (·.nextQuery) h.same

theorem asked (h : InStep s t) (query : Nat) :
    InStep { s with nextQuery := query } { t with nextQuery := query } :=
  h.deeds (.aside (aside_nextQuery s query) : Deeds .loop _ _)
    (.aside (aside_nextQuery t query))
    (congrArg (fun u : Session => { u with nextQuery := query }) h.same) { h.discreet with }

/-- What shutting down leads to, once it has begun. -/
def shutdownAsked (query : Nat) : Bool → Session → Except Failure Nat × Session
  | true, s => (.ok query, { s with nextQuery := query + 1 })
  | false, s => (.error .closed, s)

theorem askShutdown_agree (h : InStep s t) : Agree s.askShutdown t.askShutdown := by
  have eq (u : Session) : u.askShutdown = shutdownAsked u.nextQuery
      (u.beginShutdown (some u.nextQuery)).1 (u.beginShutdown (some u.nextQuery)).2 := by
    unfold askShutdown
    dsimp only
    rcases u.beginShutdown (some u.nextQuery) with ⟨begun, v⟩
    cases begun <;> rfl
  rw [eq, eq, nextQuery_eq h]
  refine (beginShutdown_agree h (some t.nextQuery)).bind (fun begun s => ?_) fun begun _ _ h => ?_
  · cases begun <;> exact .same rfl
  · cases begun
    · exact .of_inStep h _
    · exact .of_inStep (asked h _) _

/-- What is replied to the owning thread that shuts down. -/
def shutdownReply : Bool → Outcome String Reply
  | true => .ok (.value .null)
  | false => .ok (.failed .closed)

theorem shutdownFrom_agree (h : InStep s t) :
    Agree (shutdownFrom thread s) (shutdownFrom thread t) := by
  by_cases loop : thread = .loop
  · have eq (u : Session) :
        shutdownFrom thread u = Prod.map shutdownReply id (u.beginShutdown none) := by
      simp only [shutdownFrom, loop, if_true]
      rcases u.beginShutdown none with ⟨begun, v⟩
      cases begun <;> rfl
    rw [eq, eq]
    exact (beginShutdown_agree h none).map shutdownReply
  · have eq (u : Session) : shutdownFrom thread u = Prod.map askReply id u.askShutdown := by
      simp only [shutdownFrom, loop, if_false]
      rcases u.askShutdown with ⟨result, v⟩
      cases result <;> rfl
    rw [eq, eq]
    exact (askShutdown_agree h).map askReply

/-- The execution lock is taken in both sessions, or in none. -/
theorem takeLock_inStep (h : InStep s t) :
    (∃ reply, takeLock thread s = .error reply ∧ takeLock thread t = .error reply) ∨
      ∃ u v, takeLock thread s = .ok u ∧ takeLock thread t = .ok v ∧ InStep u v := by
  have taken := takeLock_seen h.same thread
  cases hs : takeLock thread s with
  | error reply =>
    cases ht : takeLock thread t with
    | error other =>
      rw [hs, ht] at taken
      cases taken
      exact .inl ⟨reply, rfl, rfl⟩
    | ok v => rw [hs, ht] at taken; cases taken
  | ok u =>
    cases ht : takeLock thread t with
    | error other => rw [hs, ht] at taken; cases taken
    | ok v =>
      obtain ⟨-, -, rfl⟩ := takeLock_eq_ok.1 hs
      obtain ⟨-, -, rfl⟩ := takeLock_eq_ok.1 ht
      exact .inr ⟨_, _, rfl, rfl, h.locked _⟩

/-! ## Actions -/

/-- Calls to the engine agree, where it is at hand. -/
def AccessAgrees : EngineAccess → Prop :=
  EngineAccess.All fun engine => ∀ thread call {s t}, InStep s t →
    Agree (engine thread call s) (engine thread call t)

theorem callEngine_agree {access : EngineAccess} (agrees : AccessAgrees access) (thread : Thread)
    (call : EngineCall) (h : InStep s t) :
    Agree (callEngine access thread call s) (callEngine access thread call t) := by
  cases given : access.given with
  | none =>
    simp only [callEngine, given]
    exact .of_inStep h _
  | some engine =>
    rw [callEngine_given given, callEngine_given given]
    exact (agrees.1 engine given thread call h).map engineReply

theorem enter_agree (h : InStep s t) {observer : Work} (discreet : observer.isDiscreet = true) :
    Agree (enter observer s) (enter observer t) := by
  have entered (u : Session) : Deeds .loop u (enter observer u).2 :=
    .aside (aside_readiness u rfl)
  refine h.agree (entered s) (entered t) (h.discreet.observer discreet) fun _ _ => ?_
  unfold enter
  rw [h.readiness_eq]
  exact congrArg (fun u : Session =>
    (Outcome.ok (ε := String) (Reply.count (t.readiness.add observer).1),
      { u with readiness := (t.readiness.add observer).2 })) h.same

theorem leave_agree {access : EngineAccess} (h : InStep s t) (index : Nat) :
    Agree (perform access thread (.unobserve index) s)
      (perform access thread (.unobserve index) t) := by
  have left (u : Session) :
      Deeds .loop u { u with readiness := u.readiness.remove index } :=
    .aside (aside_readiness u rfl)
  have discreet : Discreet { s with readiness := s.readiness.remove index } :=
    { h.discreet with
      observers := fun observer mem => h.discreet.observers observer (List.mem_of_mem_filter mem) }
  have same : ({ s with readiness := t.readiness.remove index } : Session).bare =
      ({ t with readiness := t.readiness.remove index } : Session).bare :=
    congrArg (fun u : Session => { u with readiness := t.readiness.remove index }) h.same
  unfold perform
  rw [h.readiness_eq] at discreet ⊢
  exact .of_inStep (h.deeds (h.readiness_eq ▸ left s) (left t) same discreet) _

theorem Agree.closed {x y : Option (List Reply) × Session} (h : Agree x y) :
    Agree (close x) (close y) := by
  rcases x with ⟨replies, u⟩
  rcases y with ⟨replies', v⟩
  intro once once'
  have before : u.Once := by cases replies <;> exact once
  have before' : v.Once := by cases replies' <;> exact once'
  obtain ⟨rfl, inStep⟩ := h before before'
  cases replies <;> exact ⟨rfl, inStep.locked _⟩

theorem Agree.gathered {x y : Option (List Reply) × Session} (h : Agree x y) (reply : Reply) :
    Agree (gather reply x) (gather reply y) := by
  rcases x with ⟨replies, u⟩
  rcases y with ⟨replies', v⟩
  intro once once'
  have before : u.Once := by cases replies <;> exact once
  have before' : v.Once := by cases replies' <;> exact once'
  obtain ⟨rfl, inStep⟩ := h before before'
  cases replies <;> exact ⟨rfl, inStep⟩

mutual

theorem perform_agree {access : EngineAccess} (deeds : AccessDeeds access)
    (agrees : AccessAgrees access) (thread : Thread) : (a : Action) → a.isDiscreet = true →
      {s t : Session} → InStep s t →
        Agree (perform access thread a s) (perform access thread a t)
  | .schedule door pair delay recurring, _, s, t, h => by
    have agree : Agree (s.schedule door pair delay recurring)
        (t.schedule door pair delay recurring) :=
      h.agree (.schedule .. : Deeds .loop _ _) (.schedule ..)
        (((quiet_tables s).schedule door pair delay recurring (.refl s)).discreet h.discreet)
        fun once once' => schedule_seen h.same h.fit h.fit' door pair delay recurring once once'
    exact agree.map fun id => Outcome.ok (replyId id)
  | .cancel door timer, _, s, t, h => by
    have agree : Agree (s.cancel door timer) (t.cancel door timer) :=
      h.agree (.cancel .. : Deeds .loop _ _) (.cancel ..)
        (((quiet_tables s).cancel door timer (.refl s)).discreet h.discreet)
        fun _ _ => cancel_seen h.same h.fit h.fit' door timer
    exact agree.flagged
  | .tick door noThreads tag actions, discreet, s, t, h => by
    have agree : Agree (s.enqueue door thread noThreads ⟨tag, actions⟩)
        (t.enqueue door thread noThreads ⟨tag, actions⟩) :=
      h.agree (.enqueue ..) (.enqueue ..) (h.discreet.enqueue door thread noThreads discreet)
        fun _ _ => enqueue_seen h.same door thread noThreads _
    exact agree.flagged
  | .request door noThreads order, _, s, t, h => by
    have agree : Agree (s.issue door noThreads order) (t.issue door noThreads order) :=
      h.agree (.issue .. : Deeds .loop _ _) (.issue ..)
        (((quiet_requests s).issue door noThreads order (.refl s)).discreet h.discreet)
        fun once once' => issue_seen h.same h.fit h.fit' door noThreads order once once'
    exact agree.map fun id => Outcome.ok (replyId id)
  | .on door event pair, _, s, t, h => by
    have agree : Agree (s.listen door event pair) (t.listen door event pair) :=
      h.agree (.listen .. : Deeds .loop _ _) (.listen ..)
        (((quiet_tables s).listen door event pair (.refl s)).discreet h.discreet)
        fun once once' => listen_seen h.same h.fit h.fit' door event pair once once'
    exact agree.flagged
  | .off door event, _, s, t, h => by
    have agree : Agree (s.unlisten door event) (t.unlisten door event) :=
      h.agree (.unlisten .. : Deeds .loop _ _) (.unlisten ..)
        (((quiet_tables s).unlisten door event (.refl s)).discreet h.discreet)
        fun _ _ => unlisten_seen h.same door event
    exact agree.map fun count => Outcome.ok (Reply.count count)
  | .locale door, _, s, t, h => by
    have locale : s.locale = t.locale := congrArg (·.locale) h.same
    have dropped : s.dropped = t.dropped := congrArg (·.dropped) h.same
    unfold perform
    rw [locale, dropped]
    exact .of_inStep h _
  | .isTimerLive timer, _, s, t, h => by
    have timers : s.timers.bare = t.timers.bare := congrArg (·.timers) h.same
    have live : s.timers.isLive timer = t.timers.isLive timer := by
      rw [← Timers.isLive_bare, timers, Timers.isLive_bare]
    unfold perform
    rw [live]
    exact .of_inStep h _
  | .emit event value, _, s, t, h => (emit_agree h event value).flagged
  | .emitFlag event value, _, s, t, h => (emit_agree h event (.bool value)).flagged
  | .register name, _, s, t, h => (registerModule_agree h name).flagged
  | .post tag delay actions, discreet, s, t, h => by
    have agree : Agree (s.postWork delay ⟨tag, actions⟩) (t.postWork delay ⟨tag, actions⟩) :=
      h.agree (postWork_deeds .loop s ..) (postWork_deeds .loop t ..)
        (h.discreet.postWork delay discreet) fun _ _ => postWork_seen h.same h.fit h.fit' delay _
    exact agree.flagged
  | .sweep, _, s, t, h => (sweepNow_agree h).flagged
  | .readiness, _, s, t, h => by
    unfold perform
    rw [h.readiness_eq, h.isLive]
    exact .of_inStep h _
  | .awaitReady, _, s, t, h => by
    unfold perform
    rw [h.readiness_eq]
    exact .of_inStep h _
  | .interval, _, s, t, h => by
    have settings : s.settings = t.settings := congrArg (·.settings) h.same
    unfold perform
    rw [settings]
    exact .of_inStep h _
  | .observe tag actions, discreet, s, t, h => by
    have entered : Work.isDiscreet ⟨tag, actions⟩ = true := discreet
    unfold perform
    rw [h.readiness_eq]
    cases t.readiness.ready with
    | false => exact enter_agree h entered
    | true =>
      -- An observer that comes late is told first.
      have told := play_agree deeds.outside agrees.outside thread actions discreet
        (h.note (e := .observer tag thread) rfl rfl)
      exact told.bind (fun _ _ => .same rfl) fun _ _ _ h => enter_agree h entered
  | .unobserve index, _, s, t, h => (leave_agree h index)
  | .release key, _, s, t, h => by
    have agree : Agree (s.release key) (t.release key) :=
      h.agree (.release .. : Deeds .loop _ _) (.release ..)
        (((quiet_requests s).release key (.refl s)).discreet h.discreet)
        fun _ _ => (release_blind key).seen_eq h.same
    exact agree.flagged
  | .guarded body, discreet, s, t, h => by
    unfold perform
    rcases @takeLock_inStep thread _ _ h with
      ⟨reply, refused, refused'⟩ | ⟨u, v, taken, taken', inStep⟩
    · rw [refused, refused']
      exact .of_inStep h _
    · rw [taken, taken']
      exact (collect_agree deeds.inside agrees.inside thread body discreet inStep).closed
  | .leakLock, _, s, t, h => by
    unfold perform
    rcases @takeLock_inStep thread _ _ h with
      ⟨reply, refused, refused'⟩ | ⟨u, v, taken, taken', inStep⟩
    · rw [refused, refused']
      exact .of_inStep h _
    · rw [taken, taken']
      exact .of_inStep inStep _
  | .script source name, _, s, t, h =>
    askFrom_agree h (ask_agree h (fun _ => rfl) (fun _ => rfl) fun _ => rfl)
  | .require path, _, s, t, h =>
    askFrom_agree h (ask_agree h (fun _ => rfl) (fun _ => rfl) fun _ => rfl)
  | .shutdown, _, s, t, h => shutdownFrom_agree h
  | .beginScript key source name, _, s, t, h =>
    (beginScript_agree h key source name).map Outcome.ok
  | .scriptResult key, _, s, t, h => (scriptResult_agree h key).map Outcome.ok
  | .callScript source name, _, s, t, h => callEngine_agree agrees thread (.script source name) h
  | .callBack pair arguments, _, s, t, h =>
    callEngine_agree agrees thread (.invoke pair arguments) h
  | .fail _, _, s, t, h => .of_inStep h _
  | .panic, _, s, t, h => .of_inStep h _

theorem play_agree {access : EngineAccess} (deeds : AccessDeeds access)
    (agrees : AccessAgrees access) (thread : Thread) : (actions : List Action) →
      Action.areDiscreet actions = true → {s t : Session} → InStep s t →
        Agree (play access thread actions s) (play access thread actions t)
  | [], _, s, t, h => .of_inStep h _
  | a :: rest, discreet, s, t, h => by
    simp only [Action.areDiscreet, Bool.and_eq_true] at discreet
    intro once once'
    obtain ⟨same, inStep⟩ := perform_agree deeds agrees thread a discreet.1 h
      ((play_cons_recorded deeds thread a rest s).once once)
      ((play_cons_recorded deeds thread a rest t).once once')
    unfold play at once once' ⊢
    revert same inStep once once'
    rcases perform access thread a s with ⟨result, u⟩
    rcases perform access thread a t with ⟨result', v⟩
    intro same inStep once once'
    obtain rfl : result = result' := same
    cases result with
    | ok reply =>
      exact play_agree deeds agrees thread rest discreet.2
        (inStep.note (e := .did a.name reply) rfl rfl) once once'
    | failed message => exact ⟨rfl, inStep⟩
    | panicked => exact ⟨rfl, inStep⟩

theorem collect_agree {access : EngineAccess} (deeds : AccessDeeds access)
    (agrees : AccessAgrees access) (thread : Thread) : (actions : List Action) →
      Action.areDiscreet actions = true → {s t : Session} → InStep s t →
        Agree (collect access thread actions s) (collect access thread actions t)
  | [], _, s, t, h => .of_inStep h _
  | a :: rest, discreet, s, t, h => by
    simp only [Action.areDiscreet, Bool.and_eq_true] at discreet
    intro once once'
    obtain ⟨same, inStep⟩ := perform_agree deeds agrees thread a discreet.1 h
      ((collect_cons_recorded deeds thread a rest s).once once)
      ((collect_cons_recorded deeds thread a rest t).once once')
    unfold collect at once once' ⊢
    revert same inStep once once'
    rcases perform access thread a s with ⟨result, u⟩
    rcases perform access thread a t with ⟨result', v⟩
    intro same inStep once once'
    obtain rfl : result = result' := same
    cases result with
    | ok reply =>
      exact (collect_agree deeds agrees thread rest discreet.2 inStep).gathered reply once once'
    | failed message => exact ⟨rfl, inStep⟩
    | panicked => exact ⟨rfl, inStep⟩

end

/-! ## The engine -/

theorem playScripted_agree (h : InStep s t) (thread : Thread) {actions : List Action}
    (discreet : Action.areDiscreet actions = true) :
    Agree (playScripted thread actions s) (playScripted thread actions t) := by
  rw [playScripted_eq, playScripted_eq]
  have played : Agree (play .nowhere thread actions s) (play .nowhere thread actions t) :=
    play_agree EngineAccess.all_nowhere EngineAccess.all_nowhere thread actions discreet h
  exact played.map scriptEnd

theorem counted_deeds (thread other : Thread) (pair : Pair) (arguments : List Json.Value)
    (s : Session) : Deeds other s (s.counted thread pair arguments) :=
  .aside ⟨_, _, _, _, _, _, [.invoke pair arguments thread], by simp [Entry.isAside], rfl, rfl⟩

theorem InStep.counted (h : InStep s t) (thread : Thread) (pair : Pair)
    (arguments : List Json.Value) :
    InStep (s.counted thread pair arguments) (t.counted thread pair arguments) := by
  have noted := h.note (e := .invoke pair arguments thread) rfl rfl
  refine h.deeds (counted_deeds thread thread pair arguments s)
    (counted_deeds thread thread pair arguments t) ?_ { h.discreet with }
  exact congrArg (fun u : Session => { u with
    invocations := (pair.callback, u.invoked pair.callback + 1) ::
      u.invocations.filter (·.1 != pair.callback) }) noted.same

theorem invoke_agree (h : InStep s t) (thread : Thread) (pair : Pair)
    (arguments : List Json.Value) :
    Agree (s.invoke thread pair arguments) (t.invoke thread pair arguments) := by
  have eq (u : Session) : u.invoke thread pair arguments = playScripted thread
      (u.program.callbackActions pair.callback (u.invoked pair.callback))
      (u.counted thread pair arguments) := rfl
  rw [eq, eq, h.program_eq, h.invoked_eq]
  refine playScripted_agree (h.counted thread pair arguments) thread ?_
  exact h.program_eq ▸ Program.callbackActions_discreet h.discreet.program _ _

theorem runScript_agree (h : InStep s t) (thread : Thread) (source name : String) :
    Agree (s.runScript thread source name) (t.runScript thread source name) := by
  rw [runScript_eq, runScript_eq, ← h.program_eq]
  exact (playScripted_agree (h.note (e := .script name source) rfl rfl) thread
    (Program.scriptActions_discreet h.discreet.program name)).map (scriptValue source name)

theorem loadPath_agree (h : InStep s t) (thread : Thread) (path : String) :
    Agree (s.loadPath thread path) (t.loadPath thread path) := by
  have eq (u : Session) : u.loadPath thread path =
      Prod.map (Outcome.map fun _ => Json.Value.text path) id
        (playScripted thread (u.program.scriptActions path) (u.note (.require path))) := rfl
  rw [eq, eq, ← h.program_eq]
  exact (playScripted_agree (h.note (e := .require path) rfl rfl) thread
    (Program.scriptActions_discreet h.discreet.program path)).map _

theorem loadModule_agree (h : InStep s t) (name : String) :
    Agree (s.loadModule name) (t.loadModule name) := by
  unfold loadModule
  rw [h.program_eq]
  exact .of_inStep (h.note (e := .register name) rfl rfl) _

theorem InStep.called (h : InStep s t) (callback : UInt64) (before : Nat) :
    InStep (s.record (.called callback before)) (t.record (.called callback before)) := by
  have unseen (u : Session) : (u.record (.called callback before)).bare = u.bare :=
    u.record_bare nofun
  exact h.deeds (.called s callback before : Deeds .loop _ _) (.called t callback before)
    (by rw [unseen, unseen, h.same]) { h.discreet with }

theorem engineAccess_agrees : AccessAgrees engineAccess := by
  refine EngineAccess.all_engineAccess fun thread call s t h => ?_
  cases call with
  | script source name => exact runScript_agree h thread source name
  | invoke pair arguments =>
    have invoked := invoke_agree (h.called pair.callback (s.invoked pair.callback)) thread pair
      arguments
    have agree := invoked.map (Outcome.map fun _ => Json.Value.null)
    have same : t.invoked pair.callback = s.invoked pair.callback := (h.invoked_eq _).symm
    simp only [callDirectly]
    rw [same]
    exact agree

/-- A pair is invoked that is in custody in both sessions. -/
theorem invokeLive_agree (h : InStep s t) {pair : Pair} (live : pair ∈ s.custody.live)
    (live' : pair ∈ t.custody.live) (thread : Thread) (arguments : List Json.Value) :
    Agree (s.invokeLive thread pair arguments) (t.invokeLive thread pair arguments) := by
  have invoked (u : Session) (live : pair ∈ u.custody.live) :
      u.invokeLive thread pair arguments =
        Prod.map Outcome.ofEngine id (u.invoke thread pair arguments) := by
    have live : u.custody.isLive pair = true := by simpa [Custody.isLive] using live
    simp only [invokeLive, live, if_true]
    rfl
  rw [invoked s live, invoked t live']
  exact (invoke_agree h thread pair arguments).map Outcome.ofEngine

end Session
end ScriptHost
