import ScriptHost.Proofs.Closing
import ScriptHost.Proofs.Discipline
import ScriptHost.Proofs.Hosted
import ScriptHost.Proofs.Modules

/-!
# The registration of modules

Bring-up gives the engine the modules of the backlog behind its own start and ahead of the entry
script. The loop gives it those that come by the lane, each when it takes the message, unless
somebody has taken the execution lock and kept it. No module is in line when the loop ends, since
nothing is accepted behind the last message.

## Main definitions

* `Session.BroughtUp` — how the engine is brought up.

## Main statements

* `Session.handle_leadsTo` — the loop gives the engine each module that it takes.
* `Session.Reached.leadsTo` — so does the course of a session.
* `Session.Reached.modules_in_order` — the order of registrations.
* `Session.module_left_behind` — with a lock that is kept a module is lost.
-/

namespace ScriptHost
namespace Session

variable {o s t u v w : Session} {h : List Enrolment}

theorem LeadsTo.trans (l : LeadsTo s t) (l' : LeadsTo t u) : LeadsTo s u := by
  obtain ⟨_, e⟩ := l
  obtain ⟨_, e'⟩ := l'
  exact ⟨_, e.trans e'⟩

theorem LeadsTo.orderly (l : LeadsTo s t) (o : s.Orderly) : t.Orderly := by
  obtain ⟨_, e⟩ := l
  exact e.orderly o

/-! ## The loop -/

theorem engaged_leadsTo {f : Session → Session} (inner : ∀ s, LeadsTo v s → LeadsTo v (f s))
    (l : LeadsTo v s) : LeadsTo v (s.engaged f) := by
  unfold engaged
  split
  · have ran := inner { s with lock := ⟨some .loop⟩ } (l.same rfl rfl rfl)
    exact ran.same rfl rfl rfl
  · exact l

theorem engagedResult_leadsTo (what : String)
    {f : Session → Outcome EngineFailure Json.Value × Session}
    (inner : ∀ s, LeadsTo v s → LeadsTo v (f s).2) (l : LeadsTo v s) :
    LeadsTo v (s.engagedResult what f).2 := by
  unfold engagedResult
  dsimp only
  split
  · have ran := inner { s with lock := ⟨some .loop⟩ } (l.same rfl rfl rfl)
    exact ran.same rfl rfl rfl
  · exact l

theorem swept_leadsTo (l : LeadsTo v s) :
    LeadsTo v (s.engaged fun s => s.sweepGraveyard.2) :=
  engaged_leadsTo (fun s l => l.apart (apart_sweepGraveyard s)) l

theorem becomeReady_leadsTo (l : LeadsTo v s) : LeadsTo v s.becomeReady := by
  have told : ∀ (observers : List Work) {s : Session}, LeadsTo v s →
      LeadsTo v (observers.foldl tell s) := by
    intro observers
    induction observers with
    | nil => exact id
    | cons observer rest ih =>
      exact fun l => ih (runWork_leadsTo engineAccess_leads.outside .loop rfl observer l)
  unfold becomeReady
  split
  · exact l
  · exact told _ (l.same rfl rfl rfl)

theorem dispatchEvent_leadsTo {event : String} {value : Json.Value} (l : LeadsTo v s)
    (d : s.dispatchEvent event value = some t) : LeadsTo v t := by
  have invoked : ∀ (pairs : List Pair) {s : Session}, LeadsTo v s →
      LeadsTo v (pairs.foldl (fun s pair => (s.invokeLive .loop pair [value]).2) s) := by
    intro pairs
    induction pairs with
    | nil => exact id
    | cons pair rest ih => exact fun l => ih (invokeLive_leadsTo .loop pair [value] l)
  rcases dispatchEvent_cases d with ⟨-, rfl⟩ | ⟨-, rfl⟩
  · exact l
  · exact engaged_leadsTo (fun _ l => invoked _ l) l

theorem fireTimer_leadsTo {id : Nat} (l : LeadsTo v s) (d : s.fireTimer id = some t) :
    LeadsTo v t := by
  rcases fireTimer_cases d with ⟨-, rfl⟩ | ⟨timer, -, -, cases⟩
  · exact l
  have called : LeadsTo v (s.called timer) :=
    engaged_leadsTo (fun _ l => invokeLive_leadsTo .loop _ _ l) (l.same rfl rfl rfl)
  rcases cases with ⟨-, -, -, eq⟩ | eq <;> rw [eq]
  · exact called.apart ((apart_arm _ timer.delay rfl).after rfl rfl rfl)
  · exact called.same rfl rfl rfl

theorem deliver_leadsTo {call : Call} {completion : Completion} (l : LeadsTo v s)
    (d : s.deliver call completion = some t) : LeadsTo v t := by
  have arrived : LeadsTo v (s.arrived call) := l.same rfl rfl rfl
  have invoked := engaged_leadsTo
    (fun _ l => invokeLive_leadsTo .loop (call.delivery (some completion)).1
      (call.delivery (some completion)).2 l) arrived
  rw [eq_deliver d]
  exact invoked.same rfl rfl rfl

/-! ## The last message -/

/-- The queue is closed, and no module is in line. -/
structure Exhausted (s : Session) : Prop where
  closed : s.lanes.closed = true
  none : modulesIn s.lanes.ordinary = []

theorem Enrols.exhausted (e : Enrols s h t) (x : s.Exhausted) : t.Exhausted := by
  induction e with
  | none => exact x
  | besides _ b ih =>
    refine ⟨b.closed ih.closed, ?_⟩
    rw [b.ordinary, modulesIn_append, ih.none, modulesIn_eq_nil.2 b.others]
    rfl
  | accepted _ a ih =>
    obtain ⟨isOpen, -⟩ := registerModule_cases a
    cases isOpen.symm.trans ih.closed
  | took _ _ next turn other ih =>
    obtain ⟨rest, first, rfl⟩ := first_of_turn next turn
    have none := modulesIn_eq_nil.1 (first ▸ ih.none)
    exact ⟨ih.closed, modulesIn_eq_nil.2 fun m mem => none m (List.mem_cons_of_mem _ mem)⟩
  | registered _ _ next turn _ ih =>
    obtain ⟨rest, first, rfl⟩ := first_of_turn next turn
    cases modulesIn_eq_nil.1 (first ▸ ih.none) _ (List.mem_cons_self ..)
  | deserted _ _ ih => exact ⟨ih.closed, rfl⟩

theorem LeadsTo.exhausted (l : LeadsTo s t) (x : s.Exhausted) : t.Exhausted := by
  obtain ⟨_, e⟩ := l
  exact e.exhausted x

/-- Behind the last message no module is in line. -/
theorem Orderly.exhausted {query : Option Nat} {rest : List Message} (o : s.Orderly)
    (first : s.lanes.ordinary = .shutdown query :: rest) :
    Exhausted { s with lanes.ordinary := rest } where
  closed := by
    by_contra isOpen
    have early := o.isOpen (by simpa using isOpen) (.shutdown query)
    cases early (first ▸ List.mem_cons_self ..)
  none := by
    have behind := o.behind
    rw [first] at behind
    exact modulesIn_eq_nil.2 fun m mem => (List.pairwise_cons.1 behind).1 m mem rfl

theorem terminate_leadsTo {bound : Nat} {query : Option Nat} (x : s.Exhausted)
    (d : s.terminate bound query = some t) : LeadsTo s t := by
  have cleared := (LeadsTo.refl s).apart (apart_clear s)
  obtain ⟨u, drained, d⟩ := terminate_cases d
  have left : LeadsTo s u := by
    rcases drained with ⟨-, rfl⟩ | drained
    · exact cleared
    · exact drain_leadsTo cleared drained
  have swept := swept_leadsTo (left.same (u := u.record .lastSweep) rfl rfl rfl)
  have none := modulesIn_eq_nil.1 (swept.exhausted x).none
  obtain ⟨_, e⟩ := swept
  have deserted : LeadsTo s _ := ⟨_, e.deserted none⟩
  rw [eq_finish d]
  exact deserted.same rfl rfl rfl

/-! ## One message -/

/-- The loop takes a message that brings no module. -/
theorem taken_leadsTo {m : Message} {lanes : Lanes Message} (served : s.lanes.deserted = false)
    (next : s.lanes.next? = some (m, lanes)) (other : m.module? = none) :
    LeadsTo s { s with lanes } := by
  rcases Lanes.next?_cases next with ⟨urgent, heq, rfl⟩ | ⟨turn, -⟩
  · have fewer : Besides s [] { s with lanes.urgent := urgent } :=
      { Besides.refl s with
        urgent := fun m' mem => .inl (heq ▸ List.mem_cons_of_mem _ mem) }
    exact ⟨_, Enrols.none.besides fewer⟩
  · exact ⟨_, Enrols.none.took served next turn other⟩

/-- The loop gives the engine each module that it takes, as long as nobody has kept the execution
lock. -/
theorem handle_leadsTo {bound : Nat} {m : Message} {lanes : Lanes Message} (o : s.Orderly)
    (served : s.lanes.deserted = false) (free : s.lock = .free)
    (next : s.lanes.next? = some (m, lanes)) (d : { s with lanes }.handle bound m = some t) :
    LeadsTo s t := by
  have taken : m.module? = none → LeadsTo s { s with lanes } := taken_leadsTo served next
  cases m with
  | ready => cases d; exact becomeReady_leadsTo (taken rfl)
  | sweep =>
    rw [eq_handleSweep d]
    exact (swept_leadsTo (taken rfl)).apart ((apart_tables _).armSweep true (.refl _))
  | fire id => exact fireTimer_leadsTo (taken rfl) d
  | drain => exact drain_leadsTo (taken rfl) d
  | complete call completion => exact deliver_leadsTo (taken rfl) d
  | emit event value => exact dispatchEvent_leadsTo (taken rfl) d
  | register name =>
    have turn := (Lanes.next?_turn next fun mem => by cases o.urgent _ mem).1
    rw [handle_register d]
    exact ⟨_, Enrols.none.registered served next turn free⟩
  | task work =>
    rw [handle_task d]
    exact engaged_leadsTo (fun _ l => runWork_leadsTo engineAccess_leads .loop rfl work l)
      (taken rfl)
  | script source name query =>
    have ran := engagedResult_leadsTo name
      (fun _ l => runScript_leadsTo .loop source name l) (taken rfl)
    rw [handle_script d]
    exact ran.same rfl rfl rfl
  | require path query =>
    have ran := engagedResult_leadsTo path (fun _ l => loadPath_leadsTo .loop path l) (taken rfl)
    rw [handle_require d]
    exact ran.same rfl rfl rfl
  | shutdown query =>
    obtain ⟨-, rest, first, rfl⟩ := Lanes.next?_turn next fun mem => by cases o.urgent _ mem
    exact (taken rfl).trans (terminate_leadsTo (o.exhausted first) d)

/-! ## Bring-up -/

/-- The engine has come up in one state, and has taken the modules that wait, which has led to
another; from there on it has been given the entry script, and then the loop has been entered. -/
structure BroughtUp (o u v : Session) : Prop where
  started : o.engineStart = (.ok (), u)
  handedOver : loadModules u.backlog.names { u with backlog := ⟨true, []⟩ } = (true, v)
  entered : ∃ w, enterScript (true, v) = (true, w) ∧ o.bringUp = w.unlock.enterLoop

theorem broughtUp_of_running (up : o.bringUp.loop = .running) : ∃ u v, BroughtUp o u v := by
  cases started : o.engineStart with
  | mk result u =>
  have bringUp : o.bringUp = engineStarted (result, u) := started ▸ o.bringUp_eq
  cases result with
  | failed f => rw [bringUp] at up; cases up
  | panicked => rw [bringUp] at up; cases up
  | ok _ =>
    rw [engineStarted, loadAll_eq] at bringUp
    cases handedOver : loadModules u.backlog.names { u with backlog := ⟨true, []⟩ } with
    | mk survived v =>
    rw [handedOver] at bringUp
    cases survived with
    | false => rw [bringUp] at up; cases up
    | true =>
      cases entered : enterScript (true, v) with
      | mk survived w =>
      rw [entered] at bringUp
      cases survived with
      | false => rw [bringUp] at up; cases up
      | true => exact ⟨u, v, started, handedOver, w, entered, bringUp⟩

theorem engineStart_leadsTo (o : Session) : LeadsTo o o.engineStart.2 :=
  playScripted_leadsTo .loop _ ((LeadsTo.refl o).note (e := .bringUp ..) rfl)

namespace BroughtUp

variable {u v : Session}

theorem fresh (b : BroughtUp o u v) : LeadsTo o u := by
  have started := engineStart_leadsTo o
  rwa [b.started] at started

theorem taken (b : BroughtUp o u v) : v = { u with
    backlog := ⟨true, []⟩
    log := (u.backlog.names.map .register).reverse ++ u.log } :=
  loadModules_eq b.handedOver

theorem leadsTo (b : BroughtUp o u v) : LeadsTo v o.bringUp := by
  obtain ⟨w, entered, eq⟩ := b.entered
  have left : LeadsTo v w := by
    unfold enterScript at entered
    dsimp only at entered
    split at entered
    · cases entered
      exact .refl _
    · next path _ =>
      have loaded := loadPath_leadsTo .loop path (LeadsTo.refl v)
      obtain rfl : (v.loadPath .loop path).2 = w := congrArg Prod.snd entered
      exact loaded
  rw [eq]
  have ready := (left.same (u := w.unlock) rfl rfl rfl).apart (apart_postUrgent _ (m := .ready) rfl)
  exact (ready.apart ((apart_tables _).armSweep true (.refl _))).same rfl rfl rfl

end BroughtUp

/-! ## The course of a session -/

/-- What comes due brings no module. -/
theorem Orderly.due (o : s.Orderly) : Apart s s.deliverDue := by
  have timely : ∀ m ∈ (s.lanes.alarms.takeWhile (·.due ≤ s.clock)).map (·.message),
      m.isTimely = true := by
    intro m mem
    obtain ⟨a, among, rfl⟩ := List.mem_map.1 mem
    exact o.alarms a ((List.takeWhile_sublist _).subset among)
  exact ⟨_, { Besides.refl s with
    ordinary := rfl
    others := fun m mem => Message.module?_of_timely (timely m mem)
    alarms := fun a mem => .inl ((List.dropWhile_sublist _).subset mem)
    last := fun m mem last => by
      have timely := timely m mem
      cases m with
      | shutdown query => cases timely
      | _ => cases last }⟩

/-- As long as nobody has kept the execution lock, the loop gives the engine each module that it
takes. -/
theorem Reached.leadsTo {turn : Turn} (p : Fresh o) (orderly : v.Orderly)
    (entered : LeadsTo v o.bringUp) (r : Reached o turn s) (free : s.lock = .free) :
    LeadsTo v s := by
  induction r with
  | broughtUp => exact entered
  | @handled turn s t m lanes bound r _ running next d ih =>
    -- A lock that is kept is kept for good, so it has been free all the time.
    have before : s.lock = .free :=
      free_before (fun held => handle_held (s := { s with lanes }) held d) free
    have l := ih before
    have served : s.lanes.deserted = false := (r.sound p).taken (.inr running)
    exact l.trans (handle_leadsTo (l.orderly orderly) served before next d)
  | waited _ _ ih => exact ih free
  | helped _ d ih =>
    have before := free_before (fun held => runHelpers_held held d) free
    exact runHelpers_leadsTo (ih before) d
  | due _ ih => exact (ih free).apart ((ih free).orderly orderly).due
  | passed _ _ ih => exact (ih free).same rfl rfl rfl
  | @acted s _ _ a ih =>
    exact act_leadsTo a (ih (free_before (deeds_held (act_deeds a s)) free))
  | @asked s a ask _ _ asks ih =>
    exact blockingAsk_leadsTo asks (ih (free_before (deeds_held (blockingAsk_deeds asks s)) free))
  | dropped _ _ ih => exact (ih free).same rfl rfl rfl

theorem registrations_of_modules (names : List String) (log : List Entry) :
    registrations ((names.map .register).reverse ++ log) = registrations log ++ names := by
  rw [registrations_append]
  congr 1
  simp [registrations, Function.comp_def, Entry.module?]

/-- A new session has nothing out of place, and the modules that it has been given wait. -/
theorem spawn_orderly {isDirectory : String → Bool} {env : Locale.Environment}
    {settings : Settings} {program : Program} {modules : List String}
    (made : spawn isDirectory env settings program modules = .ok s) :
    s.Orderly ∧ s.backlog = ⟨false, modules⟩ ∧ modulesIn s.lanes.ordinary = [] ∧ s.log = [] := by
  simp only [spawn, bind, Except.bind] at made
  split at made
  · cases made
  · cases made
    exact ⟨⟨List.forall_mem_nil _, List.forall_mem_nil _, fun _ => List.forall_mem_nil _, .nil,
      fun _ => rfl⟩, rfl, rfl, rfl⟩

/-- When a session has come up, the engine is given the modules that were there at first and those
that have been accepted until the engine was up, in this order, behind its own start and ahead of
the entry script. From then on it is given those that have been accepted since, in the order of
their acceptance, each once, as long as nobody has taken the execution lock and kept it: what has
been accepted has been registered or waits in line, and nothing waits when the loop has nothing to
do or has ended. When the loop takes a message that has joined the lane, be it a script, a path or a
task, all modules that had been accepted before that have been registered. How the registration of a
single module ends is of no consequence. -/
theorem Reached.modules_in_order {isDirectory : String → Bool} {env : Locale.Environment}
    {settings : Settings} {program : Program} {modules : List String} {origin : Session}
    {early : List HostStep} {turn : Turn} {s : Session}
    (made : spawn isDirectory env settings program modules = .ok origin)
    (up : (origin.earlySteps early).2.2.bringUp.loop = .running)
    (r : Reached (origin.earlySteps early).2.2 turn s) (free : s.lock = .free) :
    ∃ u v, BroughtUp (origin.earlySteps early).2.2 u v ∧
      (LeadsTo origin u ∧ ∀ h, Enrols origin h u →
        registrations u.log = [] ∧ registrations v.log = modules ++ acceptedIn h) ∧
      LeadsTo v s ∧ ∀ h, Enrols v h s →
        registrations s.log = registrations v.log ++ registeredIn h ∧
        acceptedIn h = registeredIn h ++ modulesIn s.lanes.ordinary ∧
        (s.loop = .running → s.lanes.next? = none → registeredIn h = acceptedIn h) ∧
        (s.loop = .ended → registeredIn h = acceptedIn h) ∧ v.Timely h := by
  obtain ⟨orderly, backlog, none, log⟩ := spawn_orderly made
  have p : Fresh (origin.earlySteps early).2.2 := earlySteps_fresh early (.spawned made)
  obtain ⟨u, v, b⟩ := broughtUp_of_running up
  have before : LeadsTo origin u := (earlySteps_leadsTo early (.refl origin)).trans b.fresh
  have awaiting : ∀ h, Enrols origin h u → u.backlog.names = modules ++ acceptedIn h ∧
      modulesIn u.lanes.ordinary = [] ∧ registrations u.log = [] := by
    intro h e
    obtain ⟨waits, none, same⟩ := e.awaiting (by rw [backlog]) none
    refine ⟨by rw [waits, backlog], none, ?_⟩
    rw [same, log]
    rfl
  have taken := b.taken
  have inPlace : v.Orderly := by
    rw [taken]
    exact { before.orderly orderly with }
  have behind : LeadsTo v s := r.leadsTo p inPlace b.leadsTo free
  refine ⟨u, v, b, ⟨before, fun h e => ?_⟩, behind, fun h e => ?_⟩
  · obtain ⟨waits, -, new⟩ := awaiting h e
    refine ⟨new, ?_⟩
    rw [taken, registrations_of_modules, new, waits]
    rfl
  · obtain ⟨h₀, e₀⟩ := before
    obtain ⟨-, none, -⟩ := awaiting h₀ e₀
    have enlisted := e.enlisted (by rw [taken]) (by rw [taken]; exact none)
    have balance := enlisted.balance (by rw [taken]; exact none)
    refine ⟨enlisted.log, balance, fun _ idle => ?_, fun ended => ?_, enlisted.timely⟩
    · rw [balance, Lanes.ordinary_eq_nil_of_next? idle]
      exact (List.append_nil _).symm
    · rw [balance, (e.orderly inPlace).lost (r.gone up ended).deserted, List.append_nil]

/-- An engine that registers a module while it is brought up, and one with its entry script. -/
def enrolling : Program :=
  { (default : Program) with
    bringUp := [.register "i"]
    scripts := [("entry", [.register "e"])]
    moduleEnd := moduleEndByName }

/-- A session is given two modules, one of which the engine refuses. The host registers one before
bring-up and two behind it, with a task between them. -/
theorem modules_in_order_enrolling :
    ∃ origin s, spawn (fun _ => false) ⟨none, none, none⟩
        { Settings.default with scriptPath := some "entry" } enrolling ["b", "bad"] = .ok origin ∧
      Reached (origin.earlySteps [.act (.register "m")]).2.2 .loop s ∧ s.lock = .free ∧
      registrations s.log = ["b", "bad", "m", "i", "e", "bad again", "l"] ∧
      ∃ u v h h', BroughtUp (origin.earlySteps [.act (.register "m")]).2.2 u v ∧
        Enrols origin h u ∧ Enrols v h' s ∧
        registrations s.log = ["b", "bad"] ++ acceptedIn h ++ acceptedIn h' := by
  let origin : Session :=
    { create { Settings.default with scriptPath := some "entry" }
        (Locale.capture none none ⟨none, none, none⟩) enrolling ["b", "bad"] with
      lock := ⟨some .loop⟩ }
  have made : spawn (fun _ => false) ⟨none, none, none⟩
      { Settings.default with scriptPath := some "entry" } enrolling ["b", "bad"] = .ok origin :=
    rfl
  have fresh := earlySteps_fresh [.act (.register "m")] (.spawned made)
  obtain ⟨s, r, found⟩ := @Fresh.scenario _ 50
    [.act (.register "bad again"), .act (.post "t" 0 []), .act (.register "l"), .run 0]
    (fun s => decide (s.loop = .running ∧ s.lanes.next?.isNone = true ∧ s.lock = .free ∧
      registrations s.log = ["b", "bad", "m", "i", "e", "bad again", "l"])) fresh
    (by decide +kernel)
  obtain ⟨running, idle, free, log⟩ := of_decide_eq_true found
  have up : (origin.earlySteps [.act (.register "m")]).2.2.bringUp.loop = .running := by
    decide +kernel
  obtain ⟨u, v, b, ⟨⟨h, e⟩, before⟩, ⟨h', e'⟩, behind⟩ := Reached.modules_in_order made up r free
  obtain ⟨-, first⟩ := before h e
  obtain ⟨whole, -, all, -⟩ := behind h' e'
  refine ⟨origin, s, made, r, free, log, u, v, h, h', b, e, e', ?_⟩
  rw [whole, first, all running (Option.isNone_iff_eq_none.1 idle)]

/-- An observer has taken the execution lock and kept it. A module is accepted, and when the loop
has nothing more to do the engine has not been given it. -/
theorem module_left_behind : ∃ s t u : Session, Reached leaking .loop s ∧
    leaking.bringUp.loop = .running ∧ s.registerModule "m" = (true, t) ∧ t.run 50 0 = some u ∧
      u.loop = .running ∧ u.lanes.next? = none ∧ registrations u.log = [] := by
  obtain ⟨s, start, found⟩ := (Option.any_eq_true _ _).1 (by decide +kernel :
    (leaking.start 50).any (fun s => (s.registerModule "m").1 &&
      ((s.registerModule "m").2.run 50 0).any fun u => decide (u.loop = .running ∧
        u.lanes.next?.isNone = true ∧ registrations u.log = [])) = true)
  obtain ⟨accepted, found⟩ := Bool.and_eq_true_iff.1 found
  obtain ⟨u, ran, found⟩ := (Option.any_eq_true _ _).1 found
  obtain ⟨running, idle, log⟩ := of_decide_eq_true found
  obtain ⟨r, -⟩ := start_reached (earlySteps_fresh _ (plain_fresh _)) start
  exact ⟨s, _, u, r, by decide +kernel, Prod.ext accepted rfl, ran, running,
    Option.isNone_iff_eq_none.1 idle, log⟩

end Session
end ScriptHost
