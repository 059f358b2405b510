import ScriptHost.Proofs.Moments

/-!
# Discreet code

Code that neither asks for the phase and the counters of a session nor pauses it cannot tell whether
somebody else does. What a session has in store to be run has been handed over by code that it has
run, so with a discreet program and a discreet host all of it is discreet.

## Main definitions

* `Action.isDiscreet`, `Work.isDiscreet`, `Program.isDiscreet` — discreet code.
* `Session.Quiet` — nothing has been handed over to be run.
* `Session.Discreet` — the program is discreet, and whatever waits to be run.

## Main statements

* `Session.Quiet.discreet` — where nothing is handed over a session stays discreet.
* `Session.Discreet.enqueue`, `Session.Discreet.postWork`, `Session.Discreet.observe` — so it does
  where something discreet is.
-/

namespace ScriptHost

/-! ## Code -/

namespace Action

mutual

/-- Whether an action neither looks at phase and counters nor pauses, nor hands anything over that
does. -/
def isDiscreet : Action → Bool
  | .phase _ | .statistics | .pause | .unpause => false
  | .tick _ _ _ actions | .post _ _ actions | .observe _ actions | .guarded actions =>
    areDiscreet actions
  | _ => true

/-- Whether all of these actions are discreet. -/
def areDiscreet : List Action → Bool
  | [] => true
  | a :: rest => a.isDiscreet && areDiscreet rest

end

end Action

/-- Whether a job, task or observer is discreet. -/
def Work.isDiscreet (w : Work) : Bool := Action.areDiscreet w.actions

namespace Program

/-- Whether the code around a session is discreet. -/
def isDiscreet (p : Program) : Bool :=
  Action.areDiscreet p.bringUp && p.scripts.all (Action.areDiscreet ·.2) &&
    p.callbacks.all (·.2.all Action.areDiscreet)

variable {p : Program}

theorem scriptActions_discreet (h : p.isDiscreet = true) (name : String) :
    Action.areDiscreet (p.scriptActions name) = true := by
  simp only [isDiscreet, Bool.and_eq_true, List.all_eq_true] at h
  unfold scriptActions
  cases found : p.scripts.lookup name with
  | none => rfl
  | some actions => exact h.1.2 (name, actions) (mem_of_lookup found)

theorem callbackActions_discreet (h : p.isDiscreet = true) (callback : UInt64) (before : Nat) :
    Action.areDiscreet (p.callbackActions callback before) = true := by
  simp only [isDiscreet, Bool.and_eq_true, List.all_eq_true] at h
  unfold callbackActions
  cases found : p.callbacks.lookup callback with
  | none => rfl
  | some parts =>
    have mem := mem_of_lookup found
    cases at_ : parts[before]? with
    | none => simp [at_, Action.areDiscreet]
    | some actions =>
      simpa [at_] using h.2 (callback, parts) mem actions (List.mem_of_getElem? at_)

end Program

/-- Whether a message hands no task over. -/
def Message.isIdle : Message → Bool
  | .task _ => false
  | _ => true

namespace Session

variable {s t u : Session}

/-! ## Where nothing is handed over -/

/-- Nothing has been handed over to be run. -/
structure Quiet (s t : Session) : Prop where
  program : t.program = s.program
  jobs : t.ticks.jobs ⊆ s.ticks.jobs
  observers : t.readiness.waiting ⊆ s.readiness.waiting
  tasks : ∀ work, Message.task work ∈ t.lanes.messages → Message.task work ∈ s.lanes.messages

namespace Quiet

theorem refl (s : Session) : Quiet s s :=
  ⟨rfl, List.Subset.refl _, List.Subset.refl _, fun _ mem => mem⟩

theorem trans (h : Quiet s t) (h' : Quiet t u) : Quiet s u where
  program := h'.program.trans h.program
  jobs := List.Subset.trans h'.jobs h.jobs
  observers := List.Subset.trans h'.observers h.observers
  tasks work mem := h.tasks work (h'.tasks work mem)

theorem same (program : t.program = s.program) (ticks : t.ticks.jobs = s.ticks.jobs)
    (readiness : t.readiness.waiting = s.readiness.waiting) (lanes : t.lanes = s.lanes) :
    Quiet s t :=
  ⟨program, ticks ▸ List.Subset.refl _, readiness ▸ List.Subset.refl _, lanes ▸ fun _ mem => mem⟩

/-- Another message waits, which hands nothing over. -/
theorem joined {m : Message} (idle : m.isIdle = true) (program : t.program = s.program)
    (ticks : t.ticks.jobs = s.ticks.jobs)
    (readiness : t.readiness.waiting = s.readiness.waiting)
    (perm : t.lanes.messages.Perm (m :: s.lanes.messages)) : Quiet s t where
  program := program
  jobs := ticks ▸ List.Subset.refl _
  observers := readiness ▸ List.Subset.refl _
  tasks work mem := by
    rcases List.mem_cons.1 (perm.subset mem) with rfl | mem
    · cases idle
    · exact mem

/-- Messages are gone. -/
theorem fewer {lanes : Lanes Message} (sub : lanes.messages ⊆ s.lanes.messages) :
    Quiet s { s with lanes } where
  program := rfl
  jobs := List.Subset.refl _
  observers := List.Subset.refl _
  tasks _ mem := sub mem

end Quiet

theorem quiet_post (s : Session) {m : Message} (idle : m.isIdle = true) : Quiet s (s.post m).2 := by
  rcases post_cases s m with eq | ⟨-, eq⟩ <;> rw [eq]
  · exact .refl s
  · exact .joined idle rfl rfl rfl (Lanes.messages_post ..)

theorem quiet_postUrgent (s : Session) {m : Message} (idle : m.isIdle = true) :
    Quiet s (s.postUrgent m).2 := by
  rcases postUrgent_cases s m with eq | ⟨-, eq⟩ <;> rw [eq]
  · exact .refl s
  · exact .joined idle rfl rfl rfl (Lanes.messages_postUrgent ..)

theorem quiet_arm (s : Session) (delay : Nat) {m : Message} (idle : m.isIdle = true) :
    Quiet s (s.arm delay m).2 := by
  rcases arm_cases s delay m with eq | ⟨-, eq⟩ <;> rw [eq]
  · exact .refl s
  · exact .joined idle rfl rfl rfl (Lanes.messages_arm ..)

theorem quiet_withdraw (s : Session) (ticket : Option Nat) : Quiet s (s.withdraw ticket) := by
  rw [withdraw_eq]
  exact .fewer (Lanes.messages_alarms List.filter_sublist).subset

theorem quiet_tables (s : Session) : KeptByTables (Quiet s) where
  registered _ h := h.trans (.same rfl rfl rfl rfl)
  buried _ h := h.trans (.same rfl rfl rfl rfl)
  sweepArmed delay h := h.trans (quiet_arm _ delay rfl)
  withdrawn ticket h := h.trans (quiet_withdraw _ ticket)
  ticketed _ h := h.trans (.same rfl rfl rfl rfl)
  entered _ h := h.trans (.same rfl rfl rfl rfl)
  listeners _ h := h.trans (.same rfl rfl rfl rfl)
  firingArmed delay _ h := h.trans (quiet_arm _ delay rfl)
  timers _ h := h.trans (.same rfl rfl rfl rfl)

theorem quiet_requests (s : Session) : KeptByRequests (Quiet s) where
  toKeptByCustody := (quiet_tables s).toKeptByCustody
  counted _ h := h.trans (.same rfl rfl rfl rfl)
  held _ h := h.trans (.same rfl rfl rfl rfl)
  errands _ h := h.trans (.same rfl rfl rfl rfl)
  posted _ _ h := h.trans (quiet_post _ rfl)
  dropped _ h := h.trans (.same rfl rfl rfl rfl)
  transported _ h := h.trans (.same rfl rfl rfl rfl)
  sent _ h := h.trans (.same rfl rfl rfl rfl)
  issued _ h := h.trans (.same rfl rfl rfl rfl)

theorem quiet_beginShutdown (s : Session) (query : Option Nat) :
    Quiet s (s.beginShutdown query).2 := by
  refine (quiet_tables s).beginShutdown (fun h => h.trans ?_) (fun h => h.trans ?_) (.refl s)
  · exact .joined (m := .shutdown query) rfl rfl rfl rfl (Lanes.messages_post ..)
  · exact ⟨rfl, List.Subset.refl _, List.Subset.refl _, fun _ mem => mem⟩

/-! ## Discreet sessions -/

/-- The program is discreet, and whatever waits to be run. -/
structure Discreet (s : Session) : Prop where
  program : s.program.isDiscreet = true
  jobs : ∀ job ∈ s.ticks.jobs, job.isDiscreet = true
  observers : ∀ observer ∈ s.readiness.waiting, observer.2.isDiscreet = true
  tasks : ∀ work, Message.task work ∈ s.lanes.messages → work.isDiscreet = true

theorem Quiet.discreet (h : Quiet s t) (d : s.Discreet) : t.Discreet where
  program := h.program ▸ d.program
  jobs job mem := d.jobs job (h.jobs mem)
  observers observer mem := d.observers observer (h.observers mem)
  tasks work mem := d.tasks work (h.tasks work mem)

namespace Discreet

/-- A job joins the others. -/
theorem job (d : s.Discreet) {job : Work} (discreet : job.isDiscreet = true) :
    Discreet { s with ticks.jobs := s.ticks.jobs ++ [job] } :=
  { d with
    jobs := fun other mem => by
      rcases List.mem_append.1 mem with mem | mem
      · exact d.jobs other mem
      · obtain rfl := List.mem_singleton.1 mem
        exact discreet }

theorem enqueue (d : s.Discreet) (door : Door) (thread : Thread) (noThreads : Bool) {job : Work}
    (discreet : job.isDiscreet = true) : (s.enqueue door thread noThreads job).2.Discreet := by
  have queued := d.job discreet
  rcases enqueue_cases s door thread noThreads job with h | ⟨-, ⟨-, h⟩ | ⟨-, h | h⟩⟩ <;> rw [h]
  · exact d
  · exact { queued with }
  · exact { queued with }
  · exact (quiet_postUrgent _ (m := .drain) rfl).discreet { queued with }

/-- A task waits as well. -/
theorem task (d : s.Discreet) {work : Work} (discreet : work.isDiscreet = true)
    {lanes : Lanes Message} (perm : lanes.messages.Perm (.task work :: s.lanes.messages)) :
    Discreet { s with lanes } :=
  { d with
    tasks := fun other mem => by
      rcases List.mem_cons.1 (perm.subset mem) with same | mem
      · cases same
        exact discreet
      · exact d.tasks other mem }

theorem postWork (d : s.Discreet) (delay : Nat) {work : Work} (discreet : work.isDiscreet = true) :
    (s.postWork delay work).2.Discreet := by
  unfold Session.postWork
  split
  · exact d
  split
  · rcases post_cases s (.task work) with eq | ⟨-, eq⟩ <;> rw [eq]
    · exact d
    · exact d.task discreet (Lanes.messages_post ..)
  · rcases arm_cases s delay (.task work) with eq | ⟨-, eq⟩ <;> rw [eq]
    · exact d
    · exact d.task discreet (Lanes.messages_arm ..)

/-- An observer is entered. -/
theorem observer (d : s.Discreet) {observer : Work} (discreet : observer.isDiscreet = true) :
    Discreet { s with readiness := (s.readiness.add observer).2 } :=
  { d with
    observers := fun other mem => by
      unfold Readiness.add at mem
      dsimp only at mem
      split at mem
      · exact d.observers other mem
      · rcases List.mem_append.1 mem with mem | mem
        · exact d.observers other mem
        · obtain rfl := List.mem_singleton.1 mem
          exact discreet }

/-- The jobs that wait are taken as one batch, or more are looked for. -/
theorem ticks (d : s.Discreet) {ticks : TickQueue Work} (fewer : ticks.jobs ⊆ s.ticks.jobs) :
    Discreet { s with ticks } :=
  { d with jobs := fun job mem => d.jobs job (fewer mem) }

end Discreet

end Session
end ScriptHost
