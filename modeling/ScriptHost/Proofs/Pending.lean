import ScriptHost.Proofs.Course
import ScriptHost.Proofs.Firings

/-!
# One firing for each live timer

As long as the loop runs, each live timer has one firing outstanding between any two messages, and
no timer is firing. A firing whose timer is gone is not armed any more; it may still wait in line,
and then its handling does nothing.

## Main definitions

* `Session.Timed` — timers and firings go together.

## Main statements

* `Session.Deeds.timed` — code keeps them together.
* `Session.handle_timed` — so does every message but the last one.
* `Session.Reached.one_firing` — one firing is outstanding for each live timer.
-/

namespace ScriptHost

/-- The timers whose firings are armed. -/
def Lanes.armedFirings (lanes : Lanes Message) : List Nat :=
  lanes.alarms.filterMap (·.message.fireId?)

/-- The timers whose firings wait in line. -/
def Lanes.firingsInLine (lanes : Lanes Message) : List Nat :=
  lanes.ordinary.filterMap Message.fireId?

namespace Session

variable {o s t : Session} {fired : Option Timer}

/-- Each live timer has one firing outstanding, but for the one that is firing. -/
def Timed (fired : Option Timer) (s : Session) : Prop :=
  Armed fired s.timers s.lanes s.sweepTicket

/-! ## Messages -/

theorem Timed.post (h : s.Timed fired) {m : Message} (quiet : m.fireId? = none) :
    (s.post m).2.Timed fired := by
  rcases post_cases s m with eq | ⟨-, eq⟩ <;> rw [eq]
  · exact h
  · exact h.requeue (Armed.firings_of_quiet quiet (Lanes.messages_post ..)) (List.Subset.refl _) rfl
      h.urgent fun _ held => held

theorem Timed.postUrgent (h : s.Timed fired) {m : Message} (quiet : m.fireId? = none) :
    (s.postUrgent m).2.Timed fired := by
  rcases postUrgent_cases s m with eq | ⟨-, eq⟩ <;> rw [eq]
  · exact h
  · refine h.requeue (Armed.firings_of_quiet quiet (Lanes.messages_postUrgent ..))
      (List.Subset.refl _) rfl (fun m' mem => ?_) fun _ held => held
    rcases List.mem_append.1 mem with mem | mem
    · exact h.urgent m' mem
    · exact List.mem_singleton.1 mem ▸ quiet

theorem Timed.arm (h : s.Timed fired) (delay : Nat) {m : Message} (quiet : m.fireId? = none) :
    (s.arm delay m).2.Timed fired := by
  rcases arm_cases s delay m with eq | ⟨-, eq⟩ <;> rw [eq]
  · exact h
  · exact Armed.arm h _ quiet fun _ held => .inl held

theorem Timed.armSweep (h : s.Timed fired) (periodic : Bool) :
    (s.armSweep periodic).Timed fired := by
  rcases armSweep_cases s periodic with eq | eq | ⟨hopen, eq⟩ <;> rw [eq]
  · exact h
  · exact { h with sweep := nofun, swept := nofun }
  · simp only [Session.arm, Lanes.arm_of_open hopen]
    exact Armed.arm h _ (m := .sweep) rfl fun _ held => .inr (Option.some.inj held).symm

theorem Timed.withdrawSweep (h : s.Timed fired) : s.withdrawSweep.Timed fired := by
  rw [withdrawSweep_eq]
  refine h.requeue (fun id => Armed.count_withdraw fun a mem held => ?_) List.filter_sublist.subset
    rfl h.urgent nofun
  rw [h.sweep a mem held]
  nofun

theorem Timed.deliverDue (h : s.Timed fired) : s.deliverDue.Timed fired :=
  h.requeue (fun id => ((Lanes.messages_deliverDue ..).filterMap Message.fireId?).count_eq id)
    (List.dropWhile_sublist _).subset rfl h.urgent fun _ held => held

/-! ## Requests -/

theorem timed_requests (fired : Option Timer) : KeptByRequests fun s => s.Timed fired where
  counted _ h := h
  held _ h := h
  errands _ h := h
  posted _ _ h := h.post rfl
  dropped _ h := h
  transported _ h := h
  sent _ h := h
  issued _ h := h
  registered _ h := h
  buried _ h := h

theorem timed_enqueuing (fired : Option Timer) : KeptByEnqueuing fun s => s.Timed fired where
  ticks _ h := h
  helpers _ h := h
  accepted _ h := h
  urged h := h.postUrgent rfl

/-! ## Deeds -/

theorem Timed.schedule (h : s.Timed fired) (door : Door) (pair : Pair) (delay : Nat)
    (recurring : Bool) : (s.schedule door pair delay recurring).2.Timed fired := by
  rcases schedule_cases s door pair delay recurring with eq | ⟨t, live, adopted, eq⟩ <;> rw [eq]
  · exact h
  · have hopen : t.lanes.closed = false := by
      obtain ⟨-, rfl⟩ := adopt?_eq_some.1 adopted
      exact lanes_open_of_isLive live
    have adopted := (timed_requests fired).adopt adopted h
    simp only [Session.arm, Lanes.arm_of_open hopen]
    exact Armed.schedule adopted pair delay _ recurring

theorem Timed.cancel (h : s.Timed fired) (door : Door) (id : Nat) :
    (s.cancel door id).2.Timed fired := by
  rcases cancel_cases s door id with eq | ⟨timer, found, cases⟩
  · rw [eq]
    exact h
  obtain ⟨mem, rfl⟩ := Ledger.find?_mem found
  have removed :
      ({ s with timers := s.timers.remove timer.id }.withdraw timer.ticket).Timed fired := by
    rw [withdraw_eq]
    exact Armed.remove h mem
  rcases cases with ⟨-, eq⟩ | ⟨-, eq⟩ <;> rw [eq]
  · exact removed.armSweep false
  · refine Timed.armSweep ?_ false
    exact removed

theorem Deeds.timed {thread : Thread} (d : Deeds thread s t) (h : s.Timed fired) :
    t.Timed fired := by
  induction d with
  | none s => exact h
  | trans _ _ ih ih' => exact ih' (ih h)
  | aside aside =>
    obtain ⟨_, _, _, _, _, _, _, -, -, rfl⟩ := aside
    exact h
  | @post s m plain =>
    refine h.post ?_
    cases m with
    | fire id => cases plain
    | _ => rfl
  | arm s delay work => exact h.arm delay rfl
  | schedule s door pair delay recurring => exact h.schedule door pair delay recurring
  | cancel s door id => exact h.cancel door id
  | enqueue s door noThreads job =>
    exact (timed_enqueuing fired).enqueue door thread noThreads job h
  | issue s door noThreads order => exact (timed_requests fired).issue door noThreads order h
  | release s key => exact (timed_requests fired).release key h
  | listen s door event pair =>
    rcases listen_cases s door event pair with eq | ⟨t, -, adopted, eq⟩ <;> rw [eq]
    · exact h
    · have adopted := (timed_requests fired).adopt adopted h
      exact adopted
  | unlisten s door event =>
    rcases unlisten_cases s door event with eq | eq | eq <;> rw [eq]
    · exact h
    · exact h
    · refine Timed.armSweep ?_ false
      exact h
  | pause s =>
    rcases pause_cases s with eq | ⟨-, eq⟩ <;> rw [eq]
    · exact h
    · refine Timed.withdrawSweep ?_
      exact h
  | unpause s =>
    rcases unpause_cases s with eq | ⟨-, eq⟩ <;> rw [eq]
    · exact h
    · refine Timed.armSweep ?_ true
      exact h
  | shutdown s query =>
    have withdrawn : ({ s with phase := .shuttingDown }.withdrawSweep).Timed fired :=
      Timed.withdrawSweep (s := { s with phase := .shuttingDown }) h
    rcases beginShutdown_cases s query with eq | ⟨-, ⟨-, eq⟩ | ⟨-, eq⟩⟩ <;> rw [eq]
    · exact h
    · exact withdrawn.requeue (Armed.firings_of_quiet (m := .shutdown query) rfl
        (Lanes.messages_post ..)) (List.Subset.refl _) rfl withdrawn.urgent fun _ held => held
    · exact withdrawn.requeue (fun _ => rfl) (List.Subset.refl _) rfl withdrawn.urgent
        fun _ held => held
  | guarded take _ ih =>
    obtain ⟨-, -, rfl⟩ := takeLock_eq_ok.1 take
    exact ih h
  | leak take =>
    obtain ⟨-, -, rfl⟩ := takeLock_eq_ok.1 take
    exact h
  | called s callback before => exact h

/-! ## Messages of the loop -/

theorem timed_kept : KeptByDrains (Timed fired) where
  deeds d h := d.timed h
  lock _ h := h
  ready _ _ h := h
  ticks _ h := h
  helpers _ h := h
  begun _ _ h := h

theorem Timed.invoked (h : s.Timed fired) (pair : Pair) (arguments : List Json.Value) :
    (s.engaged fun s => (s.invokeLive .loop pair arguments).2).Timed fired :=
  timed_kept.engaged (fun _ => timed_kept.invokeLive (fun h _ => h) .loop arguments) h

theorem Timed.swept (h : s.Timed fired) :
    (s.engaged fun s => s.sweepGraveyard.2).Timed fired := by
  refine timed_kept.engaged (fun u h => ?_) h
  obtain ⟨released, failures, eq, -⟩ := u.sweepGraveyard_eq
  rw [eq]
  exact h

theorem Timed.fireTimer (h : s.Timed none) {id : Nat} {lanes : Lanes Message}
    (next : s.lanes.next? = some (.fire id, lanes))
    (d : { s with lanes }.fireTimer id = some t) : t.Timed none := by
  rcases fireTimer_cases d with ⟨gone, eq⟩ | ⟨timer, found, rfl, cases⟩
  · -- The timer is gone, and so is the firing that was left in line for it.
    rw [eq]
    refine Armed.take_stale h next fun mem => ?_
    obtain ⟨timer, mem, same⟩ := List.mem_map.1 mem
    have other := List.find?_eq_none.1 gone timer mem
    simp [same] at other
  · obtain ⟨mem, -⟩ := Ledger.find?_mem found
    have begun : Timed (some timer) { s with lanes := lanes, timers := s.timers.firing timer } :=
      Armed.begin h next mem
    have called := begun.invoked timer.pair []
    rcases cases with ⟨live, -, hopen, eq⟩ | eq <;> rw [eq]
    · simp only [Session.arm, Lanes.arm_of_open hopen]
      exact Armed.rearm called (Ledger.mem_ids_of_isLive live) _
    · exact Armed.retire called

theorem handle_timed {bound : Nat} {m : Message} {lanes : Lanes Message} (h : s.Timed none)
    (other : ∀ query, m ≠ .shutdown query) (next : s.lanes.next? = some (m, lanes))
    (d : { s with lanes }.handle bound m = some t) : t.Timed none := by
  by_cases firing : ∃ id, m = .fire id
  · obtain ⟨id, rfl⟩ := firing
    exact h.fireTimer next d
  have quiet : m.fireId? = none := by
    cases m with
    | fire id => exact absurd ⟨id, rfl⟩ firing
    | _ => rfl
  have taken : Timed none { s with lanes } := Armed.take h next quiet
  by_cases routine : m.isRoutine = true
  · exact timed_kept.routine routine (fun _ _ _ _ _ _ h _ => h) (fun _ => timed_kept.drain taken)
      taken d
  cases m with
  | sweep =>
    rw [eq_handleSweep d]
    exact taken.swept.armSweep true
  | fire id => exact absurd ⟨id, rfl⟩ firing
  | complete call completion =>
    have arrived : Timed none (({ s with lanes } : Session).arrived call) := taken
    rw [eq_deliver d]
    exact arrived.invoked _ _
  | shutdown query => exact absurd rfl (other query)
  | _ => exact absurd rfl routine

/-! ## The course of a session -/

theorem Fresh.timed (p : Fresh o) : o.Timed none := by
  refine p.induct (fun _ _ _ _ => ?_) fun d h => d.timed h
  exact
    { ids := List.nodup_nil
      below := nofun
      running := rfl
      firing := nofun
      pending := nofun
      once := fun _ => Nat.zero_le _
      live := nofun
      held := nofun
      own := nofun
      sweep := nofun
      alarmed := nofun
      ticketed := nofun
      swept := nofun
      urgent := nofun }

theorem Fresh.broughtUp_timed (p : Fresh o) (up : o.bringUp.loop = .running) :
    o.bringUp.Timed none := by
  obtain ⟨u, d, eq⟩ := bringUp_running up
  have unlocked : u.unlock.Timed none := d.timed p.timed
  have armed := (unlocked.postUrgent (m := .ready) rfl).armSweep true
  rw [eq]
  exact armed

theorem timed_steady : Steady (Timed none) where
  deeds d h := d.timed h
  helped h d := timed_kept.runHelpers h d
  due h := h.deliverDue
  passed _ h := h
  dropped h := h

/-- Timers and firings go together as long as the loop runs. -/
theorem Reached.timed {turn : Turn} (p : Fresh o) (r : Reached o turn s)
    (running : s.loop = .running) : s.Timed none :=
  r.invariant_running timed_steady p.broughtUp_timed
    (fun h other next d => handle_timed h other next d) running

theorem Timed.count_firings (h : s.Timed fired) (id : Nat) :
    s.lanes.armedFirings.count id + s.lanes.firingsInLine.count id = s.lanes.firings.count id := by
  have quiet : s.lanes.urgent.filterMap Message.fireId? = [] :=
    List.filterMap_eq_nil_iff.2 h.urgent
  have alarms :
      (s.lanes.alarms.map (·.message)).filterMap Message.fireId? = s.lanes.armedFirings := by
    rw [List.filterMap_map]
    rfl
  simp only [Lanes.firings, Lanes.messages, List.filterMap_append, quiet, alarms,
    Lanes.firingsInLine, List.nil_append, List.count_append]
  omega

/-- Between two messages, as long as the loop runs, no timer is firing and each live timer has one
firing outstanding, armed or in line. A timer that is not live has none armed and at most one in
line, whose handling does nothing; and when the firing of a live timer is taken, none is left. -/
theorem Reached.one_firing {turn : Turn} (p : Fresh o) (r : Reached o turn s)
    (running : s.loop = .running) :
    s.timers.running = none ∧ (s.timers.live.map Timer.id).Nodup ∧
      (∀ timer ∈ s.timers.live, (s.lanes.armedFirings.count timer.id +
        s.lanes.firingsInLine.count timer.id) = 1) ∧
      (∀ id, s.timers.isLive id = false →
        id ∉ s.lanes.armedFirings ∧ s.lanes.firingsInLine.count id ≤ 1 ∧
          ∀ bound lanes, { s with lanes }.handle bound (.fire id) = some { s with lanes }) ∧
      (∀ m ∈ s.lanes.urgent, m.fireId? = none) ∧
      ∀ id lanes, s.lanes.next? = some (.fire id, lanes) →
        id ∉ lanes.armedFirings ∧ id ∉ lanes.firingsInLine := by
  have h := r.timed p running
  refine ⟨h.running, h.ids, fun timer mem => ?_, fun id gone => ⟨fun armed => ?_, ?_, ?_⟩, h.urgent,
    fun id lanes next => ?_⟩
  · rw [h.count_firings]
    exact h.live timer mem nofun
  · obtain ⟨a, mem, fires⟩ := List.mem_filterMap.1 armed
    obtain ⟨timer, mem, same, -⟩ := h.held a mem id fires
    simp only [Timers.isLive, Timers.find?, Option.isSome_eq_false_iff, Option.isNone_iff_eq_none,
      List.find?_eq_none] at gone
    exact gone timer mem (by simpa using same)
  · have count := h.count_firings id
    have once := h.once id
    omega
  · intro bound lanes
    simp only [Timers.isLive, Option.isSome_eq_false_iff, Option.isNone_iff_eq_none] at gone
    simp [handle, Session.fireTimer, Timers.begin, gone]
  · have spent : lanes.firings.count id = 0 := by
      have count := Armed.count_taken next id
      have once := h.once id
      rw [if_pos rfl] at count
      omega
    have absent : id ∉ lanes.firings := List.count_eq_zero.1 spent
    refine ⟨fun armed => absent ?_, fun lined => absent ?_⟩
    · obtain ⟨a, mem, fires⟩ := List.mem_filterMap.1 armed
      exact List.count_pos_iff.1 (Armed.fireId?_of_mem_alarms mem fires)
    · obtain ⟨m, mem, fires⟩ := List.mem_filterMap.1 lined
      exact List.mem_filterMap.2 ⟨m, by simp [Lanes.messages, mem], fires⟩

/-- An engine that schedules two timers while it is brought up, and cancels one of them. -/
def scheduling : Program where
  bringUp :=
    [.schedule .handle ⟨1, 9⟩ 5 false, .schedule .handle ⟨2, 9⟩ 0 true, .cancel .handle 1]
  scripts := []
  callbacks := []
  failDispose := []
  panicDispose := []
  hasTransport := false

theorem one_firing_scheduling :
    (plain scheduling).bringUp.loop = .running ∧
      (plain scheduling).bringUp.timers.live.map Timer.id = [2] ∧
      (∀ timer ∈ (plain scheduling).bringUp.timers.live,
        ((plain scheduling).bringUp.lanes.armedFirings.count timer.id +
          (plain scheduling).bringUp.lanes.firingsInLine.count timer.id) = 1) ∧
      1 ∉ (plain scheduling).bringUp.lanes.armedFirings := by
  have running : (plain scheduling).bringUp.loop = .running := by decide +kernel
  have live : (plain scheduling).bringUp.timers.live.map Timer.id = [2] := by decide +kernel
  have gone : (plain scheduling).bringUp.timers.isLive 1 = false := by decide +kernel
  obtain ⟨-, -, once, stale, -⟩ :=
    Reached.one_firing (plain_fresh scheduling) .broughtUp running
  exact ⟨running, live, once, (stale 1 gone).1⟩

end Session
end ScriptHost
