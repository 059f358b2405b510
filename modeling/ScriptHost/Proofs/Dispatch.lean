import Mathlib.Data.List.DropRight
import ScriptHost.Proofs.Deliveries
import ScriptHost.Proofs.Discreet
import ScriptHost.Proofs.LastMessage

/-!
# Dispatched events

When the loop comes to an event, whoever listens for it then is invoked, one after the other. They
may do whatever they like meanwhile: the pairs that listen have been looked up before, and all of
them stay in custody, also those that are in line for the next sweep by then.

## Main definitions

* `Turnover.attending` — the pairs that have come to listen for an event since nobody did.
* `Action.concerns`, `Program.Concerns` — code that registers or removes listeners of an event.
* `Session.summon` — the engine invokes some pairs one after the other.
* `Session.Dispatched` — what a dispatch leaves behind.

## Main statements

* `Session.Tabled.of` — who listens is who is attending.
* `Session.perform_rearranged` — code that does not concern an event leaves its listeners alone.
* `Session.summon_log` — whoever is invoked, the others follow.
* `Session.Tabled.dispatched` — what a dispatch comes to while the lock is free.
* `Moment.Arises.dispatches_in_order` — the same for every session, and for what has been removed.
* `Moment.dispatches_nothing_locked` — without the execution lock nobody is invoked.

## Design notes

Who listens is told by what has happened to the tables, not by the tables themselves: an event that
is dispatched later finds those that have been registered since, in their order, whoever has
registered them. The pairs of a dispatch are never released in its course, since that takes a sweep
and a sweep is a message of its own.
-/

namespace ScriptHost

/-! ## Who listens -/

namespace Turnover

variable {event : String} {pair : Pair} {h h' : List Turnover}

/-- The pair that comes to listen for an event. -/
def joins? (event : String) : Turnover → Option Pair
  | .listened other pair => if other = event then some pair else none
  | _ => none

/-- The pairs that have come to listen for an event since nobody did, in that order. -/
def attending (event : String) (h : List Turnover) : List Pair :=
  (h.rtakeWhile fun x => !x.silences event).filterMap (joins? event)

theorem attending_concat (h : List Turnover) (x : Turnover) :
    attending event (h ++ [x]) =
      if x.silences event then [] else attending event h ++ (x.joins? event).toList := by
  cases silenced : x.silences event with
  | true => simp [attending, silenced]
  | false =>
    simp only [attending, List.rtakeWhile_concat, silenced, Bool.not_false, if_true,
      List.filterMap_append, Bool.false_eq_true, if_false]
    cases joined : x.joins? event <;> simp [joined]

/-- Whoever has come to listen stays until the event is silenced, and others come behind. -/
theorem attending_append (h h' : List Turnover) :
    attending event (h ++ h') =
      (if h'.any (silences event) then [] else attending event h) ++ attending event h' := by
  induction h' using List.reverseRecOn with
  | nil => simp [attending]
  | append_singleton rest x ih =>
    rw [← List.append_assoc, attending_concat, attending_concat, ih]
    cases silenced : x.silences event with
    | true => simp [silenced]
    | false => simp [silenced]

theorem mem_of_attending (mem : pair ∈ attending event h) : .listened event pair ∈ h := by
  obtain ⟨x, among, joins⟩ := List.mem_filterMap.1 mem
  have listened : x = .listened event pair := by
    unfold joins? at joins
    split at joins
    · next other pair' =>
      split at joins
      · next same =>
        cases joins
        rw [same]
      · cases joins
    · cases joins
  exact listened ▸ (List.rtakeWhile_suffix _ _).subset among

/-- What concerns neither the event nor all events changes nothing. -/
theorem attending_quiet (quiet : ∀ x ∈ h', x.silences event = false ∧ x.joins? event = none) :
    attending event (h ++ h') = attending event h := by
  have unsilenced : h'.any (silences event) = false := by
    simpa using fun x mem => (quiet x mem).1
  have none : attending event h' = [] :=
    List.filterMap_eq_nil_iff.2 fun x mem =>
      (quiet x ((List.rtakeWhile_suffix _ _).subset mem)).2
  rw [attending_append, unsilenced, none, if_neg Bool.false_ne_true, List.append_nil]

/-- Of the listeners that are still registered, those of one event. -/
theorem standing_attending (event : String) (h : List Turnover) :
    ((standing h).filter (·.1 = event)).map Prod.snd = attending event h := by
  induction h using List.reverseRecOn with
  | nil => simp [standing, attending]
  | append_singleton rest x ih =>
    -- What the last happening leaves of the listeners before it, and whom it brings.
    have before : ((standing rest).filter (!x.silences ·.1)).filter (·.1 = event) =
        if x.silences event then [] else (standing rest).filter (·.1 = event) := by
      rw [List.filter_filter]
      split
      · next silenced =>
        apply List.filter_eq_nil_iff.2
        intro entry _ same
        simp only [Bool.and_eq_true, decide_eq_true_eq, Bool.not_eq_true'] at same
        rw [same.1, silenced] at same
        cases same.2
      · next heard =>
        apply List.filter_congr
        intro entry _
        by_cases same : entry.1 = event <;> simp [same, heard]
    have behind : ((standing [x]).filter (·.1 = event)).map Prod.snd =
        if x.silences event then [] else (x.joins? event).toList := by
      cases x with
      | listened other pair =>
        by_cases same : other = event <;> simp [standing, silences, joins?, same]
      | _ => simp [standing, silences, joins?]
    have one : (standing rest).filter (fun entry => !(List.any [x] (silences entry.1))) =
        (standing rest).filter (!x.silences ·.1) := by simp
    rw [standing_append, one, List.filter_append, before, List.map_append, behind,
      attending_concat, ← ih]
    split <;> rfl

end Turnover

namespace Listeners

/-- The pairs of one event in a table that has been put together one by one. -/
theorem lookup_grouped (entries : List (String × Pair)) (event : String) :
    ((grouped entries).lookup event).getD [] = (entries.filter (·.1 = event)).map Prod.snd := by
  by_cases mem : event ∈ (entries.map Prod.fst).eraseDups
  · rw [grouped, List.lookup_graph _ mem]
    rfl
  · have absent : (grouped entries).lookup event = none := by
      refine List.lookup_eq_none_iff.2 fun entry grouped => ?_
      obtain ⟨other, among, rfl⟩ := List.mem_map.1 grouped
      exact bne_iff_ne.2 fun same => mem (same ▸ among)
    have none : entries.filter (·.1 = event) = [] := by
      refine List.filter_eq_nil_iff.2 fun entry among same => mem ?_
      have same : entry.1 = event := of_decide_eq_true same
      exact List.mem_eraseDups.2 (same ▸ List.mem_map_of_mem among)
    rw [absent, none]
    rfl

end Listeners

namespace Ledger.Balanced

variable {fired : Option Timer} {hand : List Pair} {b : Ledger}

theorem of_nodup (h : b.Balanced fired hand) (event : String) : (b.listeners.of event).Nodup :=
  have apart := (all_off_perm h.events event).nodup_iff.2 h.listeners_nodup
  (List.nodup_append.1 apart).1

/-- Whoever has listened for an event that is silenced listens for no other. -/
theorem not_of_off (h : b.Balanced fired hand) {gone event : String} {pair : Pair}
    (mem : pair ∈ b.listeners.of gone) : pair ∉ (b.listeners.off gone).of event := by
  have apart := (all_off_perm h.events gone).nodup_iff.2 h.listeners_nodup
  intro still
  exact (List.nodup_append.1 apart).2.2 pair mem pair (Listeners.of_subset_all _ _ still) rfl

end Ledger.Balanced

/-! ## Code that does something about listeners -/

namespace Action

mutual

/-- Whether an action registers or removes listeners of an event. What it has done later is no part
of it. -/
def concerns (event : String) : Action → Bool
  | .on _ other _ | .off _ other => other = event
  | .observe _ actions | .guarded actions => concern event actions
  | _ => false

/-- Whether one of these actions registers or removes listeners of an event. -/
def concern (event : String) : List Action → Bool
  | [] => false
  | a :: rest => a.concerns event || concern event rest

end

end Action

/-- A callback registers or removes listeners of an event, one of the times that it is invoked. -/
def Program.Concerns (p : Program) (callback : UInt64) (event : String) : Prop :=
  ∃ before, Action.concern event (p.callbackActions callback before) = true

namespace Session

variable {s t u : Session} {thread : Thread} {h : List Turnover} {event : String} {pair : Pair}
  {base pairs : List Pair} {concerned : String → Prop} {value : Json.Value}

theorem Tabled.of (tabled : s.Tabled h) (event : String) :
    s.listeners.of event = Turnover.attending event h := by
  rw [Listeners.of, tabled.listeners, Listeners.lookup_grouped, Turnover.standing_attending]

namespace Rearranged

section
variable (s)

theorem emit (event : String) (value : Json.Value) :
    Rearranged base concerned s (s.emit event value).2 := by
  unfold Session.emit
  split <;> exact .quiet rfl rfl rfl

theorem registerModule (name : String) :
    Rearranged base concerned s (s.registerModule name).2 := by
  unfold Session.registerModule
  split
  · exact .refl s
  · split <;> exact .quiet rfl rfl rfl

theorem postWork (delay : Nat) (work : Work) :
    Rearranged base concerned s (s.postWork delay work).2 := by
  unfold Session.postWork
  split
  · exact .refl s
  · split <;> exact .quiet rfl rfl rfl

theorem sweepNow : Rearranged base concerned s s.sweepNow.2 := by
  unfold Session.sweepNow
  split <;> exact .quiet rfl rfl rfl

theorem ask (message : Nat → Message) : Rearranged base concerned s (s.ask message).2 := by
  have posted : Rearranged base concerned s (s.post (message s.nextQuery)).2 := .quiet rfl rfl rfl
  unfold Session.ask
  split
  · exact .refl s
  · dsimp only
    split
    · next heq => rw [heq] at posted; exact posted.trans (.quiet rfl rfl rfl)
    · next heq => rw [heq] at posted; exact posted

theorem askShutdown : Rearranged base concerned s s.askShutdown.2 := by
  have begun : Rearranged base concerned s (s.beginShutdown (some s.nextQuery)).2 := shutdown s _
  unfold Session.askShutdown
  dsimp only
  split
  · next heq => rw [heq] at begun; exact begun.trans (.quiet rfl rfl rfl)
  · next heq => rw [heq] at begun; exact begun

theorem askFrom (thread : Thread) {ask : Session → Except Failure Nat × Session}
    (asked : Rearranged base concerned s (ask s).2) :
    Rearranged base concerned s (askFrom thread ask s).2 := by
  unfold Session.askFrom
  split
  · exact .refl s
  · split <;> next heq => rw [heq] at asked; exact asked

theorem shutdownFrom (thread : Thread) :
    Rearranged base concerned s (shutdownFrom thread s).2 := by
  have begun : Rearranged base concerned s (s.beginShutdown none).2 := shutdown s _
  have asked : Rearranged base concerned s s.askShutdown.2 := askShutdown s
  unfold Session.shutdownFrom
  split
  · split <;> next heq => rw [heq] at begun; exact begun
  · split <;> next heq => rw [heq] at asked; exact asked

theorem beginScript (key source name : String) :
    Rearranged base concerned s (s.beginScript key source name).2 := by
  have asked : Rearranged base concerned s (s.askScript source name).2 := ask s _
  unfold Session.beginScript
  split
  · next heq => rw [heq] at asked; exact asked.trans (.quiet rfl rfl rfl)
  · next heq => rw [heq] at asked; exact asked

theorem scriptResult (key : String) : Rearranged base concerned s (s.scriptResult key).2 := by
  unfold Session.scriptResult
  split
  · exact .refl s
  · split <;> exact .quiet rfl rfl rfl

end

end Rearranged

mutual

/-- An action rearranges the listeners of the events that it concerns, and of no others. -/
theorem perform_rearranged (thread : Thread) :
    (a : Action) → (s : Session) → base ⊆ s.custody.live →
      (∀ event, a.concerns event = true → concerned event) →
      Rearranged base concerned s (perform .nowhere thread a s).2
  | .on door event pair, s, sub, all =>
    .listen s door pair sub (all event (by simp [Action.concerns]))
  | .off door event, s, _, all => .unlisten s door (all event (by simp [Action.concerns]))
  | .observe tag actions, s, sub, all => by
    have told : Rearranged base concerned s
        (play .nowhere thread actions (s.note (.observer tag thread))).2 :=
      (play_rearranged thread actions (s.note (.observer tag thread)) sub all).after rfl rfl rfl
    unfold perform
    cases s.readiness.ready with
    | false => exact .quiet rfl rfl rfl
    | true => exact told.trans (.quiet rfl rfl rfl)
  | .guarded body, s, sub, all => by
    unfold perform
    split
    · exact .refl s
    next t take =>
      obtain ⟨-, -, rfl⟩ := takeLock_eq_ok.1 take
      have inner : Rearranged base concerned s
          (collect EngineAccess.nowhere.inside thread body { s with lock := ⟨some thread⟩ }).2 :=
        (collect_rearranged thread body { s with lock := ⟨some thread⟩ } sub all).after rfl rfl rfl
      split <;> next heq => rw [heq] at inner; exact inner.trans (.quiet rfl rfl rfl)
  | .leakLock, s, _, _ => by
    unfold perform
    split
    · exact .refl s
    next t take =>
      obtain ⟨-, -, rfl⟩ := takeLock_eq_ok.1 take
      exact .quiet rfl rfl rfl
  | .schedule door pair delay recurring, s, _, _ => .schedule s door pair delay recurring
  | .cancel door timer, s, _, _ => .cancel s door timer
  | .tick door noThreads tag actions, s, _, _ => .enqueue s door noThreads ⟨tag, actions⟩
  | .request door noThreads order, s, _, _ =>
    (Rearranged.requests s).issue door noThreads order (.refl s)
  | .emit event value, s, _, _ => .emit s event value
  | .emitFlag event value, s, _, _ => .emit s event (.bool value)
  | .register name, s, _, _ => .registerModule s name
  | .post tag delay actions, s, _, _ => .postWork s delay ⟨tag, actions⟩
  | .pause, s, _, _ => (Rearranged.sweeps s).pause (.refl s)
  | .unpause, s, _, _ => (Rearranged.sweeps s).unpause (.refl s)
  | .sweep, s, _, _ => .sweepNow s
  | .unobserve _, _, _, _ => .quiet rfl rfl rfl
  | .release key, s, _, _ => (Rearranged.requests s).release key (.refl s)
  | .script source name, s, _, _ => .askFrom s thread (.ask s _)
  | .require path, s, _, _ => .askFrom s thread (.ask s _)
  | .shutdown, s, _, _ => .shutdownFrom s thread
  | .beginScript key source name, s, _, _ => .beginScript s key source name
  | .scriptResult key, s, _, _ => .scriptResult s key
  | .callScript _ _, s, _, _ | .callBack _ _, s, _, _ | .phase _, s, _, _ | .locale _, s, _, _
  | .isTimerLive _, s, _, _ | .readiness, s, _, _ | .awaitReady, s, _, _ | .interval, s, _, _
  | .statistics, s, _, _ | .fail _, s, _, _ | .panic, s, _, _ => .refl s

theorem play_rearranged (thread : Thread) :
    (actions : List Action) → (s : Session) → base ⊆ s.custody.live →
      (∀ event, Action.concern event actions = true → concerned event) →
      Rearranged base concerned s (play .nowhere thread actions s).2
  | [], s, _, _ => .refl s
  | a :: rest, s, sub, all => by
    have first := perform_rearranged thread a s sub fun event one =>
      all event (by simp [Action.concern, one])
    unfold play
    split
    · next reply t heq =>
      rw [heq] at first
      have noted : Rearranged base concerned s (t.note (.did a.name reply)) :=
        first.trans (.quiet rfl rfl rfl)
      exact noted.trans (play_rearranged thread rest _ (noted.live sub) fun event one =>
        all event (by simp [Action.concern, one]))
    · next heq => rw [heq] at first; exact first
    · next heq => rw [heq] at first; exact first

theorem collect_rearranged (thread : Thread) :
    (actions : List Action) → (s : Session) → base ⊆ s.custody.live →
      (∀ event, Action.concern event actions = true → concerned event) →
      Rearranged base concerned s (collect .nowhere thread actions s).2
  | [], s, _, _ => .refl s
  | a :: rest, s, sub, all => by
    have first := perform_rearranged thread a s sub fun event one =>
      all event (by simp [Action.concern, one])
    unfold collect
    split
    · next reply t heq =>
      rw [heq] at first
      have others := collect_rearranged thread rest t (first.live sub) fun event one =>
        all event (by simp [Action.concern, one])
      split <;> next heq => rw [heq] at others; exact first.trans others
    · next heq => rw [heq] at first; exact first

end

theorem invoke_rearranged (s : Session) (thread : Thread) (pair : Pair)
    (arguments : List Json.Value) (sub : base ⊆ s.custody.live)
    (all : ∀ event, s.program.Concerns pair.callback event → concerned event) :
    Rearranged base concerned s (s.invoke thread pair arguments).2 := by
  let before := s.invoked pair.callback
  let noted : Session := { s.note (.invoke pair arguments thread) with
    invocations := (pair.callback, before + 1) :: s.invocations.filter (·.1 != pair.callback) }
  have played : Rearranged base concerned s
      (play .nowhere thread (s.program.callbackActions pair.callback before) noted).2 :=
    (play_rearranged thread _ noted sub fun event one => all event ⟨before, one⟩).after rfl rfl rfl
  show Rearranged base concerned s (playScripted thread
    (s.program.callbackActions pair.callback before) noted).2
  unfold playScripted
  split <;> next heq => rw [heq] at played; exact played

/-- Code does not change what the engine is programmed to do. -/
theorem Deeds.program (d : Deeds thread s t) : t.program = s.program :=
  congrArg Stage.program d.fixed_eq

/-- Code takes no pair out of custody. -/
theorem Deeds.kept (d : Deeds thread s t) : s.custody.live ⊆ t.custody.live := by
  obtain ⟨_, -, -, kept⟩ := d.rearranged
  exact kept

/-! ## One after the other -/

/-- The engine invokes some pairs, one after the other, each where the one before it has left off
and whatever has come of it. -/
def summon (value : Json.Value) (pairs : List Pair) (s : Session) : Session :=
  pairs.foldl (fun s pair => (s.invoke .loop pair [value]).2) s

theorem summon_deeds (value : Json.Value) (pairs : List Pair) (s : Session) :
    Deeds .loop s (summon value pairs s) := by
  induction pairs generalizing s with
  | nil => exact .none s
  | cons pair rest ih => exact (invoke_deeds .loop pair [value] s).trans (ih _)

/-- None of the pairs is refused: whatever the others do, they are in custody when it is their
turn. -/
theorem foldl_invokeLive (value : Json.Value) (sub : pairs ⊆ s.custody.live) :
    pairs.foldl (fun s pair => (s.invokeLive .loop pair [value]).2) s = summon value pairs s := by
  induction pairs generalizing s with
  | nil => rfl
  | cons pair rest ih =>
    obtain ⟨live, sub⟩ := List.cons_subset.1 sub
    -- The first pair may have the others removed, but then they are in line and in custody still.
    have first : (s.invokeLive .loop pair [value]).2 = (s.invoke .loop pair [value]).2 := by
      simp [invokeLive, Custody.isLive, live]
    have later := ih (List.Subset.trans sub (invoke_deeds .loop pair [value] s).kept)
    rw [List.foldl_cons, first, later]
    rfl

/-- Whoever is invoked invokes nobody, and the others follow. -/
theorem summon_log (value : Json.Value) (pairs : List Pair) (s : Session) :
    ∃ entries, (summon value pairs s).log = entries ++ s.log ∧
      entries.reverse.filter Entry.isInvoke = pairs.map fun pair => .invoke pair [value] .loop := by
  induction pairs generalizing s with
  | nil => exact ⟨[], rfl, rfl⟩
  | cons pair rest ih =>
    obtain ⟨first, quiet, log⟩ := s.invoke_log .loop pair [value]
    obtain ⟨others, log', invoked⟩ := ih (s.invoke .loop pair [value]).2
    -- The log has its latest entry first.
    refine ⟨others ++ first ++ [.invoke pair [value] .loop], ?_, ?_⟩
    · rw [show summon value (pair :: rest) s = summon value rest _ from rfl, log', log]
      simp
    · have none : first.reverse.filter Entry.isInvoke = [] :=
        List.filter_eq_nil_iff.2 fun e mem => by simp [quiet e (List.mem_reverse.1 mem)]
      simp [List.filter_cons, invoked, none, Entry.isInvoke]

theorem summon_rearranged (value : Json.Value) (pairs : List Pair) (s : Session)
    (sub : base ⊆ s.custody.live)
    (all : ∀ pair ∈ pairs, ∀ event, s.program.Concerns pair.callback event → concerned event) :
    Rearranged base concerned s (summon value pairs s) := by
  induction pairs generalizing s with
  | nil => exact .refl s
  | cons pair rest ih =>
    have first : Rearranged base concerned s (s.invoke .loop pair [value]).2 :=
      s.invoke_rearranged .loop pair [value] sub (all pair (List.mem_cons_self ..))
    have same := (invoke_deeds .loop pair [value] s).program
    refine first.trans (ih _ (first.live sub) fun other mem => ?_)
    rw [same]
    exact all other (List.mem_cons_of_mem _ mem)

/-! ## A dispatch -/

/-- An event has been dispatched to some pairs. -/
structure Dispatched (value : Json.Value) (pairs : List Pair) (s t : Session) : Prop where
  /-- All of them have been invoked, each where the one before it has left off, whatever has come of
  it. -/
  summoned : t = (summon value pairs { s with lock := ⟨some .loop⟩ }).unlock
  /-- Nobody else has been invoked meanwhile, and nobody twice. -/
  invoked : ∃ entries, t.log = entries ++ s.log ∧
    entries.reverse.filter Entry.isInvoke = pairs.map fun pair => .invoke pair [value] .loop
  /-- The lock is released and the loop goes on. -/
  lock : t.lock = .free
  loop : t.loop = s.loop
  /-- No pair has been released meanwhile. -/
  kept : s.custody.live ⊆ t.custody.live
  /-- Listeners come and go as the invoked code has it: those that have come are none of the pairs,
  and they are behind the others of their event. -/
  turned : ∃ h, TurnsOver s h t ∧
    (∀ x ∈ h, x.Within pairs fun other => ∃ pair ∈ pairs, s.program.Concerns pair.callback other) ∧
    ∀ other, t.listeners.of other =
      (if h.any (Turnover.silences other) then [] else s.listeners.of other) ++
        Turnover.attending other h
  /-- The listeners of an event that the invoked code does not concern are those that they were. -/
  others : ∀ other, (∀ pair ∈ pairs, ¬ s.program.Concerns pair.callback other) →
    t.listeners.of other = s.listeners.of other

/-- What happens while code runs that does not concern an event leaves its listeners alone. -/
theorem attending_within {history : List Turnover}
    (within : ∀ x ∈ h, x.Within base concerned) (apart : ¬ concerned event) :
    Turnover.attending event (history ++ h) = Turnover.attending event history := by
  refine Turnover.attending_quiet fun x mem => ?_
  have within := within x mem
  cases x with
  | listened other pair =>
    have differs : other ≠ event := fun same => apart (same ▸ within.2)
    simp [Turnover.silences, Turnover.joins?, differs]
  | unlistened other =>
    have differs : other ≠ event := fun same => apart (same ▸ within)
    simp [Turnover.silences, Turnover.joins?, differs]
  | swept => cases within
  | cleared => cases within
  | _ => exact ⟨rfl, rfl⟩

theorem unlisten_listeners {door : Door} (admitted : s.admits door = true) (event : String) :
    (s.unlisten door event).2.listeners = s.listeners.off event := by
  have quiet (t : Session) (periodic : Bool) :
      (t.armSweep periodic).listeners = t.listeners := by
    rcases armSweep_cases t periodic with eq | eq | ⟨-, eq⟩ <;> rw [eq]
    rfl
  simp only [unlisten, admitted, Bool.not_true, Bool.false_eq_true, if_false]
  split
  · rfl
  · exact quiet _ _

/-- With the lock free whoever listens for an event is invoked. -/
theorem dispatchEvent_eq (free : s.lock = .free) (sub : s.listeners.of event ⊆ s.custody.live)
    (value : Json.Value) :
    s.dispatchEvent event value =
      some (summon value (s.listeners.of event) { s with lock := ⟨some .loop⟩ }).unlock := by
  unfold dispatchEvent
  dsimp only
  split
  · -- For an event without listeners the lock is not even asked for.
    next empty =>
    have unlocked : s = unlock { s with lock := ⟨some .loop⟩ } := by
      show s = { s with lock := Lock.free }
      rw [← free]
    rw [List.isEmpty_iff.1 empty]
    exact congrArg some unlocked
  · have all := foldl_invokeLive (s := { s with lock := ⟨some .loop⟩ }) value sub
    rw [withEngine_free free, all]

theorem Tabled.dispatched {history : List Turnover} (tabled : s.Tabled history)
    (free : s.lock = .free) (sub : s.listeners.of event ⊆ s.custody.live) (value : Json.Value) :
    ∃ t, s.dispatchEvent event value = some t ∧
      Dispatched value (s.listeners.of event) s t := by
  let held : Session := { s with lock := ⟨some .loop⟩ }
  let pairs := s.listeners.of event
  have deeds := summon_deeds value pairs held
  have summoned : Rearranged pairs
      (fun other => ∃ pair ∈ pairs, s.program.Concerns pair.callback other) s
      (summon value pairs held) :=
    (summon_rearranged value pairs held sub fun pair mem _ one => ⟨pair, mem, one⟩).after
      rfl rfl rfl
  have unlocked := summoned.trans (u := (summon value pairs held).unlock) (.quiet rfl rfl rfl)
  obtain ⟨h, turned, within, kept⟩ := unlocked
  have later := turned.tabled tabled
  rw [dispatchEvent_eq free sub]
  refine ⟨_, rfl, rfl, summon_log value pairs held, rfl, deeds.loop, kept,
    ⟨h, turned, within, ?_⟩, ?_⟩
  · intro other
    rw [later.of, Turnover.attending_append, tabled.of]
  · intro other apart
    rw [later.of, tabled.of]
    exact attending_within within fun ⟨pair, mem, one⟩ => apart pair mem one

end Session

/-! ## The course of a session -/

namespace Moment

open Session (Spawned TurnsOver)

variable {s : Session}

/-- When the loop comes to an event and nobody has taken the execution lock and kept it, the pairs
that have come to listen for it since nobody did are invoked with its value, in that order, each of
them once, whatever comes of the others and whatever they do about timers, events and listeners.
Whoever has listened when the listeners of some event were removed is among them only if it has come
to listen again later. -/
theorem Arises.dispatches_in_order {event : String} {value : Json.Value} {lanes : Lanes Message}
    (h : Arises ⟨s, .nothing⟩) (free : s.lock = .free) :
    (∃ origin history, Spawned origin ∧ TurnsOver origin history s) ∧
    ∀ {origin history}, Spawned origin → TurnsOver origin history s →
      (Turnover.attending event history).Nodup ∧
      (∀ bound, ∃ t, ({ s with lanes } : Session).handle bound (.emit event value) = some t ∧
        Session.Dispatched value (Turnover.attending event history) { s with lanes } t) ∧
      ∀ {u doing door} (gone : String), Arises ⟨u, doing⟩ → u.admits door = true →
        Leads ⟨(u.unlisten door gone).2, doing⟩ ⟨s, .nothing⟩ →
        (∃ later, TurnsOver (u.unlisten door gone).2 later s) ∧
        ∀ {later}, TurnsOver (u.unlisten door gone).2 later s → ∀ pair ∈ u.listeners.of gone,
          pair ∈ Turnover.attending event history → .listened event pair ∈ later := by
  refine ⟨h.turnover, fun {origin history} spawned turned => ?_⟩
  have tabled := turned.tabled_spawned spawned
  have balanced := h.occurs.balanced.balanced
  rw [← tabled.of event]
  refine ⟨balanced.of_nodup event, fun bound => ?_, ?_⟩
  · have sub : s.listeners.of event ⊆ s.custody.live := fun _ mem =>
      balanced.listeners_live (s.listeners.of_subset_all event mem)
    have taken : ({ s with lanes } : Session).Tabled history :=
      tabled.same rfl rfl (.refl _) rfl
    exact taken.dispatched free sub value
  · intro u doing door gone arises admitted leads
    obtain ⟨marks, chronicle⟩ := leads
    refine ⟨chronicle.turned, fun {later} behind pair listens still => ?_⟩
    obtain ⟨first, before, began, up⟩ := arises.turnover
    have removed := up.trans (.unlistened admitted gone)
    -- Right behind the removal the pair listens for no event at all.
    have silent : pair ∉ (u.unlisten door gone).2.listeners.of event := by
      rw [Session.unlisten_listeners admitted gone]
      exact arises.occurs.balanced.balanced.not_of_off listens
    rw [(removed.tabled_spawned began).of] at silent
    rw [((removed.trans behind).tabled_spawned began).of, Turnover.attending_append] at still
    -- So it listens again because of what has happened since.
    rcases List.mem_append.1 still with old | new
    · split at old
      · cases old
      · exact absurd old silent
    · exact Turnover.mem_of_attending new

/-- The first callback removes the listeners of its event, itself among them, has another pair
listen for it, and posts the event again; the second one fails, and the third one panics. -/
def restless : Program where
  bringUp := []
  scripts := []
  callbacks :=
    [(1, [[.off .context "e", .on .context "e" ⟨4, 4⟩, .cancel .context 0, .emit "e" .null]]),
     (2, [[.fail "no"]]), (3, [[.panic]])]
  failDispose := []
  panicDispose := []
  hasTransport := false

/-- The host removes the listeners of an event, has others listen for it and for another one, and
emits it. -/
def resumed (u : Session) : Session :=
  let actions : List Action := [.on .handle "f" ⟨5, 5⟩, .on .handle "e" ⟨1, 1⟩,
    .on .handle "e" ⟨2, 2⟩, .on .handle "e" ⟨3, 3⟩, .emit "e" .null]
  (Session.play .nowhere .host actions (u.unlisten .handle "e").2).2

/-- The pairs that entries of the log say were invoked, the first ones first. -/
def invocations (log : List Entry) : List Pair :=
  log.reverse.filterMap fun
    | .invoke pair _ _ => some pair
    | _ => none

/-- Whether a message is the emission of an event without a value. -/
def isSignal (event : String) : Message → Bool
  | .emit other .null => other = event
  | _ => false

theorem eq_of_isSignal {event : String} {m : Message} (h : isSignal event m = true) :
    m = .emit event .null := by
  unfold isSignal at h
  split at h
  · rw [of_decide_eq_true h]
  · cases h

/-- A pair listens before, and no longer when the event is dispatched. -/
theorem dispatches_in_order_restless :
    ∃ u t : Session, ∃ lanes later, Arises ⟨resumed u, .nothing⟩ ∧
      u.listeners.of "e" = [⟨7, 7⟩] ∧ TurnsOver (u.unlisten .handle "e").2 later (resumed u) ∧
      (resumed u).lanes.next? = some (.emit "e" .null, lanes) ∧ (resumed u).lock = .free ∧
      ({ resumed u with lanes } : Session).handle 0 (.emit "e" .null) = some t ∧
      t.lock = .free ∧ invocations t.log = [⟨1, 1⟩, ⟨2, 2⟩, ⟨3, 3⟩] ∧
      t.listeners.of "e" = [⟨4, 4⟩] ∧ t.listeners.of "f" = [⟨5, 5⟩] := by
  obtain ⟨v, start, found⟩ := (Option.any_eq_true _ _).1 (by decide +kernel :
    ((Session.plain restless).start 50).any (fun v =>
      (v.stepAll 50 [.act (.on .handle "e" ⟨7, 7⟩)]).any fun played =>
        decide (played.2.listeners.of "e" = [⟨7, 7⟩] ∧ played.2.admits .handle = true ∧
          (resumed played.2).lock = .free) &&
        (resumed played.2).lanes.next?.any fun entry => isSignal "e" entry.1 &&
          (({ resumed played.2 with lanes := entry.2 } : Session).handle 0 (.emit "e" .null)).any
            fun t => decide (invocations t.log = [⟨1, 1⟩, ⟨2, 2⟩, ⟨3, 3⟩] ∧
              t.listeners.of "e" = [⟨4, 4⟩] ∧ t.listeners.of "f" = [⟨5, 5⟩])) = true)
  obtain ⟨⟨reports, u⟩, played, found⟩ := (Option.any_eq_true _ _).1 found
  obtain ⟨before, found⟩ := Bool.and_eq_true_iff.1 found
  obtain ⟨listens, admitted, free⟩ := of_decide_eq_true before
  obtain ⟨⟨m, lanes⟩, next, found⟩ := (Option.any_eq_true _ _).1 found
  obtain ⟨signal, found⟩ := Bool.and_eq_true_iff.1 found
  obtain rfl := eq_of_isSignal signal
  have fresh := Session.plain_fresh restless
  have arises : Arises ⟨u, .nothing⟩ := fresh.arises.leads (fresh.course_tapes start played).leads
  have removed : Leads ⟨u, .nothing⟩ ⟨(u.unlisten .handle "e").2, .nothing⟩ :=
    (Leads.refl _).code (@Session.Deeds.unlisten .host u .handle "e")
  have resumes : Leads ⟨(u.unlisten .handle "e").2, .nothing⟩ ⟨resumed u, .nothing⟩ :=
    (Leads.refl _).code (Session.play_deeds EngineAccess.all_nowhere _ _ _)
  have resumed := arises.leads (removed.trans resumes)
  obtain ⟨⟨origin, history, spawned, turned⟩, dispatches⟩ :=
    @Arises.dispatches_in_order _ "e" .null lanes resumed free
  obtain ⟨-, ends, silenced⟩ := dispatches spawned turned
  obtain ⟨t, handled, dispatched⟩ := ends 0
  obtain ⟨⟨later, behind⟩, -⟩ := silenced "e" arises admitted resumes
  rw [handled] at found
  exact ⟨u, t, lanes, later, resumed, listens, behind, next, free, handled, dispatched.lock,
    of_decide_eq_true found⟩

/-- An observer has taken the execution lock and kept it. A pair listens, and is not invoked when
its event comes. -/
theorem dispatches_nothing_locked : ∃ s t : Session, ∃ value lanes,
    Arises ⟨s, .nothing⟩ ∧ s.lanes.next? = some (.emit "e" value, lanes) ∧
      ({ s with lanes } : Session).handle 0 (.emit "e" value) = some t ∧
      s.listeners.of "e" = [⟨1, 2⟩] ∧ t.listeners.of "e" = [⟨1, 2⟩] ∧
      invocations t.log = [] := by
  obtain ⟨s, start, found⟩ := (Option.any_eq_true _ _).1 (by decide +kernel :
    (Session.leaking.start 50).any (fun s =>
      (s.stepAll 50 [.act (.on .handle "e" ⟨1, 2⟩), .act (.emit "e" .null)]).any fun played =>
        played.2.lanes.next?.any fun entry => isSignal "e" entry.1 &&
          (({ played.2 with lanes := entry.2 } : Session).handle 0 (.emit "e" .null)).any fun t =>
            decide (played.2.listeners.of "e" = [⟨1, 2⟩] ∧ t.listeners.of "e" = [⟨1, 2⟩] ∧
              invocations t.log = [])) = true)
  obtain ⟨⟨reports, u⟩, played, found⟩ := (Option.any_eq_true _ _).1 found
  obtain ⟨⟨m, lanes⟩, next, found⟩ := (Option.any_eq_true _ _).1 found
  obtain ⟨signal, found⟩ := Bool.and_eq_true_iff.1 found
  obtain rfl := eq_of_isSignal signal
  obtain ⟨t, handled, found⟩ := (Option.any_eq_true _ _).1 found
  have fresh : Session.Fresh Session.leaking :=
    Session.earlySteps_fresh _ (Session.plain_fresh _)
  have arises := fresh.arises.leads (fresh.course_tapes start played).leads
  exact ⟨u, t, .null, lanes, arises, next, handled, of_decide_eq_true found⟩

end Moment
end ScriptHost
