import ScriptHost.Proofs.Chronicled
import ScriptHost.Proofs.Graveyard

/-!
# The turnover of the tables

The last message empties the tables of timers and listeners into the line for its sweep. In which
order pairs come out then is a matter of the order in which everything has been put into the tables
and taken out of them before.

## Main definitions

* `Turnover` — what happens to the tables and to the line.
* `Turnover.standing` — the listeners that are still registered, in the order of registration.
* `Turnover.listening` — the same, event by event; `Turnover.line` — the pairs in line.
* `Session.TurnsOver` — what has happened on the way from one state to another.

## Main statements

* `Session.TurnsOver.tabled_spawned` — the tables are what has happened to them.
* `Moment.Arises.turnover` — something has happened to those of every session.
-/

namespace ScriptHost

/-! ## Grouping by event -/

namespace Listeners

/-- Registrations one by one, in their order, put into a table: event by event, the events by their
first registration, and the pairs of each as they have come. -/
def grouped (entries : List (String × Pair)) : List (String × List Pair) :=
  (entries.map Prod.fst).eraseDups.map fun event =>
    (event, (entries.filter (·.1 = event)).map Prod.snd)

/-- A pair is added in place to a table whose entries are those of some events. -/
theorem insert_map {event : String} {pair : Pair} {events : List String}
    {pairs : String → List Pair} (nodup : events.Nodup)
    (fresh : event ∉ events → pairs event = []) :
    insert event pair (events.map fun e => (e, pairs e)) =
      (if events.contains event then events else events ++ [event]).map fun e =>
        (e, if e = event then pairs e ++ [pair] else pairs e) := by
  induction events with
  | nil => simp [insert, fresh]
  | cons e rest ih =>
    obtain ⟨other, nodup⟩ := List.nodup_cons.1 nodup
    by_cases same : e = event
    · subst same
      have others : rest.map (fun x => (x, if x = e then pairs x ++ [pair] else pairs x)) =
          rest.map fun x => (x, pairs x) := by
        refine List.map_congr_left fun x mem => ?_
        have ne : x ≠ e := fun eq => other (eq ▸ mem)
        simp [ne]
      simp [insert, others]
    · have ih := ih nodup fun absent => fresh (by simpa [Ne.symm same] using absent)
      simp only [List.map_cons, insert, same, if_false, ih]
      by_cases mem : event ∈ rest <;> simp [mem, same, Ne.symm same]

theorem grouped_concat (entries : List (String × Pair)) (event : String) (pair : Pair) :
    grouped (entries ++ [(event, pair)]) = insert event pair (grouped entries) := by
  have fresh : event ∉ (entries.map Prod.fst).eraseDups →
      (entries.filter (·.1 = event)).map Prod.snd = [] := by
    intro absent
    have none : entries.filter (·.1 = event) = [] := by
      refine List.filter_eq_nil_iff.2 fun entry mem same => absent ?_
      have same : entry.1 = event := by simpa using same
      exact List.mem_eraseDups.2 (same ▸ List.mem_map_of_mem mem)
    rw [none, List.map_nil]
  have same : (entries.map Prod.fst).eraseDups.contains event =
      (entries.map Prod.fst).contains event := by
    simp
  rw [grouped, grouped, insert_map (eraseDups_nodup _) fresh, List.map_append, List.map_cons,
    List.map_nil, eraseDups_concat, same]
  refine List.map_congr_left fun e _ => ?_
  by_cases eq : event = e
  · simp [eq]
  · simp [eq, Ne.symm eq]

theorem grouped_filter (entries : List (String × Pair)) (event : String) :
    grouped (entries.filter (·.1 ≠ event)) = (grouped entries).filter (·.1 ≠ event) := by
  have events : ((entries.filter (·.1 ≠ event)).map Prod.fst).eraseDups =
      (entries.map Prod.fst).eraseDups.filter (· ≠ event) := by
    rw [← eraseDups_filter, List.filter_map]
    rfl
  rw [grouped, grouped, events, List.filter_map]
  refine List.map_congr_left fun e mem => ?_
  have other : e ≠ event := by simpa using (List.mem_filter.1 mem).2
  rw [List.filter_filter]
  congr 2
  refine List.filter_congr fun entry _ => ?_
  by_cases eq : entry.1 = e
  · simp [eq, other]
  · simp [eq]

end Listeners

/-! ## What happens to the tables -/

/-- What happens to the tables of timers and listeners, and to the line for the next sweep. -/
inductive Turnover where
  | scheduled (id : Nat)
  | listened (event : String) (pair : Pair)
  | unlistened (event : String)
  | buried (pair : Pair)
  /-- The line has been swept. -/
  | swept
  /-- The tables have been emptied. -/
  | cleared
deriving DecidableEq

namespace Turnover

variable {x : Turnover} {h : List Turnover}

/-- Whether nobody listens for an event any more. -/
def silences (event : String) : Turnover → Bool
  | .unlistened other => other = event
  | .cleared => true
  | _ => false

/-- What may happen while code runs and some pairs are in custody: nothing is swept and no table
emptied, none of these pairs comes to listen, and of some events only the listeners come and go. -/
def Within (base : List Pair) (concerned : String → Prop) : Turnover → Prop
  | .scheduled _ | .buried _ => True
  | .listened event pair => pair ∉ base ∧ concerned event
  | .unlistened event => concerned event
  | .swept | .cleared => False

/-- The listeners that are still registered, in the order of registration. -/
def standing : List Turnover → List (String × Pair)
  | [] => []
  | .listened event pair :: rest =>
    if rest.any (silences event) then standing rest else (event, pair) :: standing rest
  | _ :: rest => standing rest

/-- The pairs that listen, event by event: the events by their first registration that still stands,
and the pairs of each in the order of registration. -/
def listening (h : List Turnover) : List Pair := (Listeners.grouped (standing h)).flatMap (·.2)

/-- What has been buried since the last sweep. -/
def buriedSince : List Turnover → List Pair
  | [] => []
  | .buried pair :: rest => if .swept ∈ rest then buriedSince rest else pair :: buriedSince rest
  | _ :: rest => buriedSince rest

/-- The pairs in line, in the order in which they have been buried. -/
def line (h : List Turnover) : List Pair := (buriedSince h).eraseDups

/-- The numbers under which timers have been scheduled. -/
def numbers (h : List Turnover) : List Nat :=
  h.filterMap fun
    | .scheduled id => some id
    | _ => none

theorem standing_append (h h' : List Turnover) :
    standing (h ++ h') =
      (standing h).filter (fun entry => !h'.any (silences entry.1)) ++ standing h' := by
  induction h with
  | nil => rfl
  | cons x rest ih =>
    cases x with
    | listened event pair =>
      simp only [List.cons_append, standing, List.any_append, Bool.or_eq_true]
      cases rest.any (silences event) <;> cases silenced : h'.any (silences event) <;>
        simp [ih, silenced]
    | _ => exact ih

theorem buriedSince_append (h h' : List Turnover) :
    buriedSince (h ++ h') = (if .swept ∈ h' then [] else buriedSince h) ++ buriedSince h' := by
  induction h with
  | nil => simp [buriedSince]
  | cons x rest ih =>
    cases x with
    | buried pair =>
      simp only [List.cons_append, buriedSince, List.mem_append]
      by_cases before : Turnover.swept ∈ rest <;> by_cases behind : Turnover.swept ∈ h' <;>
        simp [ih, before, behind]
    | _ => exact ih

/-- What does not concern the listeners. -/
theorem standing_concat (quiet : ∀ event, silences event x = false) (other : standing [x] = []) :
    standing (h ++ [x]) = standing h := by
  simp [standing_append, quiet, other]

/-- What does not concern the line. -/
theorem line_concat (quiet : x ≠ .swept) (other : buriedSince [x] = []) :
    line (h ++ [x]) = line h := by
  simp [line, buriedSince_append, Ne.symm quiet, other]

/-- What does not concern the timers. -/
theorem numbers_concat (quiet : numbers [x] = []) : numbers (h ++ [x]) = numbers h := by
  rw [numbers, List.filterMap_append]
  exact (congrArg _ quiet).trans (List.append_nil _)

theorem standing_unlistened (h : List Turnover) (event : String) :
    standing (h ++ [.unlistened event]) = (standing h).filter (·.1 ≠ event) := by
  simp only [standing_append, standing, List.any_cons, List.any_nil, silences, Bool.or_false,
    List.append_nil]
  exact List.filter_congr fun entry _ => by simp [eq_comm]

theorem line_buried (h : List Turnover) (pair : Pair) :
    line (h ++ [.buried pair]) =
      if (line h).contains pair then line h else line h ++ [pair] := by
  have since : buriedSince (h ++ [.buried pair]) = buriedSince h ++ [pair] := by
    simp [buriedSince_append, buriedSince]
  have same : (line h).contains pair = (buriedSince h).contains pair := by
    simp [line]
  rw [same, line, since, eraseDups_concat]
  rfl

end Turnover

namespace Session

variable {s t u : Session} {thread : Thread} {h h' : List Turnover}

/-- What has happened to the tables and to the line on the way from one state to another, in that
order. Of timers that leave the table nothing is told. -/
inductive TurnsOver : Session → List Turnover → Session → Prop where
  | same {s t : Session} (listeners : t.listeners = s.listeners)
      (line : t.custody.buried = s.custody.buried)
      (timers : (t.timers.live.map Timer.id).Sublist (s.timers.live.map Timer.id))
      (numbers : t.timers.nextId = s.timers.nextId) : TurnsOver s [] t
  | trans {s t u : Session} {h h' : List Turnover} (d : TurnsOver s h t) (e : TurnsOver t h' u) :
      TurnsOver s (h ++ h') u
  | scheduled {s t : Session} {door : Door} {pair : Pair} {delay id : Nat} {recurring : Bool}
      (accepted : s.schedule door pair delay recurring = (some id, t)) :
      TurnsOver s [.scheduled id] t
  | listened {s t : Session} {door : Door} {event : String} {pair : Pair}
      (accepted : s.listen door event pair = (true, t)) : TurnsOver s [.listened event pair] t
  | unlistened {s : Session} {door : Door} (accepted : s.admits door = true) (event : String) :
      TurnsOver s (.unlistened event :: (s.listeners.of event).map .buried)
        (s.unlisten door event).2
  | buried (s : Session) (pair : Pair) : TurnsOver s [.buried pair] (s.bury pair)
  | swept (s : Session) : TurnsOver s [.swept] s.sweepGraveyard.2
  | cleared (s : Session) :
      TurnsOver s (.cleared :: (s.timers.clear.1.map Timer.pair ++ s.listeners.all).map .buried)
        s.clear

/-- The tables are what has happened to them. -/
structure Tabled (h : List Turnover) (s : Session) : Prop where
  listeners : s.listeners.entries = Listeners.grouped (Turnover.standing h)
  line : s.custody.buried = Turnover.line h
  timers : (s.timers.live.map Timer.id).Sublist (Turnover.numbers h)
  increasing : (Turnover.numbers h).Pairwise (· < ·)
  below : ∀ id ∈ Turnover.numbers h, id < s.timers.nextId

namespace Tabled

theorem same (before : s.Tabled h) (listeners : t.listeners = s.listeners)
    (line : t.custody.buried = s.custody.buried)
    (timers : (t.timers.live.map Timer.id).Sublist (s.timers.live.map Timer.id))
    (numbers : t.timers.nextId = s.timers.nextId) : t.Tabled h where
  listeners := by rw [listeners, before.listeners]
  line := line.trans before.line
  timers := timers.trans before.timers
  increasing := before.increasing
  below := by rw [numbers]; exact before.below

theorem bury (before : s.Tabled h) (pair : Pair) : (s.bury pair).Tabled (h ++ [.buried pair]) := by
  have standing : Turnover.standing (h ++ [.buried pair]) = Turnover.standing h :=
    Turnover.standing_concat (fun _ => rfl) rfl
  have numbers : Turnover.numbers (h ++ [.buried pair]) = Turnover.numbers h :=
    Turnover.numbers_concat rfl
  refine ⟨standing ▸ before.listeners, ?_, numbers ▸ before.timers, numbers ▸ before.increasing,
    numbers ▸ before.below⟩
  rw [Turnover.line_buried, ← before.line]
  unfold Session.bury Custody.bury Custody.isBuried
  dsimp only
  split <;> rfl

theorem buryAll (pairs : List Pair) (before : s.Tabled h) :
    (s.buryAll pairs).Tabled (h ++ pairs.map .buried) := by
  induction pairs generalizing s h with
  | nil =>
    rw [List.map_nil, List.append_nil]
    exact before
  | cons pair rest ih =>
    rw [List.map_cons, List.append_cons]
    exact ih (before.bury pair)

/-- A timer is scheduled under the next number. -/
theorem schedule {door : Door} {pair : Pair} {delay id : Nat} {recurring : Bool}
    (before : s.Tabled h) (accepted : s.schedule door pair delay recurring = (some id, t)) :
    t.Tabled (h ++ [.scheduled id]) := by
  have entered : id = s.timers.nextId ∧ t.listeners = s.listeners ∧
      t.custody.buried = s.custody.buried ∧ t.timers.nextId = id + 1 ∧
      t.timers.live.map Timer.id = s.timers.live.map Timer.id ++ [id] := by
    rcases schedule_ends s door pair delay recurring with refused | ⟨u, -, adopted, entered⟩
    · cases accepted.symm.trans refused
    · obtain ⟨-, rfl⟩ := adopt?_eq_some.1 adopted
      cases accepted.symm.trans entered
      exact ⟨rfl, rfl, rfl, rfl, List.map_append⟩
  obtain ⟨next, listeners, line, nextId, live⟩ := entered
  have standing : Turnover.standing (h ++ [.scheduled id]) = Turnover.standing h :=
    Turnover.standing_concat (fun _ => rfl) rfl
  have since : Turnover.line (h ++ [.scheduled id]) = Turnover.line h :=
    Turnover.line_concat nofun rfl
  have numbers : Turnover.numbers (h ++ [.scheduled id]) = Turnover.numbers h ++ [id] :=
    List.filterMap_append
  refine ⟨?_, ?_, ?_, ?_, ?_⟩
  · rw [listeners, standing]
    exact before.listeners
  · rw [line, since]
    exact before.line
  · rw [live, numbers]
    exact before.timers.append (.refl _)
  · rw [numbers]
    refine List.pairwise_append.2 ⟨before.increasing, List.pairwise_singleton .., ?_⟩
    intro old mem new last
    rw [List.mem_singleton.1 last, next]
    exact before.below old mem
  · intro number mem
    rw [numbers, List.mem_append, List.mem_singleton] at mem
    rw [nextId]
    rcases mem with old | rfl
    · have below := before.below number old
      omega
    · exact Nat.lt_succ_self _

/-- A pair that listens comes behind the others of its event. -/
theorem listen {door : Door} {event : String} {pair : Pair} (before : s.Tabled h)
    (accepted : s.listen door event pair = (true, t)) :
    t.Tabled (h ++ [.listened event pair]) := by
  have entered : t.listeners = s.listeners.on event pair ∧ t.custody.buried = s.custody.buried ∧
      t.timers = s.timers := by
    unfold Session.listen at accepted
    split at accepted
    · cases accepted
    split at accepted
    · cases accepted
    next u adopted =>
      obtain ⟨-, rfl⟩ := adopt?_eq_some.1 adopted
      cases accepted
      exact ⟨rfl, rfl, rfl⟩
  obtain ⟨listeners, line, timers⟩ := entered
  have standing : Turnover.standing (h ++ [.listened event pair]) =
      Turnover.standing h ++ [(event, pair)] := by
    simp [Turnover.standing_append, Turnover.standing, Turnover.silences]
  have since : Turnover.line (h ++ [.listened event pair]) = Turnover.line h :=
    Turnover.line_concat nofun rfl
  have numbers : Turnover.numbers (h ++ [.listened event pair]) = Turnover.numbers h :=
    Turnover.numbers_concat rfl
  refine ⟨?_, ?_, ?_, numbers ▸ before.increasing, ?_⟩
  · rw [listeners, standing, Listeners.grouped_concat, ← before.listeners]
    rfl
  · rw [line, since]
    exact before.line
  · rw [timers, numbers]
    exact before.timers
  · rw [timers, numbers]
    exact before.below

theorem off (before : s.Tabled h) (event : String) :
    ({ s with listeners := s.listeners.off event } : Session).Tabled
      (h ++ [.unlistened event]) := by
  have since : Turnover.line (h ++ [.unlistened event]) = Turnover.line h :=
    Turnover.line_concat nofun rfl
  have numbers : Turnover.numbers (h ++ [.unlistened event]) = Turnover.numbers h :=
    Turnover.numbers_concat rfl
  refine ⟨?_, since ▸ before.line, numbers ▸ before.timers, numbers ▸ before.increasing,
    numbers ▸ before.below⟩
  rw [Turnover.standing_unlistened, Listeners.grouped_filter, ← before.listeners]
  rfl

theorem sweep (before : s.Tabled h) : s.sweepGraveyard.2.Tabled (h ++ [.swept]) := by
  obtain ⟨released, failures, swept, -⟩ := s.sweepGraveyard_eq
  have standing : Turnover.standing (h ++ [.swept]) = Turnover.standing h :=
    Turnover.standing_concat (fun _ => rfl) rfl
  have none : Turnover.line (h ++ [.swept]) = [] := by
    simp [Turnover.line, Turnover.buriedSince_append, Turnover.buriedSince]
  have numbers : Turnover.numbers (h ++ [.swept]) = Turnover.numbers h :=
    Turnover.numbers_concat rfl
  rw [swept]
  exact ⟨standing ▸ before.listeners, none.symm, numbers ▸ before.timers,
    numbers ▸ before.increasing, numbers ▸ before.below⟩

theorem clear (before : s.Tabled h) : s.clear.Tabled
    (h ++ .cleared :: (s.timers.clear.1.map Timer.pair ++ s.listeners.all).map .buried) := by
  obtain ⟨alarms, -, cleared⟩ := clear_eq s
  have none : Turnover.standing (h ++ [.cleared]) = [] := by
    simp [Turnover.standing_append, Turnover.standing, Turnover.silences]
  have since : Turnover.line (h ++ [.cleared]) = Turnover.line h :=
    Turnover.line_concat nofun rfl
  have numbers : Turnover.numbers (h ++ [.cleared]) = Turnover.numbers h :=
    Turnover.numbers_concat rfl
  have emptied : ({ s with
      phase := .shuttingDown
      timers := s.timers.clear.2
      listeners := .empty
      lanes.alarms := alarms } : Session).Tabled (h ++ [.cleared]) := by
    refine ⟨?_, since ▸ before.line, List.nil_sublist _, numbers ▸ before.increasing,
      numbers ▸ before.below⟩
    rw [none]
    rfl
  rw [cleared, List.append_cons]
  exact emptied.buryAll _

theorem armSweep (before : s.Tabled h) (periodic : Bool) : (s.armSweep periodic).Tabled h := by
  rcases armSweep_cases s periodic with eq | eq | ⟨-, eq⟩ <;> rw [eq]
  · exact before
  · exact before.same rfl rfl (.refl _) rfl
  · exact before.same rfl rfl (.refl _) rfl

end Tabled

/-- What happens to the tables is all that changes them. -/
theorem TurnsOver.tabled (d : TurnsOver s h' t) (before : s.Tabled h) : t.Tabled (h ++ h') := by
  induction d generalizing h with
  | same listeners line timers numbers =>
    rw [List.append_nil]
    exact before.same listeners line timers numbers
  | trans _ _ ih ih' =>
    rw [← List.append_assoc]
    exact ih' (ih before)
  | scheduled accepted => exact before.schedule accepted
  | listened accepted => exact before.listen accepted
  | @unlistened s door accepted event =>
    have removed := (before.off event).buryAll (s.listeners.of event)
    rw [List.append_assoc, List.singleton_append] at removed
    unfold Session.unlisten
    rw [accepted]
    simp only [Bool.not_true, Bool.false_eq_true, if_false]
    split
    · exact removed
    · exact removed.armSweep false
  | buried s pair => exact before.bury pair
  | swept s => exact before.sweep
  | cleared s => exact before.clear

/-! ## What code does to the tables -/

/-- Whatever has happened to the tables. -/
def Turned (s t : Session) : Prop := ∃ h, TurnsOver s h t

/-- What happens to the tables while code runs: no pair leaves custody. -/
def Rearranged (base : List Pair) (concerned : String → Prop) (s t : Session) : Prop :=
  ∃ h, TurnsOver s h t ∧ (∀ x ∈ h, x.Within base concerned) ∧ s.custody.live ⊆ t.custody.live

namespace Rearranged

variable {base : List Pair} {concerned : String → Prop}

theorem turned (d : Rearranged [] (fun _ => True) s t) : Turned s t := by
  obtain ⟨h, d, -⟩ := d
  exact ⟨h, d⟩

/-- The pairs that have been in custody are so still. -/
theorem live (d : Rearranged base concerned s t) (sub : base ⊆ s.custody.live) :
    base ⊆ t.custody.live := by
  obtain ⟨_, -, -, kept⟩ := d
  exact List.Subset.trans sub kept

/-- Pairs may come into custody. -/
theorem adopted (listeners : t.listeners = s.listeners)
    (line : t.custody.buried = s.custody.buried) (timers : t.timers = s.timers)
    (kept : s.custody.live ⊆ t.custody.live) : Rearranged base concerned s t :=
  ⟨[], .same listeners line (timers ▸ .refl _) (by rw [timers]), nofun, kept⟩

theorem quiet (listeners : t.listeners = s.listeners) (custody : t.custody = s.custody)
    (timers : t.timers = s.timers) : Rearranged base concerned s t :=
  adopted listeners (by rw [custody]) timers (custody ▸ List.Subset.refl _)

theorem refl (s : Session) : Rearranged base concerned s s := quiet rfl rfl rfl

theorem trans (d : Rearranged base concerned s t) (e : Rearranged base concerned t u) :
    Rearranged base concerned s u := by
  obtain ⟨h, d, within, kept⟩ := d
  obtain ⟨h', e, within', kept'⟩ := e
  refine ⟨h ++ h', d.trans e, fun x mem => ?_, List.Subset.trans kept kept'⟩
  exact (List.mem_append.1 mem).elim (within x) (within' x)

theorem after (d : Rearranged base concerned t u) (listeners : t.listeners = s.listeners)
    (custody : t.custody = s.custody) (timers : t.timers = s.timers) :
    Rearranged base concerned s u :=
  (quiet listeners custody timers).trans d

theorem bury (s : Session) (pair : Pair) : Rearranged base concerned s (s.bury pair) :=
  ⟨_, .buried s pair, by simp [Turnover.Within],
    (List.Perm.of_eq (s.custody.bury_rest pair).1.symm).subset⟩

theorem buryAll (s : Session) (pairs : List Pair) :
    Rearranged base concerned s (s.buryAll pairs) := by
  induction pairs generalizing s with
  | nil => exact .refl s
  | cons pair rest ih => exact (bury s pair).trans (ih _)

theorem withdraw (s : Session) (ticket : Option Nat) :
    Rearranged base concerned s (s.withdraw ticket) := by
  rw [withdraw_eq]
  exact .quiet rfl rfl rfl

theorem requests (s : Session) : KeptByRequests (Rearranged base concerned s) where
  counted _ h := h.trans (.quiet rfl rfl rfl)
  held _ h := h.trans (.quiet rfl rfl rfl)
  errands _ h := h.trans (.quiet rfl rfl rfl)
  posted _ _ h := h.trans (.quiet rfl rfl rfl)
  dropped _ h := h.trans (.quiet rfl rfl rfl)
  transported _ h := h.trans (.quiet rfl rfl rfl)
  sent _ h := h.trans (.quiet rfl rfl rfl)
  issued _ h := h.trans (.quiet rfl rfl rfl)
  registered _ h := h.trans (.adopted rfl rfl rfl (List.subset_append_left ..))
  buried pairs h := h.trans (buryAll _ pairs)

theorem sweeps (s : Session) : KeptBySweeps (Rearranged base concerned s) where
  sweepArmed _ h := h.trans (.quiet rfl rfl rfl)
  withdrawn ticket h := h.trans (withdraw _ ticket)
  ticketed _ h := h.trans (.quiet rfl rfl rfl)
  entered _ h := h.trans (.quiet rfl rfl rfl)

theorem schedule (s : Session) (door : Door) (pair : Pair) (delay : Nat) (recurring : Bool) :
    Rearranged base concerned s (s.schedule door pair delay recurring).2 := by
  rcases schedule_ends s door pair delay recurring with eq | ⟨t, -, adopted, eq⟩
  · rw [eq]
    exact .refl s
  · have scheduled := TurnsOver.scheduled eq
    obtain ⟨-, rfl⟩ := adopt?_eq_some.1 adopted
    rw [eq]
    exact ⟨_, scheduled, by simp [Turnover.Within], List.subset_append_left ..⟩

theorem cancel (s : Session) (door : Door) (id : Nat) :
    Rearranged base concerned s (s.cancel door id).2 := by
  rcases cancel_cases s door id with eq | ⟨timer, -, cases⟩
  · rw [eq]
    exact .refl s
  have removed : Rearranged base concerned s { s with timers := s.timers.remove id } :=
    ⟨[], .same rfl rfl (List.filter_sublist.map _) rfl, nofun, List.Subset.refl _⟩
  have withdrawn := removed.trans (withdraw _ timer.ticket)
  rcases cases with ⟨-, eq⟩ | ⟨-, eq⟩ <;> rw [eq]
  · exact (sweeps s).armSweep false withdrawn
  · exact (sweeps s).armSweep false (withdrawn.trans (bury _ timer.pair))

/-- A pair that comes to listen has not been in custody. -/
theorem listen (s : Session) (door : Door) {event : String} (pair : Pair)
    (sub : base ⊆ s.custody.live) (concerns : concerned event) :
    Rearranged base concerned s (s.listen door event pair).2 := by
  cases accepted : s.listen door event pair with
  | mk answer t =>
    have listened (answers : answer = true) : TurnsOver s [.listened event pair] t :=
      .listened (answers ▸ accepted)
    unfold Session.listen at accepted
    split at accepted
    · cases accepted
      exact .refl s
    split at accepted
    · cases accepted
      exact .refl s
    next u adopts =>
      obtain ⟨can, rfl⟩ := adopt?_eq_some.1 adopts
      cases accepted
      have fresh : pair ∉ s.custody.live := by
        simpa [Custody.canAdopt, Custody.isLive] using can
      refine ⟨_, listened rfl, ?_, List.subset_append_left ..⟩
      simpa [Turnover.Within] using ⟨fun mem => fresh (sub mem), concerns⟩

theorem unlisten (s : Session) (door : Door) {event : String} (concerns : concerned event) :
    Rearranged base concerned s (s.unlisten door event).2 := by
  cases admitted : s.admits door with
  | true =>
    refine ⟨_, .unlistened admitted event, by simp [Turnover.Within, concerns], ?_⟩
    have kept : s.custody.live ⊆ (s.custody.buryAll (s.listeners.of event)).live :=
      (List.Perm.of_eq (Custody.buryAll_rest ..).1.symm).subset
    rcases unlisten_cases s door event with eq | eq | eq <;> rw [eq]
    · exact List.Subset.refl _
    · exact kept
    · rcases armSweep_cases (({ s with listeners := s.listeners.off event } : Session).buryAll
        (s.listeners.of event)) false with eq | eq | ⟨-, eq⟩ <;> rw [eq] <;>
        exact kept
  | false =>
    have refused : (s.unlisten door event).2 = s := by simp [Session.unlisten, admitted]
    rw [refused]
    exact .refl s

theorem enqueue (s : Session) (door : Door) (noThreads : Bool) (job : Work) :
    Rearranged base concerned s (s.enqueue door thread noThreads job).2 := by
  rcases enqueue_cases s door thread noThreads job with h | ⟨-, ⟨-, h⟩ | ⟨-, h | h⟩⟩ <;>
    rw [h] <;> exact .quiet rfl rfl rfl

theorem shutdown (s : Session) (query : Option Nat) :
    Rearranged base concerned s (s.beginShutdown query).2 :=
  (sweeps s).beginShutdown (fun h => h.trans (.quiet rfl rfl rfl))
    (fun h => h.trans (.quiet rfl rfl rfl)) (.refl s)

end Rearranged

/-- Whatever code does, the tables are rearranged. -/
theorem Deeds.rearranged (d : Deeds thread s t) : Rearranged [] (fun _ => True) s t := by
  induction d with
  | none s => exact .refl s
  | trans _ _ ih ih' => exact ih.trans ih'
  | aside h =>
    obtain ⟨_, _, _, _, _, _, _, -, -, rfl⟩ := h
    exact .quiet rfl rfl rfl
  | schedule s door pair delay recurring => exact .schedule s door pair delay recurring
  | cancel s door id => exact .cancel s door id
  | enqueue s door noThreads job => exact .enqueue s door noThreads job
  | issue s door noThreads order =>
    exact (Rearranged.requests s).issue door noThreads order (.refl s)
  | release s key => exact (Rearranged.requests s).release key (.refl s)
  | listen s door event pair => exact .listen s door pair nofun trivial
  | unlisten s door event => exact .unlisten s door trivial
  | pause s => exact (Rearranged.sweeps s).pause (.refl s)
  | unpause s => exact (Rearranged.sweeps s).unpause (.refl s)
  | shutdown s query => exact .shutdown s query
  | guarded take _ ih =>
    obtain ⟨-, -, rfl⟩ := takeLock_eq_ok.1 take
    have inner : Rearranged [] (fun _ => True) _ (unlock _) := ih.trans (.quiet rfl rfl rfl)
    exact inner.after rfl rfl rfl
  | leak take =>
    obtain ⟨-, -, rfl⟩ := takeLock_eq_ok.1 take
    exact .quiet rfl rfl rfl
  | _ => exact .quiet rfl rfl rfl

theorem Deeds.turned (d : Deeds thread s t) : Turned s t := d.rearranged.turned

namespace Turned

theorem quiet (listeners : t.listeners = s.listeners)
    (custody : t.custody = s.custody) (timers : t.timers = s.timers) : Turned s t :=
  (Rearranged.quiet listeners custody timers).turned

theorem refl (s : Session) : Turned s s := quiet rfl rfl rfl

theorem trans (d : Turned s t) (e : Turned t u) : Turned s u := by
  obtain ⟨_, d⟩ := d
  obtain ⟨_, e⟩ := e
  exact ⟨_, d.trans e⟩

theorem after (d : Turned t u) (listeners : t.listeners = s.listeners)
    (custody : t.custody = s.custody) (timers : t.timers = s.timers) : Turned s u :=
  (quiet listeners custody timers).trans d

theorem armSweep (s : Session) (periodic : Bool) : Turned s (s.armSweep periodic) :=
  Rearranged.turned ((Rearranged.sweeps s).armSweep periodic (.refl s))

end Turned

theorem Turned.sweepGraveyard (s : Session) : Turned s s.sweepGraveyard.2 := ⟨_, .swept s⟩

theorem Turned.afterSweep (s : Session) : Turned s s.afterSweep := by
  have swept : Turned s (s.engaged fun s => s.sweepGraveyard.2) := by
    unfold engaged
    split
    · have swept : Turned _ ({ s with lock := ⟨some .loop⟩ } : Session).sweepGraveyard.2.unlock :=
        (Turned.sweepGraveyard _).trans (.quiet rfl rfl rfl)
      exact swept.after rfl rfl rfl
    · exact .refl s
  exact swept.trans (.armSweep _ true)

/-- The tables of a session are what has happened to them since it was spawned. -/
theorem TurnsOver.tabled_spawned (d : TurnsOver s h t) (spawned : Spawned s) : t.Tabled h := by
  have fresh : s.Tabled [] := by
    obtain ⟨settings, locale, program, modules, rfl⟩ := Moment.spawned_eq spawned
    exact ⟨rfl, rfl, .refl _, .nil, nofun⟩
  exact d.tabled fresh

end Session

/-! ## The course of a session -/

namespace Moment

open Session (Rearranged Spawned Turned TurnsOver)

variable {m m' : Moment} {marks : List Mark}

theorem Stride.turned (n : Stride m marks m') : Turned m.session m'.session := by
  cases n with
  | code d doing => exact d.deeds.turned
  | @fires s timer _ =>
    refine ⟨[], .same rfl rfl ?_ rfl⟩
    exact (Timers.firing_ids s.timers timer).symm ▸ .refl _
  | @rearmed s timer _ _ _ =>
    refine ⟨[], .same rfl rfl ?_ rfl⟩
    exact (Timers.rearmed_ids s.timers timer.id s.lanes.nextTicket).symm ▸ .refl _
  | retired s timer =>
    have removed : Turned s { s with timers := s.timers.retired timer.id } :=
      ⟨[], .same rfl rfl (List.filter_sublist.map _) rfl⟩
    exact removed.trans (Rearranged.bury _ timer.pair).turned
  | delivered s call completion => exact (Rearranged.buryAll s call.pairs).turned
  | swept _ _ => exact (Turned.afterSweep _).after rfl rfl rfl
  | @last s query lanes _ _ _ =>
    have cleared : Turned { s with lanes } ({ s with lanes } : Session).clear := ⟨_, .cleared _⟩
    exact cleared.after rfl rfl rfl
  | released _ _ => exact .sweepGraveyard _
  | @entered s _ =>
    have posted : Turned s (s.postUrgent .ready).2 := .quiet rfl rfl rfl
    exact (posted.trans (.armSweep _ true)).trans (.quiet rfl rfl rfl)
  | _ => exact .quiet rfl rfl rfl

theorem Chronicle.turned (c : Chronicle m marks m') : Turned m.session m'.session := by
  induction c with
  | none => exact .refl _
  | more _ n ih => exact ih.trans n.turned

/-- Something has happened to the tables of a session since it was spawned. -/
theorem Arises.turnover (h : m.Arises) :
    ∃ origin history, Spawned origin ∧ TurnsOver origin history m.session := by
  obtain ⟨marks, origin, spawned, c⟩ := h
  obtain ⟨history, d⟩ := c.turned
  exact ⟨origin, history, spawned, d⟩

end Moment
end ScriptHost
