import Mathlib.Data.List.Chain
import ScriptHost.Proofs.Chronicled

/-!
# The life of a session

A session goes through its phases in one direction, except that it can be paused and go on any
number of times. The queue is closed exactly when the session shuts down, and readiness is announced
exactly when the session becomes ready, whichever thread brings about which of these and in
whatever order.

## Main definitions

* `Phase.next` — the phases that can follow one; `Phase.rank` — how far on a phase is.
* `Moment.Lifecycle` — what the life of a session looks like from a moment.

## Main statements

* `Upkeep.Step.phase`, `Upkeep.Course.path` — a step follows an edge, a course is a path.
* `Moment.ComesAfter.lifecycle` — so is the life of a session.
-/

namespace ScriptHost

namespace Phase

/-- The phases that can follow one. Ready and paused are a pair: each can follow the other, and
either can be followed by a shutdown. -/
def next : Phase → List Phase
  | created => [initializing]
  | initializing => [ready, shuttingDown, terminated]
  | ready => [paused, shuttingDown]
  | paused => [ready, shuttingDown]
  | shuttingDown => [terminated]
  | terminated => []

/-- How far on a phase is. -/
def rank (p : Phase) : Nat := all.idxOf p

/-- Whether phases follow each other. -/
def IsPath (phases : List Phase) : Prop := phases.IsChain fun p q => q ∈ p.next

/-- No phase is followed by an earlier one, except that a paused session can be ready again. -/
theorem forward {p q : Phase} (h : q ∈ p.next) : p.rank < q.rank ∨ p = .paused ∧ q = .ready := by
  cases p <;> cases q <;> revert h <;> decide

/-- A path does not lead back, except from a pause. -/
theorem IsPath.onward {p q : Phase} {phases : List Phase} (path : IsPath (p :: phases))
    (last : (p :: phases).getLast? = some q) : p.rank ≤ q.rank ∨ p = .paused ∧ q = .ready := by
  induction phases generalizing p with
  | nil => exact .inl (Option.some.inj last ▸ Nat.le_refl _)
  | cons p' rest ih =>
    obtain ⟨next, behind⟩ := List.isChain_cons_cons.1 path
    rw [List.getLast?_cons_cons] at last
    have paused : Phase.paused.rank = Phase.ready.rank + 1 := rfl
    rcases forward next with later | ⟨rfl, rfl⟩
    · rcases ih behind last with on | ⟨rfl, rfl⟩
      · exact .inl (by omega)
      · exact .inl (by omega)
    · rcases ih behind last with on | ⟨again, -⟩
      · by_cases ready : q = .ready
        · exact .inr ⟨rfl, ready⟩
        · cases q <;> first | exact .inl (by decide) | exact absurd on (by decide) | simp at ready
      · cases again

/-- Nothing follows the end. -/
theorem IsPath.ended {phases : List Phase} (path : IsPath (.terminated :: phases)) :
    phases = [] := by
  cases phases with
  | nil => rfl
  | cons p rest => exact nomatch (List.isChain_cons_cons.1 path).1

end Phase

theorem phasesOf_append (marks marks' : List Mark) :
    phasesOf (marks ++ marks') = phasesOf marks ++ phasesOf marks' := List.filterMap_append ..

theorem phasesOf_handled {mark : Mark} (h : mark.isHandled = true) : phasesOf [mark] = [] := by
  cases mark <;> first | rfl | cases h

namespace Upkeep

variable {u u' : Upkeep} {marks : List Mark}

/-- A step stays in a phase, or goes on to one that can follow. -/
theorem Step.phase (n : Step u marks u') (h : u.Sound) :
    phasesOf marks = [] ∧ u'.phase = u.phase ∨
      phasesOf marks = [u'.phase] ∧ u'.phase ∈ u.phase.next := by
  cases n with
  | asked => exact .inl ⟨rfl, rfl⟩
  | cancelled | unlistened => exact .inl ⟨rfl, by rw [arm_eq]⟩
  | paused ready => exact .inr ⟨rfl, by simp [ready, Phase.next]⟩
  | unpaused paused =>
    rw [arm_eq]
    exact .inr ⟨rfl, by simp [paused, Phase.next]⟩
  | shut live =>
    refine .inr ⟨rfl, ?_⟩
    have made := h.begun
    cases phase : u.phase <;> simp_all [Phase.next, Phase.isLive]
  | announced _ initializing => exact .inr ⟨rfl, by simp [initializing, Phase.next]⟩
  | handled _ _ handled =>
    rw [rearm_eq]
    exact .inl ⟨phasesOf_handled handled, rfl⟩
  | last => exact .inl ⟨rfl, rfl⟩
  | ended closing => exact .inr ⟨rfl, by simp [closing, Phase.next]⟩
  | entered =>
    rw [rearm_eq]
    exact .inl ⟨rfl, rfl⟩
  | abandoned starting =>
    refine .inr ⟨rfl, ?_⟩
    rcases h.starting starting with phase | phase <;> simp [phase, Phase.next]
  | crashed => exact .inl ⟨rfl, rfl⟩
  | due => exact .inl ⟨rfl, rfl⟩
  | passed => exact .inl ⟨rfl, rfl⟩
  | idled => exact .inl ⟨rfl, rfl⟩

/-- A course goes from phase to phase along a path. -/
theorem Course.path (c : Course u marks u') (h : u.Sound) :
    Phase.IsPath (u.phase :: phasesOf marks) ∧
      (u.phase :: phasesOf marks).getLast? = some u'.phase := by
  induction c with
  | none => exact ⟨.singleton _, rfl⟩
  | @more u' u'' marks marks' c n ih =>
    obtain ⟨path, last⟩ := ih
    rw [phasesOf_append, ← List.cons_append]
    rcases n.phase (c.sound h) with ⟨none, same⟩ | ⟨one, next⟩
    · rw [none, same, List.append_nil]
      exact ⟨path, last⟩
    · rw [one]
      refine ⟨List.isChain_append.2 ⟨path, .singleton _, fun p mem q mem' => ?_⟩,
        List.getLast?_concat⟩
      obtain rfl : u'.phase = p := Option.some.inj (last.symm.trans mem)
      obtain rfl : u''.phase = q := Option.some.inj mem'
      exact next

/-- Readiness is announced when the session becomes ready, and never otherwise. -/
theorem Step.told (n : Step u marks u') (h : u.Sound) :
    u'.told = true ↔ u.told = true ∨ Phase.ready ∈ phasesOf marks := by
  cases n with
  | cancelled | unlistened => rw [arm_eq]; simp [phasesOf, Mark.phase?]
  | unpaused paused => rw [arm_eq]; simp [h.told (.inr paused)]
  | announced => simp [phasesOf, Mark.phase?]
  | handled _ _ handled =>
    rw [rearm_eq]
    simp [phasesOf_handled handled]
  | entered => rw [rearm_eq]; simp [phasesOf]
  | _ => simp [phasesOf, Mark.phase?]

theorem Course.told (c : Course u marks u') (h : u.Sound) :
    u'.told = true ↔ u.told = true ∨ Phase.ready ∈ phasesOf marks := by
  induction c with
  | none => simp [phasesOf]
  | more c n ih => rw [n.told (c.sound h), ih, phasesOf_append, List.mem_append, or_assoc]

end Upkeep

namespace Session

theorem pause_accepted (s : Session) : s.pause.1 = true ↔ s.phase = .ready := by
  unfold pause
  split <;> simp_all

theorem unpause_accepted (s : Session) : s.unpause.1 = true ↔ s.phase = .paused := by
  unfold unpause
  split <;> simp_all

theorem pause_phase (s : Session) :
    s.pause.2.phase = if s.phase = .ready then .paused else s.phase := by
  unfold pause
  split
  · rw [withdrawSweep_eq]
  · rfl

theorem unpause_phase (s : Session) :
    s.unpause.2.phase = if s.phase = .paused then .ready else s.phase := by
  unfold unpause
  split
  · exact congrArg Stage.phase (stage_armSweep _ true)
  · rfl

end Session

namespace Moment

variable {m m' : Moment} {marks : List Mark}

/-- What the life of a session looks like at a moment, when it has come into these phases since it
was made. -/
structure Lifecycle (m : Moment) (phases : List Phase) : Prop where
  path : Phase.IsPath (.created :: .initializing :: phases)
  current : (Phase.created :: .initializing :: phases).getLast? = some m.session.phase
  closed : m.session.lanes.closed = true ↔
    m.session.phase = .shuttingDown ∨ m.session.phase = .terminated
  announced : m.session.readiness.ready = true ↔ .ready ∈ phases
  /-- Whatever comes, no phase is left for an earlier one, except that a paused session can be
  ready again. -/
  onward : ∀ {marks m'}, Chronicle m marks m' → m.session.phase.rank ≤ m'.session.phase.rank ∨
    m.session.phase = .paused ∧ m'.session.phase = .ready
  /-- The last phase is never left. -/
  final : ∀ {marks m'}, Chronicle m marks m' → m.session.phase = .terminated →
    phasesOf marks = [] ∧ m'.session.phase = .terminated
  /-- A session can be paused while it is ready. -/
  pause : m.session.pause.1 = true ↔ m.session.phase = .ready
  paused : m.session.pause.2.phase =
    if m.session.phase = .ready then .paused else m.session.phase
  /-- A session goes on while it is paused. -/
  unpause : m.session.unpause.1 = true ↔ m.session.phase = .paused
  unpaused : m.session.unpause.2.phase =
    if m.session.phase = .paused then .ready else m.session.phase

theorem Chronicle.path (c : Chronicle m marks m') (h : m.Arises) :
    Phase.IsPath (m.session.phase :: phasesOf marks) ∧
      (m.session.phase :: phasesOf marks).getLast? = some m'.session.phase := by
  obtain ⟨tidy, sound, -⟩ := h.upkeep
  exact (c.upheld tidy).2.path sound

/-- Whatever the host, the loop and all code do, the life of a session takes this course. -/
theorem ComesAfter.lifecycle (h : m.ComesAfter marks) : m.Lifecycle (phasesOf marks) := by
  obtain ⟨origin, spawned, c⟩ := h
  have made : Arises ⟨origin, .nothing⟩ := ⟨[], origin, spawned, .none _⟩
  have arises : m.Arises := made.leads ⟨marks, c⟩
  obtain ⟨tidy, sound, -⟩ := made.upkeep
  obtain ⟨path, last⟩ := c.path made
  have told := (c.upheld tidy).2.told sound
  obtain ⟨settings, locale, program, modules, rfl⟩ := spawned_eq spawned
  have untold : ¬ (Session.create settings locale program modules).readiness.ready = true := nofun
  exact {
    path := .cons_cons (by decide) path
    current := last
    closed := by
      rw [show m.session.lanes.closed = !m.session.phase.isLive from arises.upkeep.2.1.closed]
      have begun : m.session.phase ≠ .created := arises.upkeep.2.1.begun
      cases m.session.phase <;> simp [Phase.isLive]
    announced := told.trans (or_iff_right untold)
    onward := fun c' => (c'.path arises).1.onward (c'.path arises).2
    final := fun c' done => by
      obtain ⟨path, last⟩ := c'.path arises
      rw [done] at path last
      have none := path.ended
      rw [none] at last
      exact ⟨none, (Option.some.inj last).symm⟩
    pause := m.session.pause_accepted
    paused := m.session.pause_phase
    unpause := m.session.unpause_accepted
    unpaused := m.session.unpause_phase }

end Moment

namespace Session

/-- A session that has come up and has been announced. -/
def readied : Session :=
  let s := (plain (starting [])).bringUp
  { s with lanes.urgent := [] }.becomeReady

theorem readied_comesAfter : Moment.ComesAfter ⟨readied, .nothing⟩ [.entered .ready] := by
  let o := plain (starting [])
  let entry : Entry := .bringUp o.locale o.settings.density o.settings.formFactor
  have made : Spawned o := ⟨fun _ => false, ⟨none, none, none⟩, .default, starting [], [], rfl⟩
  have begun : Aside o { o with backlog := ⟨true, []⟩, log := [entry] } :=
    ⟨_, _, _, _, _, _, [entry], by simp [entry, Entry.isAside], rfl, rfl⟩
  have up : Moment.Chronicle ⟨o, .nothing⟩ [] ⟨o.bringUp, .nothing⟩ :=
    (((Moment.Chronicle.none _).quietly (.code (@Marked.aside .loop _ _ begun) _)).quietly
      (.locked _ .free _)).quietly (.entered rfl)
  exact ⟨o, made, ((up.quietly (.took (m := .ready) rfl rfl rfl rfl rfl)).more
    (.announced rfl rfl _)).quietly (.done _ rfl)⟩

end Session

namespace Moment

/-- A session that comes up, is paused, goes on, and is shut down. -/
theorem lifecycle_resumed :
    ∃ m : Moment, m.session.phase = .shuttingDown ∧ m.session.lanes.closed = true ∧
      m.Lifecycle [.ready, .paused, .ready, .shuttingDown] := by
  have paused := (Chronicle.none ⟨Session.readied, .nothing⟩).more
    (.code (@Session.Marked.pause .host _) _)
  have resumed := paused.more (.code (@Session.Marked.unpause .host _) _)
  have shut := resumed.more (.code (@Session.Marked.shutdown .host _ none) _)
  exact ⟨_, rfl, rfl, ComesAfter.lifecycle (Session.readied_comesAfter.trans shut)⟩

end Moment
end ScriptHost
