import ScriptHost.Proofs.Accounts

/-!
# Messages that the loop takes

What the loop finds when it takes the message of a call decides what the caller is told. It finds
the program as it always is, and the lock either free or kept by the loop itself; and nothing else
matters. The lock is kept for good if it is kept at all: if it is free at the end, it has been free
whenever the loop has taken a message.

## Main definitions

* `Action.ending` — how actions end that do not have the engine at hand.
* `Desk.Asking` — what any code does about calls.
* `Desk.Orderly` — who has the lock, and who has had it so far.
* `Desk.begun` — the calls that the loop has taken so far.

## Main statements

* `Session.outcome_eq` — what comes of a call depends on the program and the lock alone.
* `Desk.Path.takes`, `Desk.Arises.takes_free` — what the loop finds when it takes a message.
* `Desk.Path.begun` — calls are answered in the order in which the loop takes them.
-/

namespace ScriptHost

/-! ## What comes of a call -/

/-- How actions end that do not have the engine at hand: as the first one that fails or panics. -/
def Action.ending : List Action → Outcome EngineFailure Unit
  | [] => .ok ()
  | .fail message :: _ => .failed (.script message)
  | .panic :: _ => .panicked
  | _ :: rest => ending rest

namespace Session

variable {s t : Session}

/-- An action that does not end its list has a reply. -/
theorem perform_nowhere (thread : Thread) (a : Action) (s : Session) :
    (∃ message, a = .fail message) ∨ a = .panic ∨
      (∀ rest, Action.ending (a :: rest) = Action.ending rest) ∧
        ∃ reply, (perform .nowhere thread a s).1 = .ok reply := by
  cases a with
  | fail message => exact .inl ⟨message, rfl⟩
  | panic => exact .inr (.inl rfl)
  | script source name =>
    refine .inr (.inr ⟨fun _ => rfl, ?_⟩)
    unfold perform askFrom
    split
    · exact ⟨_, rfl⟩
    · split <;> exact ⟨_, rfl⟩
  | require path =>
    refine .inr (.inr ⟨fun _ => rfl, ?_⟩)
    unfold perform askFrom
    split
    · exact ⟨_, rfl⟩
    · split <;> exact ⟨_, rfl⟩
  | shutdown =>
    refine .inr (.inr ⟨fun _ => rfl, ?_⟩)
    unfold perform shutdownFrom
    split <;> split <;> exact ⟨_, rfl⟩
  | guarded body =>
    refine .inr (.inr ⟨fun _ => rfl, ?_⟩)
    unfold perform
    split
    · exact ⟨_, rfl⟩
    · split <;> exact ⟨_, rfl⟩
  | leakLock =>
    refine .inr (.inr ⟨fun _ => rfl, ?_⟩)
    unfold perform
    split <;> exact ⟨_, rfl⟩
  | _ => exact .inr (.inr ⟨fun _ => rfl, _, rfl⟩)

theorem playScripted_ending (thread : Thread) (actions : List Action) (s : Session) :
    (playScripted thread actions s).1 = Action.ending actions := by
  induction actions generalizing s with
  | nil => rfl
  | cons a rest ih =>
    rcases perform_nowhere thread a s with ⟨message, rfl⟩ | rfl | ⟨ending, reply, replied⟩
    · rfl
    · rfl
    · rcases performed : perform .nowhere thread a s with ⟨result, t⟩
      rw [performed] at replied
      cases replied
      have played : playScripted thread (a :: rest) s =
          playScripted thread rest (t.note (.did a.name reply)) := by
        simp only [playScripted, play, performed]
      rw [played, ih, ending]

theorem runScript_ending (source name : String) (s : Session) : (s.runScript .loop source name).1 =
    scriptValue source name (Action.ending (s.program.scriptActions name)) := by
  rw [runScript_eq, ← playScripted_ending .loop _ (s.note (.script name source))]
  rfl

theorem loadPath_ending (path : String) (s : Session) : (s.loadPath .loop path).1 =
    (Action.ending (s.program.scriptActions path)).map fun _ => .text path := by
  rw [← playScripted_ending .loop _ (s.note (.require path))]
  rfl

/-- What comes of a call depends on the program and on the lock alone. -/
theorem outcome_eq (program : t.program = s.program) (lock : t.lock = s.lock) (m : Message) :
    t.outcome m = s.outcome m := by
  cases m with
  | script source name query => simp only [outcome, lock, runScript_ending, program]
  | require path query => simp only [outcome, lock, loadPath_ending, program]
  | _ => rfl

end Session

namespace Desk

open Session (Spawned)

variable {a b d d' : Desk} {k l : List Taking}

/-! ## Asking -/

/-- Whatever is asked, the line only grows, and what has been answered stays so. -/
structure Asking (s t : Session) : Prop where
  line : s.waiting ⊆ t.waiting
  deserted : t.lanes.deserted = s.lanes.deserted
  answers : t.answers = s.answers
  numbers : s.nextQuery ≤ t.nextQuery
  frozen : s.lanes.deserted = true → t.nextQuery = s.nextQuery
  loop : t.loop = s.loop
  program : t.program = s.program

/-- Something is asked while the lock stays where it is. -/
structure Asked (s t : Session) : Prop extends Asking s t where
  lock : t.lock = s.lock

theorem asked_of_unasked {s t : Session} (u : Session.Unasked s t) : Asked s t where
  line := u.waiting ▸ List.Subset.refl _
  deserted := u.deserted
  answers := u.answers
  numbers := Nat.le_of_eq u.nextQuery.symm
  frozen _ := u.nextQuery
  loop := u.loop
  program := u.program
  lock := u.lock

theorem Asked.refl (s : Session) : Asked s s := asked_of_unasked (.refl s)

theorem asked_ask (s : Session) (message : Nat → Message) : Asked s (s.ask message).2 := by
  have same := Asked.refl s
  cases live : s.isLive with
  | false => rwa [Session.ask_refused live]
  | true =>
    cases deserted : s.lanes.deserted with
    | true => rwa [Session.ask_of_deserted live deserted]
    | false =>
      rw [Session.ask_of_taken live deserted]
      exact { same with
        line := by simp [Session.waiting]
        numbers := Nat.le_succ _
        frozen := fun gone => nomatch deserted.symm.trans gone }

theorem asked_beginShutdown (s : Session) (query : Option Nat) :
    Asked s (s.beginShutdown query).2 := by
  have same := Asked.refl s
  cases live : s.isLive with
  | false => rwa [beginShutdown_refused live]
  | true =>
    cases deserted : s.lanes.deserted with
    | true =>
      rw [Session.beginShutdown_of_deserted live deserted, Session.withdrawSweep_eq]
      exact { same with }
    | false =>
      rw [Session.beginShutdown_of_taken live deserted, Session.withdrawSweep_eq]
      exact { same with line := by simp [Session.waiting] }

theorem asked_askShutdown (s : Session) : Asked s s.askShutdown.2 := by
  have begun := asked_beginShutdown s (some s.nextQuery)
  cases deserted : s.lanes.deserted with
  | true =>
    cases live : s.isLive with
    | false => simpa only [Session.askShutdown_refused live, beginShutdown_refused live] using begun
    | true =>
      rw [Session.beginShutdown_of_deserted live deserted] at begun
      simp only [Session.askShutdown, Session.beginShutdown_of_deserted live deserted]
      exact begun
  | false =>
    unfold Session.askShutdown
    dsimp only
    split
    · next t heq =>
      rw [heq] at begun
      exact { begun with
        numbers := Nat.le_succ _
        frozen := fun gone => absurd (deserted.symm.trans gone) Bool.false_ne_true }
    · next heq => rw [heq] at begun; exact begun

/-! ## What the loop finds -/

theorem Step.program (n : Step d d') : d'.session.program = d.session.program := by
  cases n with
  | still u => exact u.program
  | asked s => exact (asked_ask s _).program
  | shut s => exact (asked_beginShutdown s none).program
  | askedShutdown s => exact (asked_askShutdown s).program
  | entered => exact (unasked_entered _).program
  | _ => rfl

/-- Whenever the loop takes a message it finds the program as it always is, and no other thread
keeps the lock. -/
theorem Path.takes (p : Path a k b) : b.session.program = a.session.program ∧
    ∀ take ∈ k, take.2.program = a.session.program ∧ take.2.isKeptOut = false := by
  induction p with
  | none => exact ⟨rfl, List.forall_mem_nil _⟩
  | step _ n ih => exact ⟨n.program.trans ih.1, ih.2⟩
  | took _ running next call going ih =>
    refine ⟨ih.1, fun take mem => ?_⟩
    rcases List.mem_append.1 mem with mem | mem
    · exact ih.2 take mem
    · rw [List.mem_singleton.1 mem]
      exact ⟨ih.1, going⟩

/-- Who has the lock, and whether it has been free whenever the loop has taken a message. -/
inductive Orderly (k : List Taking) (d : Desk) : Prop where
  | free (free : d.session.lock = .free) (none : d.guards = 0)
      (takes : ∀ take ∈ k, take.2.lock = .free)
  /-- The lock is to be released. -/
  | guarded (held : d.session.lock ≠ .free) (one : d.guards = 1)
      (takes : ∀ take ∈ k, take.2.lock = .free)
  /-- The lock is kept. -/
  | kept (held : d.session.lock ≠ .free) (none : d.guards = 0)

theorem Orderly.same (h : d.Orderly k) (lock : d'.session.lock = d.session.lock)
    (guards : d'.guards = d.guards) : d'.Orderly k := by
  cases h with
  | free free none takes => exact .free (lock.trans free) (guards.trans none) takes
  | guarded held one takes => exact .guarded (lock.symm ▸ held) (guards.trans one) takes
  | kept held none => exact .kept (lock.symm ▸ held) (guards.trans none)

theorem Step.orderly (n : Step d d') (h : d.Orderly k) : d'.Orderly k := by
  cases n with
  | still u => exact h.same u.lock rfl
  | asked s => exact h.same (asked_ask s _).lock rfl
  | shut s => exact h.same (asked_beginShutdown s none).lock rfl
  | askedShutdown s => exact h.same (asked_askShutdown s).lock rfl
  | entered => exact h.same (unasked_entered _).lock rfl
  | locked free thread =>
    cases h with
    | free _ none takes => exact .guarded nofun (congrArg (· + 1) none) takes
    | guarded held => exact absurd free held
    | kept held => exact absurd free held
  | unlocked s hand n =>
    cases h with
    | free _ none => cases none
    | guarded _ one takes => exact .free rfl (Nat.succ.inj one) takes
    | kept _ none => cases none
  | kept free thread =>
    cases h with
    | free _ none => exact .kept nofun none
    | guarded held => exact absurd free held
    | kept held => exact absurd free held
  | _ => exact h.same rfl rfl

theorem Path.orderly (p : Path a k b) (h : a.Orderly l) : b.Orderly (l ++ k) := by
  induction p with
  | none => simpa using h
  | step _ n ih => exact n.orderly ih
  | took _ running next call going ih =>
    cases ih with
    | free free none takes =>
      refine .free free none fun take mem => ?_
      rw [← List.append_assoc] at mem
      rcases List.mem_append.1 mem with mem | mem
      · exact takes take mem
      · rw [List.mem_singleton.1 mem]
        exact free
    | guarded _ one => cases one
    | kept held none => exact .kept held none

/-- If the lock is free in the end, it has been free whenever the loop has taken a message. -/
theorem Arises.takes_free (arises : a.Arises) (p : Path a k b) (free : b.session.lock = .free) :
    ∀ take ∈ k, take.2.lock = .free := by
  obtain ⟨origin, l, spawned, before⟩ := arises
  obtain ⟨settings, locale, program, modules, rfl⟩ := Moment.spawned_eq spawned
  have orderly := (before.trans p).orderly (l := []) (.guarded nofun rfl (List.forall_mem_nil _))
  cases orderly with
  | free _ _ takes => exact fun take mem => takes take (List.mem_append_right l mem)
  | guarded held => exact absurd free held
  | kept held => exact absurd free held

/-! ## The order of answers -/

/-- The calls that the loop has taken so far, answered or in hand. -/
def begun (d : Desk) : List Nat := d.settled ++ (d.hand.bind (·.1.query?)).toList

theorem Step.begun (n : Step d d') : d'.begun = d.begun := by
  have same {s t : Session} (hand : Option Taking) (n : Nat) (h : t.answers = s.answers) :
      Desk.begun ⟨t, hand, n⟩ = Desk.begun ⟨s, hand, n⟩ := by
    simp only [Desk.begun, settled, h]
  cases n with
  | still u hand n => exact same hand n u.answers
  | asked s _ _ hand n => exact same hand n (asked_ask s _).answers
  | shut s hand n => exact same hand n (asked_beginShutdown s none).answers
  | askedShutdown s hand n => exact same hand n (asked_askShutdown s).answers
  | entered => exact same none 0 (unasked_entered _).answers
  | answered s own => simp [Desk.begun, settled, Session.answer, own]
  | ended s query => cases query <;> simp [Desk.begun, settled, Message.query?]
  | _ => rfl

/-- Calls are answered in the order in which the loop takes them. -/
theorem Path.begun (p : Path a k b) : b.begun = a.begun ++ k.filterMap (·.1.query?) := by
  induction p with
  | none => simp
  | step _ n ih => exact n.begun.trans ih
  | @took _ _ m _ _ _ _ _ _ ih =>
    rw [List.filterMap_append, ← List.append_assoc, ← ih]
    cases query : m.query? <;> simp [Desk.begun, settled, query]

/-- No call is taken twice. -/
theorem Sound.begun_nodup (h : d.Sound) : d.begun.Nodup := by
  obtain ⟨s, hand, n⟩ := d
  cases hand with
  | none => simpa [Desk.begun] using h.distinct
  | some take =>
    have running : s.loop = .running := by
      by_contra down
      cases h.idle down
    have numbered := h.numbered (h.up.2 (.inr running)) ▸ List.nodup_range
    refine numbered.sublist ((List.Sublist.refl _).append ?_)
    cases query : take.1.query? <;> simp [pending, query]

end Desk
end ScriptHost
