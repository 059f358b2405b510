import ScriptHost.Proofs.Takings

/-!
# Calls and their answers

Every call that is accepted has a number of its own. If the loop comes up it takes the message of
each call once, in the order of the numbers, and answers it with what comes of this very message,
whatever other calls and shutdowns wait next to it; by the time it is idle or has ended, all calls
have been answered. If bring-up fails nothing is ever answered, and callers find that nobody is
there. A call that is refused leaves the queue as it is.

## Main definitions

* `Desk.Follows` — where a call is that has been accepted.
* `Desk.Started`, `Desk.Stillborn` — whether the loop has been entered, or bring-up has failed.
* `Desk.Fate` — what becomes of a call that has been accepted.

## Main statements

* `Desk.Arises.begun` — a session is being brought up, or its loop has been entered, or there is
    none.
* `Desk.Arises.own_answer` — every call that is accepted gets its own answer.

## Design notes

The lock is part of what comes of a call. Where another thread keeps it the loop stands still: it
takes no message, and callers wait. Where the loop itself has kept it the engine is not called, and
callers are told as if the engine had panicked.
-/

namespace ScriptHost

/-- What a caller sees of an answer. -/
def Reply.ofAnswer : Except Failure Json.Value → Reply
  | .ok v => .value v
  | .error f => .failed f

namespace Desk

open Session (Spawned)

variable {a b d d' : Desk} {k l : List Taking} {query : Nat} {m : Message}

/-! ## Where a call is -/

/-- Where a call is that has been accepted at one desk, when the loop has taken these messages since
then. -/
inductive Follows (query : Nat) (m : Message) (k : List Taking) (b : Desk) : Prop where
  | waits (line : m ∈ b.session.waiting) (taken : b.session.lanes.deserted = false)
  | inHand {taken : Session} (hand : b.hand = some (m, taken)) (took : (m, taken) ∈ k)
  | answered {taken : Session} (answer : (query, taken.outcome m) ∈ b.session.answers)
      (took : (m, taken) ∈ k)
  | lost (deserted : b.session.lanes.deserted = true) (none : b.session.answers = [])

theorem Follows.asking {s t : Session} {hand : Option Taking} {n n' : Nat}
    (f : Follows query m k ⟨s, hand, n⟩) (h : Asking s t) : Follows query m k ⟨t, hand, n'⟩ := by
  cases f with
  | waits line taken => exact .waits (h.line line) (h.deserted.trans taken)
  | inHand hand took => exact .inHand hand took
  | answered answer took => exact .answered (h.answers ▸ answer) took
  | lost gone none => exact .lost (h.deserted.trans gone) (h.answers.trans none)

theorem Follows.step (own : m.query? = some query) (h : d.Sound) (n : Step d d')
    (f : Follows query m k d) : Follows query m k d' := by
  cases n with
  | still u => exact f.asking (asked_of_unasked u).toAsking
  | locked | unlocked s | kept => exact f.asking { (Asked.refl _).toAsking with }
  | asked s => exact f.asking (asked_ask s _).toAsking
  | shut s => exact f.asking (asked_beginShutdown s none).toAsking
  | askedShutdown s => exact f.asking (asked_askShutdown s).toAsking
  | due => exact f.asking (asked_of_unasked h.due).toAsking
  | @entered s starting =>
    -- Only the loop changes behind it.
    have same := asked_of_unasked (unasked_entered s)
    cases (f.asking same.toAsking : Follows query m k ⟨_, _, 0⟩) with
    | waits line taken => exact .waits line taken
    | inHand hand took => exact .inHand hand took
    | answered answer took => exact .answered answer took
    | lost gone none => exact .lost gone none
  | @answered s m' query' own' early taken =>
    cases f with
    | waits line taken => exact .waits line taken
    | inHand hand took =>
      cases hand
      cases own.symm.trans own'
      exact .answered (List.mem_cons_self ..) took
    | answered answer took => exact .answered (List.mem_cons_of_mem _ answer) took
    | lost gone => cases h.busy.2.1.symm.trans gone
  | ended s query' taken =>
    cases f with
    | waits line => cases h.alone.1 ▸ line
    | inHand hand took =>
      cases hand
      obtain rfl : query' = some query := own
      exact .answered (List.mem_cons_self ..) took
    | answered answer took => exact .answered (List.mem_append_right _ answer) took
    | lost gone => cases h.busy.2.1.symm.trans gone
  | @abandoned s starting =>
    cases f with
    | inHand hand => cases hand
    | answered answer took => exact .answered answer took
    | _ => exact .lost rfl (h.begun starting)
  | @crashed s starting =>
    cases f with
    | inHand hand => cases hand
    | answered answer took => exact .answered answer took
    | _ => exact .lost rfl (h.begun starting)

/-- The loop takes a message: that of the call, or another one. -/
theorem Follows.took {s : Session} {m' : Message} {lanes : Lanes Message}
    (h : Sound ⟨s, none, 0⟩) (running : s.loop = .running)
    (next : s.lanes.next? = some (m', lanes)) (call : m'.isCall = true)
    (f : Follows query m k ⟨s, none, 0⟩) :
    Follows query m (k ++ [(m', { s with lanes })])
      ⟨{ s with lanes }, some (m', { s with lanes }), 0⟩ := by
  cases f with
  | waits line taken =>
    have patient : m' ∉ s.lanes.urgent := fun mem => by cases call.symm.trans (h.urgent m' mem)
    obtain ⟨-, ordinary, heq, rfl⟩ := Lanes.next?_turn next patient
    have line : m ∈ m' :: ordinary.filter Message.isCall := by
      simpa [Session.waiting, heq, call] using line
    rcases List.mem_cons.1 line with rfl | line
    · exact .inHand rfl (List.mem_append_right _ (List.mem_singleton_self _))
    · exact .waits line taken
  | inHand hand => cases hand
  | answered answer took => exact .answered answer (List.mem_append_left _ took)
  | lost gone => cases (h.up.2 (.inr running)).symm.trans gone

theorem Follows.path (own : m.query? = some query) (h : a.Sound) (f : Follows query m [] a)
    (p : Path a k b) : Follows query m k b := by
  induction p with
  | none => exact f
  | step p n ih => exact ih.step own (p.sound h) n
  | took p running next call _ ih => exact ih.took (p.sound h) running next call

/-! ## Whether there is a loop -/

/-- The loop has been entered. -/
def Started (d : Desk) : Prop :=
  ∃ (c : Desk) (k : _), c.Arises ∧ c.session.loop = .running ∧ Path c k d

/-- Bring-up has failed, so that there is no loop. -/
def Stillborn (d : Desk) : Prop :=
  ∃ s t k, Arises ⟨s, none, 0⟩ ∧ s.loop = .starting ∧ (t = s.abandon ∨ t = s.crash) ∧
    Path ⟨t, none, 0⟩ k d

/-- Somebody asks, or the loop does something about calls, or bring-up ends. -/
theorem Step.asking_or_loop (n : Step d d') (h : d.Sound) :
    Asking d.session d'.session ∨
      (d.session.loop = .running ∧ (d'.session.loop = .running ∨
        d'.session.loop = .ended ∧ d'.settled = List.range d'.session.nextQuery)) ∨
      d.session.loop = .starting ∧ (d'.session.loop = .running ∨ ∃ s t, d = ⟨s, none, 0⟩ ∧
        d' = ⟨t, none, 0⟩ ∧ (t = s.abandon ∨ t = s.crash)) := by
  cases n with
  | still u => exact .inl (asked_of_unasked u).toAsking
  | locked | unlocked s | kept => exact .inl { (Asked.refl _).toAsking with }
  | asked s => exact .inl (asked_ask s _).toAsking
  | shut s => exact .inl (asked_beginShutdown s none).toAsking
  | askedShutdown s => exact .inl (asked_askShutdown s).toAsking
  | due => exact .inl (asked_of_unasked h.due).toAsking
  | answered => exact .inr (.inl ⟨h.busy.1, .inl h.busy.1⟩)
  | ended => exact .inr (.inl ⟨h.busy.1, .inr ⟨rfl, h.ended.2⟩⟩)
  | entered starting => exact .inr (.inr ⟨starting, .inl rfl⟩)
  | abandoned starting => exact .inr (.inr ⟨starting, .inr ⟨_, _, rfl, rfl, .inl rfl⟩⟩)
  | crashed starting => exact .inr (.inr ⟨starting, .inr ⟨_, _, rfl, rfl, .inr rfl⟩⟩)

/-- Once the loop has been entered it runs until every call has been answered. -/
theorem Started.complete (h : d.Started) : d.session.loop = .running ∨
    d.session.loop = .ended ∧ d.settled = List.range d.session.nextQuery := by
  obtain ⟨c, k, arises, running, p⟩ := h
  induction p with
  | none => exact .inl running
  | took _ running => exact .inl running
  | @step _ d d' p n ih =>
    have sound := (arises.path p).sound
    rcases n.asking_or_loop sound with asking | ⟨-, up | ended⟩ | ⟨starting, -⟩
    · rcases ih with running | ⟨ended, all⟩
      · exact .inl (asking.loop.trans running)
      · have gone : d.session.lanes.deserted = true := by
          by_contra taken
          rcases sound.up.1 (by simpa using taken) with up | up <;> cases ended.symm.trans up
        refine .inr ⟨asking.loop.trans ended, ?_⟩
        simpa only [settled, asking.answers, asking.frozen gone] using all
    · exact .inl up
    · exact .inr ended
    · rcases ih with up | ⟨up, -⟩ <;> cases starting.symm.trans up

/-- Where there is no loop nothing is answered. -/
theorem Stillborn.none (h : d.Stillborn) : d.session.answers = [] ∧
    (d.session.loop = .ended ∨ d.session.loop = .crashed) := by
  obtain ⟨s, t, k, arises, starting, failed, p⟩ := h
  have born : Step ⟨s, Option.none, 0⟩ ⟨t, Option.none, 0⟩ := by
    rcases failed with rfl | rfl
    · exact .abandoned starting
    · exact .crashed starting
  have sound := born.sound arises.sound
  have down : t.answers = [] ∧ (t.loop = .ended ∨ t.loop = .crashed) := by
    have none := arises.sound.begun starting
    rcases failed with rfl | rfl
    · exact ⟨none, .inl rfl⟩
    · exact ⟨none, .inr rfl⟩
  clear born
  induction p with
  | none => exact down
  | took _ running _ _ _ ih => rcases ih.2 with down | down <;> cases down.symm.trans running
  | @step _ d d' p n ih =>
    obtain ⟨none, down⟩ := ih
    rcases n.asking_or_loop (Path.sound p sound) with asking | ⟨up, -⟩ | ⟨up, -⟩
    · exact ⟨asking.answers.trans none, by rwa [asking.loop]⟩
    · rcases down with down | down <;> cases down.symm.trans up
    · rcases down with down | down <;> cases down.symm.trans up

/-- A session is being brought up, or its loop has been entered, or there is none. -/
theorem Arises.begun (h : d.Arises) :
    d.session.loop = .starting ∨ d.Started ∨ d.Stillborn := by
  obtain ⟨origin, k, spawned, p⟩ := h
  have arises : Arises ⟨origin, none, 1⟩ := ⟨origin, [], spawned, .none⟩
  induction p with
  | none =>
    obtain ⟨settings, locale, program, modules, rfl⟩ := Moment.spawned_eq spawned
    exact .inl rfl
  | took p running next call going =>
    have took := p.took running next call going
    exact .inr (.inl ⟨_, [], arises.path took, running, .none⟩)
  | @step _ d d' p n ih =>
    have before := arises.path p
    rcases ih with starting | ⟨c, k, arises, running, p⟩ | ⟨s, t, k, arises, starting, failed, p⟩
    · rcases n.asking_or_loop before.sound with asking | ⟨up, -⟩ |
        ⟨-, up | ⟨s, t, rfl, rfl, failed⟩⟩
      · exact .inl (asking.loop.trans starting)
      · cases starting.symm.trans up
      · exact .inr (.inl ⟨d', [], before.path (.step .none n), up, .none⟩)
      · exact .inr (.inr ⟨s, t, [], before, starting, failed, .none⟩)
    · exact .inr (.inl ⟨c, k, arises, running, p.step n⟩)
    · exact .inr (.inr ⟨s, t, k, arises, starting, failed, p.step n⟩)

end Desk

namespace Session

open Desk (Path Started Stillborn)

variable {o s : Session} {d : Desk} {k : List Taking} {turn : Turn}

/-- Bring-up ends with the loop, or with none. -/
theorem Fresh.bringUp_desk (p : Fresh o) (before : Path d k ⟨o, none, 1⟩) :
    Path d k ⟨o.bringUp, none, 0⟩ ∧
      if o.bringUp.loop = .running then Started ⟨o.bringUp, none, 0⟩
      else Stillborn ⟨o.bringUp, none, 0⟩ := by
  obtain ⟨u, played, starting, ends⟩ := bringUp_path p.stage.1 before
  obtain ⟨u', played', starting', ends'⟩ := bringUp_path p.stage.1 .none
  have arises := p.desk.path played'
  refine ⟨?_, ?_⟩
  · rcases ends with heq | heq | heq <;> rw [heq]
    · exact played.step (.entered starting)
    · exact played.step (.abandoned starting)
    · exact played.step (.crashed starting)
  · rcases ends' with heq | heq | heq <;> rw [heq]
    · exact ⟨_, [], arises.path (.step .none (.entered starting')), rfl, .none⟩
    · exact ⟨_, _, [], arises, starting', .inl rfl, .none⟩
    · exact ⟨_, _, [], arises, starting', .inr rfl, .none⟩

/-- Whatever has been asked for before bring-up, the course of the session goes on from there. -/
theorem Reached.onward (r : Reached o turn s) (p : Fresh o) (before : Path d k ⟨o, none, 1⟩) :
    ∃ l, Path d l ⟨s, none, 0⟩ := by
  obtain ⟨l, later⟩ := r.path
  exact ⟨k ++ l, (p.bringUp_desk before).1.trans later⟩

theorem Reached.desk_started (r : Reached o turn s) (p : Fresh o) (up : o.bringUp.loop = .running) :
    Started ⟨s, none, 0⟩ := by
  have begun := (p.bringUp_desk .none).2
  rw [if_pos up] at begun
  obtain ⟨c, k, arises, running, before⟩ := begun
  obtain ⟨l, later⟩ := r.path
  exact ⟨c, k ++ l, arises, running, before.trans later⟩

theorem Reached.desk_stillborn (r : Reached o turn s) (p : Fresh o)
    (down : o.bringUp.loop ≠ .running) : Stillborn ⟨s, none, 0⟩ := by
  have begun := (p.bringUp_desk .none).2
  rw [if_neg down] at begun
  obtain ⟨t, u, k, arises, starting, failed, before⟩ := begun
  obtain ⟨l, later⟩ := r.path
  exact ⟨t, u, k ++ l, arises, starting, failed, before.trans later⟩

end Session

namespace Desk

variable {a b d d' : Desk} {k : List Taking} {query : Nat} {m : Message}

/-! ## Every call gets its own answer -/

/-- What becomes of a call that has been accepted at one desk, at a later one; the loop has taken
these messages in between. -/
structure Fate (query : Nat) (m : Message) (a : Desk) (k : List Taking) (b : Desk) : Prop where
  /-- The loop takes its message once at most, and it is answered once at most. -/
  taken : (k.filterMap (·.1.query?)).count query ≤ 1
  once : (b.session.answers.map (·.1)).count query ≤ 1
  /-- An answer to it is what has come of this very message when the loop took it. -/
  own : ∀ result, (query, result) ∈ b.session.answers →
    ∃ taken, (m, taken) ∈ k ∧ result = taken.outcome m
  /-- The loop takes messages with the program as it always is, and not as long as another thread
  keeps the lock. -/
  found : ∀ take ∈ k, take.2.program = a.session.program ∧ take.2.isKeptOut = false
  /-- If the lock is free in the end it has been free every time. -/
  free : b.session.lock = .free → ∀ take ∈ k, take.2.lock = .free
  /-- If the loop has been entered, the call has been answered by the time when the loop has nothing
  to do or has ended, and the caller is told so. -/
  answered : b.Started → b.hand = none →
    (b.session.loop = .running → b.session.lanes.next? = none) →
      ∃ taken, (m, taken) ∈ k ∧ (query, taken.outcome m) ∈ b.session.answers ∧
        b.session.answerOf query = .ofAnswer (taken.outcome m)
  /-- If the loop has been entered, no caller finds that nobody is there. -/
  attended : b.Started → b.session.answerOf query ≠ .failed .disconnected
  /-- If bring-up has failed, every caller does. -/
  lost : b.Stillborn → b.session.answerOf query = .failed .disconnected

theorem outcome_ne_disconnected (s : Session) (m : Message) :
    Reply.ofAnswer (s.outcome m) ≠ .failed .disconnected := by
  have told : ∀ what came, Reply.ofAnswer (Session.told what came) ≠ .failed .disconnected := by
    intro what came
    cases came <;> exact nofun
  cases m with
  | script source name query => exact told name _
  | require path query => exact told path _
  | _ => exact nofun

theorem Sound.answerOf (h : d.Sound) {query : Nat} {result : Except Failure Json.Value}
    (mem : (query, result) ∈ d.session.answers) :
    d.session.answerOf query = .ofAnswer result := by
  have distinct : (d.session.answers.map (·.1)).Nodup := by
    simpa only [settled, List.map_reverse, List.nodup_reverse] using h.distinct
  obtain ⟨before, after, split⟩ := List.append_of_mem mem
  have found : d.session.answers.lookup query = some result := by
    refine List.lookup_eq_some_iff.2 ⟨before, after, split, fun other mem => ?_⟩
    rw [split, List.map_append, List.map_cons] at distinct
    have apart := (List.nodup_append.1 distinct).2.2 _ (List.mem_map_of_mem mem) query
      (List.mem_cons_self ..)
    exact bne_iff_ne.2 apart.symm
  unfold Session.answerOf
  rw [found]
  cases result <;> rfl

theorem answerOf_of_unanswered {s : Session} {query : Nat}
    (none : ∀ result, (query, result) ∉ s.answers) :
    s.answerOf query =
      if s.loop = .ended ∨ s.loop = .crashed then .failed .disconnected else .pending := by
  have missing : s.answers.lookup query = Option.none := by
    refine List.lookup_eq_none_iff.2 fun entry mem => bne_iff_ne.2 fun same => ?_
    exact none entry.2 (same ▸ mem)
  simp [Session.answerOf, missing]

theorem Step.numbers (n : Step d d') (h : d.Sound) :
    d.session.nextQuery ≤ d'.session.nextQuery := by
  cases n with
  | still u => exact (asked_of_unasked u).numbers
  | asked s => exact (asked_ask s _).numbers
  | shut s => exact (asked_beginShutdown s none).numbers
  | askedShutdown s => exact (asked_askShutdown s).numbers
  | due => exact (asked_of_unasked h.due).numbers
  | entered => exact (asked_of_unasked (unasked_entered _)).numbers
  | _ => exact Nat.le_refl _

theorem Path.numbers (p : Path d k d') (h : d.Sound) :
    d.session.nextQuery ≤ d'.session.nextQuery := by
  induction p with
  | none => exact Nat.le_refl _
  | step p n ih => exact ih.trans (n.numbers (p.sound h))
  | took _ _ _ _ _ ih => exact ih

/-- A call that has not been answered has another number than those that have. -/
theorem Sound.unanswered (h : d.Sound) (taken : d.session.lanes.deserted = false) {query : Nat}
    {m : Message} (own : m.query? = some query) (line : m ∈ d.pending)
    (result : Except Failure Json.Value) : (query, result) ∉ d.session.answers := by
  intro mem
  have range := h.numbered taken ▸ List.nodup_range (n := d.session.nextQuery)
  refine (List.nodup_append.1 range).2.2 query ?_ query (List.mem_filterMap.2 ⟨m, line, own⟩) rfl
  rw [settled, List.map_reverse]
  exact List.mem_reverse.2 (List.mem_map_of_mem mem)

/-- A call that has been accepted waits, or it has been answered, or nobody is there. -/
theorem Follows.cases (f : Follows query m k b) (h : b.Sound)
    (own : m.query? = some query) :
    (∀ result, (query, result) ∉ b.session.answers) ∧
        (b.session.lanes.deserted = false ∧ m ∈ b.pending ∨
          b.session.lanes.deserted = true ∧ b.session.answers = []) ∨
      ∃ taken, (m, taken) ∈ k ∧
        ∀ result, (query, result) ∈ b.session.answers ↔ result = taken.outcome m := by
  cases f with
  | waits line taken =>
    have line := List.mem_append_right (b.hand.map (·.1)).toList line
    exact .inl ⟨h.unanswered taken own line, .inl ⟨taken, line⟩⟩
  | inHand hand took =>
    have taken : b.session.lanes.deserted = false := by
      refine h.up.2 (.inr ?_)
      by_contra down
      cases hand.symm.trans (h.idle down)
    have line : m ∈ b.pending := by simp [pending, hand]
    exact .inl ⟨h.unanswered taken own line, .inl ⟨taken, line⟩⟩
  | answered answer took =>
    have distinct : (b.session.answers.map (·.1)).Nodup := by
      simpa only [settled, List.map_reverse, List.nodup_reverse] using h.distinct
    refine .inr ⟨_, took, fun result => ⟨fun mem => ?_, fun same => same ▸ answer⟩⟩
    exact (Prod.ext_iff.1 (List.inj_on_of_nodup_map distinct mem answer rfl)).2
  | lost gone none => exact .inl ⟨by simp [none], .inr ⟨gone, none⟩⟩

/-- Where the loop has nothing to do or has ended, a call that has been accepted has been answered.
-/
theorem Follows.done (f : Follows query m k b) (h : b.Sound)
    (own : m.query? = some query) (number : query < b.session.nextQuery) (started : b.Started)
    (idle : b.hand = none) (next : b.session.loop = .running → b.session.lanes.next? = none) :
    ∃ taken, (m, taken) ∈ k ∧
      ∀ result, (query, result) ∈ b.session.answers ↔ result = taken.outcome m := by
  refine (f.cases h own).resolve_left ?_
  rintro ⟨-, ⟨taken, line⟩ | ⟨gone, none⟩⟩
  · rcases started.complete with running | ⟨ended, -⟩
    · simp [pending, idle, Session.waiting,
        Lanes.ordinary_eq_nil_of_next? (next running)] at line
    · rcases h.up.1 taken with up | up <;> cases ended.symm.trans up
  · rcases started.complete with running | ⟨-, all⟩
    · cases gone.symm.trans (h.up.2 (.inr running))
    · have mem : query ∈ b.settled := all ▸ List.mem_range.2 number
      simp [settled, none] at mem

/-- What becomes of a call whose message has joined the line. -/
theorem Arises.fate {s : Session} {hand : Option Taking} {n : Nat}
    (arises : Arises ⟨s, hand, n⟩) (own : m.query? = some query) (line : m ∈ s.waiting)
    (taken : s.lanes.deserted = false) (p : Path ⟨s, hand, n⟩ k b) :
    Fate query m ⟨s, hand, n⟩ k b := by
  have h := arises.sound
  have sound := Path.sound p h
  have follows := Follows.path own h (.waits line taken) p
  have number : query < b.session.nextQuery := by
    have mem : query ∈ List.range s.nextQuery := by
      rw [← show _ = List.range s.nextQuery from h.numbered taken]
      exact List.mem_append_right _
        (List.mem_filterMap.2 ⟨m, List.mem_append_right _ line, own⟩)
    exact Nat.lt_of_lt_of_le (List.mem_range.1 mem) (Path.numbers p h)
  have distinct : (b.session.answers.map (·.1)).Nodup := by
    simpa only [settled, List.map_reverse, List.nodup_reverse] using sound.distinct
  have once : (k.filterMap (·.1.query?)).Nodup := by
    have begun := p.begun ▸ sound.begun_nodup
    exact (List.nodup_append.1 begun).2.1
  refine
    { taken := List.nodup_iff_count_le_one.1 once query
      once := List.nodup_iff_count_le_one.1 distinct query
      own := fun result mem => ?_
      found := p.takes.2
      free := arises.takes_free p
      answered := fun started idle next => ?_
      attended := fun started => ?_
      lost := fun stillborn => ?_ }
  · rcases follows.cases sound own with ⟨none, -⟩ | ⟨taken, took, only⟩
    · exact absurd mem (none result)
    · exact ⟨taken, took, (only result).1 mem⟩
  · obtain ⟨taken, took, only⟩ := follows.done sound own number started idle next
    have answer := (only _).2 rfl
    exact ⟨taken, took, answer, sound.answerOf answer⟩
  · have told : ∀ taken, (query, Session.outcome taken m) ∈ b.session.answers →
        b.session.answerOf query ≠ .failed .disconnected := fun taken answer =>
      sound.answerOf answer ▸ outcome_ne_disconnected taken m
    rcases started.complete with running | ⟨ended, -⟩
    · rcases follows.cases sound own with ⟨none, -⟩ | ⟨taken, -, only⟩
      · simp [answerOf_of_unanswered none, running]
      · exact told taken ((only _).2 rfl)
    · have down : b.session.loop ≠ .running := by rw [ended]; decide
      obtain ⟨taken, -, only⟩ := follows.done sound own number started (sound.idle down)
        fun up => absurd up down
      exact told taken ((only _).2 rfl)
  · obtain ⟨none, down⟩ := stillborn.none
    rw [answerOf_of_unanswered (by simp [none]), if_pos down]

end Desk

/-- The message of a call, under its number. -/
def Action.call? (a : Action) (query : Nat) : Option Message :=
  match a with
  | .script source name => some (.script source name query)
  | .require path => some (.require path query)
  | .shutdown => some (.shutdown (some query))
  | _ => none

namespace Session

open Desk (Path Fate Started)

variable {o s t : Session} {a : Action} {ask : Session → Except Failure Nat × Session}

/-- A call that is accepted has its message at the end of the line. -/
theorem asked_accepted (asks : blockingAsk a = some ask) {query : Nat}
    (accepted : ask s = (.ok query, t)) :
    ∃ m, a.call? query = some m ∧ m.query? = some query ∧ t.lanes.deserted = false ∧
      t.lanes.ordinary = s.lanes.ordinary ++ [m] := by
  have posted : ∀ message : Nat → Message, s.ask message = (.ok query, t) →
      t.lanes.deserted = false ∧ t.lanes.ordinary = s.lanes.ordinary ++ [message query] := by
    intro message accepted
    cases live : s.isLive with
    | false => cases (ask_refused live message).symm.trans accepted
    | true =>
      cases deserted : s.lanes.deserted with
      | true => cases (ask_of_deserted live deserted message).symm.trans accepted
      | false =>
        cases (ask_of_taken live deserted message).symm.trans accepted
        exact ⟨deserted, rfl⟩
  unfold blockingAsk at asks
  split at asks
  · cases asks; exact ⟨_, rfl, rfl, posted _ accepted⟩
  · cases asks; exact ⟨_, rfl, rfl, posted _ accepted⟩
  · cases asks
    cases live : s.isLive with
    | false => cases (askShutdown_refused live).symm.trans accepted
    | true =>
      cases deserted : s.lanes.deserted with
      | true => simp [askShutdown, beginShutdown_of_deserted live deserted] at accepted
      | false =>
        simp only [askShutdown, beginShutdown_of_taken live deserted, withdrawSweep_eq] at accepted
        cases accepted
        exact ⟨_, rfl, rfl, deserted, rfl⟩
  · cases asks

/-- A call that is refused leaves the lanes as they are; at most the armed sweep is taken back. -/
structure Unposted (s t : Session) : Prop where
  urgent : t.lanes.urgent = s.lanes.urgent
  ordinary : t.lanes.ordinary = s.lanes.ordinary
  alarms : t.lanes.alarms.Sublist s.lanes.alarms
  nextQuery : t.nextQuery = s.nextQuery
  answers : t.answers = s.answers

theorem asked_refused (asks : blockingAsk a = some ask) {f : Failure}
    (refused : ask s = (.error f, t)) : f = .closed ∧ Unposted s t := by
  have same : Unposted s s := ⟨rfl, rfl, .refl _, rfl, rfl⟩
  have unposted : ∀ message : Nat → Message, s.ask message = (.error f, t) →
      f = .closed ∧ Unposted s t := by
    intro message refused
    cases live : s.isLive with
    | false =>
      cases (ask_refused live message).symm.trans refused
      exact ⟨rfl, same⟩
    | true =>
      cases deserted : s.lanes.deserted with
      | true =>
        cases (ask_of_deserted live deserted message).symm.trans refused
        exact ⟨rfl, same⟩
      | false => cases (ask_of_taken live deserted message).symm.trans refused
  unfold blockingAsk at asks
  split at asks
  · cases asks; exact unposted _ refused
  · cases asks; exact unposted _ refused
  · cases asks
    cases live : s.isLive with
    | false =>
      cases (askShutdown_refused live).symm.trans refused
      exact ⟨rfl, same⟩
    | true =>
      cases deserted : s.lanes.deserted with
      | true =>
        simp only [askShutdown, beginShutdown_of_deserted live deserted, withdrawSweep_eq]
          at refused
        cases refused
        exact ⟨rfl, rfl, rfl, List.filter_sublist, rfl, rfl⟩
      | false => simp [askShutdown, beginShutdown_of_taken live deserted] at refused
  · cases asks

end Session

namespace Desk

open Session (blockingAsk perform Unposted)

variable {d : Desk} {a : Action} {ask : Session → Except Failure Nat × Session}

/-- What it is to ask for a call at a desk. -/
structure Dealing (d : Desk) (a : Action) (ask : Session → Except Failure Nat × Session) :
    Prop where
  /-- The owning thread cannot wait for itself; it may ask for the shutdown and go on. -/
  owning : a ≠ .shutdown → ∀ access : EngineAccess,
    perform access .loop a d.session = (.ok (.failed .reentrant), d.session)
  refused : ∀ {f t}, ask d.session = (.error f, t) → f = .closed ∧ Unposted d.session t
  /-- The call has a number of its own, and its message is at the end of the line. -/
  accepted : ∀ {query t}, ask d.session = (.ok query, t) → ∃ m, a.call? query = some m ∧
    t.lanes.ordinary = d.session.lanes.ordinary ++ [m] ∧
      ∀ k b, Path ⟨t, d.hand, d.guards⟩ k b → Fate query m ⟨t, d.hand, d.guards⟩ k b
  /-- Where the host waits for the answer, it is told what has come of its own message. -/
  waited : ∀ {query t bound reply u}, d.hand = none → d.guards = 0 → d.Started →
    ask d.session = (.ok query, t) → d.session.step bound (.act a) = some (reply, u) →
      ∃ m k taken, a.call? query = some m ∧ Path ⟨t, none, 0⟩ k ⟨u, none, 0⟩ ∧ (m, taken) ∈ k ∧
        reply = .ofAnswer (taken.outcome m)

/-- Whatever else has been asked for, a call gets its own answer. -/
theorem Arises.own_answer (arises : d.Arises) (asks : blockingAsk a = some ask) :
    d.Dealing a ask := by
  obtain ⟨s, hand, n⟩ := d
  have fate : ∀ {query t}, ask s = (.ok query, t) → ∃ m, a.call? query = some m ∧
      t.lanes.ordinary = s.lanes.ordinary ++ [m] ∧
        ∀ k b, Path ⟨t, hand, n⟩ k b → Fate query m ⟨t, hand, n⟩ k b := by
    intro query t accepted
    obtain ⟨m, call, own, taken, line⟩ := Session.asked_accepted asks accepted
    have asked : Path ⟨s, hand, n⟩ [] ⟨(ask s).2, hand, n⟩ := Session.blockingAsk_path asks .none
    rw [accepted] at asked
    have joined : m ∈ t.waiting :=
      List.mem_filter.2 ⟨by simp [line], Message.isCall_of_query? own⟩
    exact ⟨m, call, line, fun k b p => (arises.path asked).fate own joined taken p⟩
  refine ⟨fun other access => ?_, Session.asked_refused asks, fate, ?_⟩
  · unfold blockingAsk at asks
    split at asks
    · simp [perform, Session.askFrom]
    · simp [perform, Session.askFrom]
    · exact absurd rfl other
    · cases asks
  · intro query t bound reply u idle unguarded started accepted stepped
    obtain rfl : hand = none := idle
    obtain rfl : n = 0 := unguarded
    obtain ⟨m, call, -, fate⟩ := fate accepted
    have asked : Path ⟨s, none, 0⟩ [] ⟨(ask s).2, none, 0⟩ := Session.blockingAsk_path asks .none
    rw [accepted] at asked
    simp only [Session.step, asks, accepted, Option.bind_eq_bind, Option.bind_eq_some_iff]
      at stepped
    obtain ⟨v, ran, same⟩ := stepped
    cases same
    obtain ⟨k, ran, nothing⟩ := Session.run_path .none ran
    obtain ⟨c, l, begun, running, p⟩ := started
    have started : Started ⟨u, none, 0⟩ := ⟨c, _, begun, running, (p.trans asked).trans ran⟩
    obtain ⟨taken, took, -, told⟩ := (fate k _ ran).answered started rfl nothing
    exact ⟨m, k, taken, call, ran, took, told⟩

/-- Whether a call has been answered with a failure. -/
def failedWith (s : Session) (query : Nat) (f : Failure) : Bool :=
  match s.answers.lookup query with
  | some (.error other) => decide (other = f)
  | _ => false

/-- An engine that panics when it runs a certain script. -/
def fragile (bringUp : List Action) : Program :=
  { Session.starting bringUp with scripts := [("p", [.panic])] }

/-- Two scripts and the shutdown are asked for during bring-up. If the loop comes up, each call is
answered for itself, the engine's panic to the one whose script it was; if the engine panics in
bring-up, nobody is there. -/
theorem own_answer_asked :
    (∃ d t k b taken, Arises d ∧ d.session.askScript "s" "p" = (.ok 1, t) ∧
      Path ⟨t, d.hand, d.guards⟩ k b ∧ b.Started ∧ b.session.answers.map (·.1) = [2, 1, 0] ∧
        (.script "s" "p" 1, taken) ∈ k ∧ taken.lock = .free ∧
        b.session.answerOf 1 = .ofAnswer (taken.outcome (.script "s" "p" 1)) ∧
        failedWith b.session 1 (.engine (.script "'p' panicked")) = true) ∧
    ∃ d t k b, Arises d ∧ d.session.askScript "s" "p" = (.ok 1, t) ∧
      Path ⟨t, d.hand, d.guards⟩ k b ∧ b.Stillborn ∧
        b.session.answerOf 1 = .failed .disconnected := by
  have fresh : ∀ bringUp steps,
      Session.Fresh ((Session.plain (fragile bringUp)).earlySteps steps).2.2 := fun bringUp steps =>
    Session.earlySteps_fresh steps (Session.plain_fresh _)
  let queued : List HostStep := [.act (.script "s" "n")]
  let all : List HostStep := [.act (.script "s" "n"), .act (.script "s" "p"), .act .shutdown]
  have dealing : ∀ bringUp,
      Dealing ⟨((Session.plain (fragile bringUp)).earlySteps queued).2.2, none, 1⟩
        (.script "s" "p") (·.askScript "s" "p") := fun bringUp =>
    Arises.own_answer (fresh bringUp queued).desk rfl
  have shut : ∀ bringUp, Path
      ⟨(((Session.plain (fragile bringUp)).earlySteps queued).2.2.askScript "s" "p").2, none, 1⟩ []
      ⟨((Session.plain (fragile bringUp)).earlySteps all).2.2, none, 1⟩ := fun bringUp =>
    .step .none (.askedShutdown _ none 1)
  refine ⟨?_, ?_⟩
  · obtain ⟨s, r, found⟩ := @Session.Fresh.scenario _ 50 []
      (fun s => decide (s.loop = .ended ∧ s.answers.map (·.1) = [2, 1, 0] ∧ s.lock = .free) &&
        failedWith s 1 (.engine (.script "'p' panicked"))) (fresh [] all) (by decide +kernel)
    obtain ⟨found, panicked⟩ := (Bool.and_eq_true_iff ..).1 found
    obtain ⟨ended, answers, free⟩ := of_decide_eq_true found
    have started := r.desk_started (fresh [] all) (by decide +kernel)
    obtain ⟨m, call, -, fate⟩ := (dealing []).accepted rfl
    obtain rfl := Option.some.inj call
    obtain ⟨k, onward⟩ := r.onward (fresh [] all) (shut [])
    have fate := fate k ⟨s, none, 0⟩ onward
    obtain ⟨taken, took, -, told⟩ := fate.answered started rfl
      fun running => nomatch ended.symm.trans running
    exact ⟨_, _, k, ⟨s, none, 0⟩, taken, (fresh [] queued).desk, rfl, onward, started, answers,
      took, fate.free free _ took, told, panicked⟩
  · obtain ⟨s, r, -⟩ := @Session.Fresh.scenario _ 50 [] (fun _ => true)
      (fresh [.panic] all) (by decide +kernel)
    have stillborn := r.desk_stillborn (fresh [.panic] all) (by decide +kernel)
    obtain ⟨m, call, -, fate⟩ := (dealing [.panic]).accepted rfl
    obtain ⟨k, onward⟩ := r.onward (fresh [.panic] all) (shut [.panic])
    exact ⟨_, _, k, ⟨s, none, 0⟩, (fresh [.panic] queued).desk, rfl, onward, stillborn,
      (fate k ⟨s, none, 0⟩ onward).lost stillborn⟩

/-- Whether a script has been given to the engine. -/
def isScript : Entry → Bool
  | .script .. => true
  | _ => false

/-- Whether a call returns. -/
def returns {ε α : Type} : Outcome ε α → Bool
  | .ok _ => true
  | _ => false

theorem exists_of_returns {ε α : Type} {outcome : Outcome ε α} (h : returns outcome = true) :
    ∃ a, outcome = .ok a := by
  cases outcome with
  | ok a => exact ⟨a, rfl⟩
  | _ => cases h

/-- Where an observer has kept the execution lock, a script that would give a value is said to have
panicked, and it has not been run. -/
theorem answered_for_nothing : ∃ s, Session.Reached Session.leaking .loop s ∧
    s.loop = .running ∧ failedWith s 0 (.engine (.script "'n' panicked")) = true ∧
    (∀ source name, .script name source ∉ s.log) ∧
    ∃ v, (({ s with lock := ⟨some .loop⟩ } : Session).runScript .loop "s" "n").1 = .ok v := by
  obtain ⟨s, r, found⟩ := @Session.Fresh.scenario Session.leaking 50 [.act (.script "s" "n")]
    (fun s => decide (s.loop = .running) && failedWith s 0 (.engine (.script "'n' panicked")) &&
      decide (s.log.any isScript = false) &&
      returns (({ s with lock := ⟨some .loop⟩ } : Session).runScript .loop "s" "n").1)
    (Session.earlySteps_fresh _ (Session.plain_fresh _)) (by decide +kernel)
  simp only [Bool.and_eq_true, decide_eq_true_eq] at found
  obtain ⟨⟨⟨running, failed⟩, unrun⟩, value⟩ := found
  exact ⟨s, r, running, failed, fun source name mem => List.any_eq_false.1 unrun _ mem rfl,
    exists_of_returns value⟩

end Desk
end ScriptHost
