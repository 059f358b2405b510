import Mathlib.Algebra.GroupWithZero.Nat
import Mathlib.Data.List.Count
import Mathlib.Data.List.Nodup
import ScriptHost.Custody.Trial

/-!
# The life of a pair in custody

Whatever is asked of custody, and however the engine ends its calls, a pair is released once for
each time it has been taken, or is still live. This is true between two operations, and it is true
of what the engine finds when it is called in the middle of one.

## Main definitions

* `Custody.Trial` — a bench, and what was asked and answered on the way to it.
* `Custody.Glimpse` — what the engine finds when it is called.
* `Custody.Bench.glimpses` — what the engine finds during an operation.
* `Custody.Accounted` — the pairs taken are released or live, and the failed releases are counted.

## Main statements

* `Custody.Bench.glimpses_calls` — the engine gets the calls of the glimpses and no other ones.
* `Custody.handle_life` — the accounts are right at every moment of every trial.

## Design notes

The engine of a bench does not look at custody. The glimpses come from the same operations, run with
an engine that also writes down what it finds; `Bench.retire_watched` and `Bench.sweep_watched` say
that nothing else changes.
-/

namespace ScriptHost
namespace Custody

/-! ## Accounts -/

/-- Whether a call releases a pair. -/
def Touch.releases (p : Pair) : Touch → Bool
  | .dispose q => decide (q = p)
  | .invoke _ _ => false

/-- How often some calls release a pair. -/
def releases (p : Pair) (calls : List Touch) : Nat := calls.countP (Touch.releases p)

/-- Whether the engine says that it could not release the pair of a call. -/
def Touch.isRefused (manner : Manner) (before : List Touch) (t : Touch) : Bool :=
  match t, manner before t with
  | .dispose _, .failed _ => true
  | _, _ => false

/-- How many releases the engine has reported as failed in calls that came after others. -/
def refusals (manner : Manner) (before : List Touch) : List Touch → Nat
  | [] => 0
  | t :: later => (t.isRefused manner before).toNat + refusals manner (before ++ [t]) later

/-- How often an operation with a given answer has taken a pair. -/
def Operation.taken (p : Pair) : Operation × Reply → Nat
  | (.adopt q, .flag true) => [q].count p
  | (.adoptAll pairs, .flag true) => pairs.count p
  | _ => 0

/-- How often a pair has been taken in what was asked and answered. -/
def adoptions (answered : List (Operation × Reply)) (p : Pair) : Nat :=
  (answered.map (Operation.taken p)).sum

/-- The pairs taken have been released or are live; the releases that have failed are counted. The
calls made may include one that has not ended. -/
structure Accounted (manner : Manner) (taken : Pair → Nat) (c : Custody)
    (made ended : List Touch) : Prop where
  nodup : c.live.Nodup
  once : ∀ p, taken p = releases p made + if c.isLive p then 1 else 0
  failures : c.failures = refusals manner [] ended

theorem releases_append (p : Pair) (calls more : List Touch) :
    releases p (calls ++ more) = releases p calls + releases p more := List.countP_append

@[simp] theorem releases_invoke (p q : Pair) (arguments : List Json.Value) :
    releases p [.invoke q arguments] = 0 := rfl

theorem releases_dispose (p q : Pair) :
    releases p [.dispose q] = if q = p then 1 else 0 := by
  by_cases same : q = p <;> simp [releases, Touch.releases, same]

theorem refusals_append (manner : Manner) (before calls : List Touch) (t : Touch) :
    refusals manner before (calls ++ [t]) =
      refusals manner before calls + (t.isRefused manner (before ++ calls)).toNat := by
  induction calls generalizing before with
  | nil => simp [refusals]
  | cons c rest ih =>
    simp only [List.cons_append, refusals, ih, List.append_assoc, List.nil_append]
    omega

theorem adoptions_append (answered : List (Operation × Reply)) (last : Operation × Reply)
    (p : Pair) :
    adoptions (answered ++ [last]) p = adoptions answered p + Operation.taken p last := by
  simp [adoptions]

theorem isLive_iff {c : Custody} {p : Pair} : c.isLive p = true ↔ p ∈ c.live := by
  simp [isLive]

namespace Accounted

variable {manner : Manner} {taken : Pair → Nat} {c : Custody} {made ended : List Touch}

/-- A call that runs a callback changes nothing. -/
theorem invoke (h : Accounted manner taken c made ended) (p : Pair)
    (arguments : List Json.Value) :
    Accounted manner taken c (made ++ [.invoke p arguments]) ended where
  nodup := h.nodup
  once q := by rw [releases_append, releases_invoke, Nat.add_zero]; exact h.once q
  failures := h.failures

/-- A pair that is being released is no longer live. -/
theorem dispose (h : Accounted manner taken c made ended) {p : Pair} (live : c.isLive p = true) :
    Accounted manner taken { c with live := c.live.erase p } (made ++ [.dispose p]) ended where
  nodup := h.nodup.erase p
  once q := by
    have before := h.once q
    rw [releases_append, releases_dispose]
    by_cases same : p = q
    · subst same
      have gone : ¬ p ∈ c.live.erase p := fun mem => (h.nodup.mem_erase_iff.1 mem).1 rfl
      rw [if_pos live] at before
      rw [if_pos rfl, if_neg (by rwa [isLive_iff])]
      omega
    · have unchanged : q ∈ c.live.erase p ↔ q ∈ c.live :=
        List.mem_erase_of_ne (Ne.symm same)
      simp only [isLive_iff] at before
      simp only [isLive_iff, unchanged, if_neg same]
      omega
  failures := h.failures

/-- A call has ended, and its failure is counted. -/
theorem ends {t : Touch} (h : Accounted manner taken c made ended) :
    Accounted manner taken
      { c with failures := c.failures + (t.isRefused manner ended).toNat } made (ended ++ [t]) where
  nodup := h.nodup
  once := h.once
  failures := by
    rw [refusals_append, List.nil_append]
    exact congrArg (· + _) h.failures

/-- What is in line does not matter. -/
theorem buried (h : Accounted manner taken c made ended) (pairs : List Pair) :
    Accounted manner taken { c with buried := pairs } made ended :=
  ⟨h.nodup, h.once, h.failures⟩

/-- New pairs are taken, each once. -/
theorem adopt (h : Accounted manner taken c made ended) {pairs : List Pair}
    (fits : c.canAdopt pairs = true) :
    Accounted manner (fun p => taken p + pairs.count p) { c with live := c.live ++ pairs }
      made ended where
  nodup := by
    simp only [canAdopt, Bool.and_eq_true, decide_eq_true_eq, List.all_eq_true] at fits
    refine List.Nodup.append h.nodup fits.1 fun p live mem => ?_
    have fresh := fits.2 p mem
    rw [isLive_iff.2 live] at fresh
    cases fresh
  once p := by
    simp only [canAdopt, Bool.and_eq_true, decide_eq_true_eq, List.all_eq_true] at fits
    have before := h.once p
    by_cases mem : p ∈ pairs
    · have fresh : c.isLive p = false := by simpa using fits.2 p mem
      have after : p ∈ c.live ++ pairs := List.mem_append_right _ mem
      rw [fresh, if_neg Bool.false_ne_true] at before
      simp only [isLive_iff, if_pos after, List.count_eq_one_of_mem fits.1 mem]
      omega
    · simp only [isLive_iff, List.mem_append, mem, or_false, List.count_eq_zero_of_not_mem mem]
      simp only [isLive_iff] at before
      omega
  failures := h.failures

end Accounted

/-! ## Glimpses -/

/-- What the engine finds when it is called. -/
structure Glimpse where
  custody : Custody
  /-- The calls that have ended. -/
  earlier : List Touch
  current : Touch

/-- The accounts are right when the engine is called. -/
def Glimpse.Accounted (manner : Manner) (taken : Pair → Nat) (g : Glimpse) : Prop :=
  Custody.Accounted manner taken g.custody (g.earlier ++ [g.current]) g.earlier

namespace Bench

/-- A way to release a pair that also writes down what the engine finds. -/
def watched (manner : Manner) : Disposer (List Touch × List Glimpse) := fun p s =>
  let (result, calls) := touch manner (.dispose p) s.2.1
  (result, s.1, calls, s.2.2 ++ [⟨s.1, s.2.1, .dispose p⟩])

/-- What the engine finds during an operation, each time it is called. -/
def glimpses (manner : Manner) (b : Bench) : Operation → List Glimpse
  | .invoke p arguments =>
    if b.custody.isLive p then [⟨b.custody, b.calls, .invoke p arguments⟩] else []
  | .retire p => (Custody.retire (watched manner) p (b.custody, b.calls, [])).2.2.2
  | .sweep => (Custody.sweep (watched manner) (b.custody, b.calls, [])).2.2.2
  | _ => []

section
variable (manner : Manner) (p : Pair) (c : Custody) (calls : List Touch) (seen : List Glimpse)

/-- A release of a live pair, with the glimpse of it. -/
theorem retire_live (live : c.isLive p = true) :
    (Custody.retire (watched manner) p (c, calls, seen)).2 =
      ({ c with
          live := c.live.erase p
          failures := c.failures + ((Touch.dispose p).isRefused manner calls).toNat },
        calls ++ [.dispose p],
        seen ++ [⟨{ c with live := c.live.erase p }, calls, .dispose p⟩]) := by
  simp only [Custody.retire, watched, touch, Touch.isRefused, live, if_true]
  cases manner calls (.dispose p) <;> rfl

theorem retire_retired (gone : c.isLive p = false) :
    (Custody.retire (watched manner) p (c, calls, seen)).2 = (c, calls, seen) := by
  simp [Custody.retire, gone]

/-- Writing down what the engine finds changes nothing else about a release. -/
theorem retire_watched :
    let watching := Custody.retire (watched manner) p (c, calls, seen)
    Custody.retire (disposer manner) p (c, calls) =
      (watching.1, watching.2.1, watching.2.2.1) := by
  by_cases live : c.isLive p
  · simp only [Custody.retire, watched, disposer, touch, live, if_true]
    cases manner calls (.dispose p) <;> rfl
  · simp [Custody.retire, live]

theorem retireAll_watched (pairs : List Pair) :
    let watching := Custody.retireAll (watched manner) pairs (c, calls, seen)
    Custody.retireAll (disposer manner) pairs (c, calls) =
      (watching.1, watching.2.1, watching.2.2.1) := by
  induction pairs generalizing c calls seen with
  | nil => rfl
  | cons p rest ih =>
    have first := retire_watched manner p c calls seen
    simp only [Custody.retireAll]
    rw [first]
    rcases Custody.retire (watched manner) p (c, calls, seen) with ⟨result, c, calls, seen⟩
    have others := ih c calls seen
    simp only at others ⊢
    rw [others]
    cases result <;> rfl

/-- Writing down what the engine finds changes nothing else about a sweep. -/
theorem sweep_watched :
    let watching := Custody.sweep (watched manner) (c, calls, seen)
    Custody.sweep (disposer manner) (c, calls) = (watching.1, watching.2.1, watching.2.2.1) :=
  retireAll_watched manner { c with buried := [] } calls seen c.buried

end

/-! ## What an operation does to the accounts -/

section
variable {manner : Manner} {taken : Pair → Nat}

/-- Where an operation has led, given what the engine has found meanwhile: the accounts were right
each time, and the calls are those that had been made before and those that were found. -/
structure Led (manner : Manner) (taken : Pair → Nat) (base : List Touch)
    (s : Custody × List Touch × List Glimpse) : Prop where
  accounted : Accounted manner taken s.1 s.2.1 s.2.1
  glimpsed : ∀ g ∈ s.2.2, g.Accounted manner taken
  releasing : ∀ g ∈ s.2.2, ∃ p, g.current = .dispose p
  calls : s.2.1 = base ++ s.2.2.map Glimpse.current

variable {base : List Touch} {s : Custody × List Touch × List Glimpse}

theorem Led.retire (h : Led manner taken base s) (p : Pair) :
    Led manner taken base (Custody.retire (watched manner) p s).2 := by
  obtain ⟨c, calls, seen⟩ := s
  by_cases live : c.isLive p
  · have during := h.accounted.dispose live
    rw [retire_live manner p c calls seen live]
    refine ⟨during.ends, fun g mem => ?_, fun g mem => ?_, ?_⟩
    · rcases List.mem_append.1 mem with earlier | last
      · exact h.glimpsed g earlier
      · obtain rfl := List.mem_singleton.1 last
        exact during
    · rcases List.mem_append.1 mem with earlier | last
      · exact h.releasing g earlier
      · obtain rfl := List.mem_singleton.1 last
        exact ⟨p, rfl⟩
    · simp only [List.map_append, ← List.append_assoc]
      exact congrArg (· ++ [Touch.dispose p]) h.calls
  · rw [retire_retired manner p c calls seen (Bool.eq_false_iff.2 live)]
    exact h

theorem retireAll_cons_snd {σ : Type} (dispose : Disposer σ) (p : Pair) (rest : List Pair)
    (s : Custody × σ) :
    (Custody.retireAll dispose (p :: rest) s).2 =
      (Custody.retireAll dispose rest (Custody.retire dispose p s).2).2 := by
  simp only [Custody.retireAll]
  split <;> rfl

theorem Led.retireAll (h : Led manner taken base s) (pairs : List Pair) :
    Led manner taken base (Custody.retireAll (watched manner) pairs s).2 := by
  induction pairs generalizing s with
  | nil => exact h
  | cons p rest ih =>
    rw [retireAll_cons_snd]
    exact ih (h.retire p)

theorem Led.sweep (h : Led manner taken base s) :
    Led manner taken base (Custody.sweep (watched manner) s).2 :=
  Led.retireAll (s := ({ s.1 with buried := [] }, s.2))
    ⟨h.accounted.buried [], h.glimpsed, h.releasing, h.calls⟩ _

/-- Before an operation begins nothing has been found. -/
theorem led_start {b : Bench} (h : Accounted manner taken b.custody b.calls b.calls) :
    Led manner taken b.calls (b.custody, b.calls, []) :=
  ⟨h, fun _ mem => (List.not_mem_nil mem).elim, fun _ mem => (List.not_mem_nil mem).elim, by simp⟩

variable {b : Bench}

/-- Every time the engine is called, the accounts are right. -/
theorem glimpses_accounted (h : Accounted manner taken b.custody b.calls b.calls)
    (op : Operation) : ∀ g ∈ b.glimpses manner op, g.Accounted manner taken := by
  cases op with
  | invoke p arguments =>
    intro g mem
    simp only [glimpses] at mem
    split at mem
    · obtain rfl := List.mem_singleton.1 mem
      exact h.invoke p arguments
    · cases mem
  | retire p => exact ((led_start h).retire p).glimpsed
  | sweep => exact (led_start h).sweep.glimpsed
  | _ => exact fun _ mem => (List.not_mem_nil mem).elim

/-- A callback runs when it is asked for and its pair is live. -/
theorem glimpses_invoke (h : Accounted manner taken b.custody b.calls b.calls)
    (op : Operation) (p : Pair) (arguments : List Json.Value) :
    (∃ g ∈ b.glimpses manner op, g.current = .invoke p arguments) ↔
      op = .invoke p arguments ∧ b.custody.isLive p = true := by
  constructor
  · rintro ⟨g, mem, runs⟩
    cases op with
    | invoke q given =>
      simp only [glimpses] at mem
      split at mem
      · obtain rfl := List.mem_singleton.1 mem
        cases runs
        exact ⟨rfl, ‹_›⟩
      · cases mem
    | retire q =>
      obtain ⟨r, releasing⟩ := ((led_start h).retire q).releasing g mem
      cases releasing.symm.trans runs
    | sweep =>
      obtain ⟨r, releasing⟩ := (led_start h).sweep.releasing g mem
      cases releasing.symm.trans runs
    | _ => cases mem
  · rintro ⟨rfl, live⟩
    refine ⟨⟨b.custody, b.calls, .invoke p arguments⟩, ?_, rfl⟩
    simp [glimpses, live]

theorem perform_retire (manner : Manner) (b : Bench) (p : Pair) :
    (b.perform manner (.retire p)).2 =
      ⟨(Custody.retire (watched manner) p (b.custody, b.calls, [])).2.1,
        (Custody.retire (watched manner) p (b.custody, b.calls, [])).2.2.1⟩ := by
  simp only [perform, retire_watched manner p b.custody b.calls []]

theorem perform_sweep (manner : Manner) (b : Bench) :
    (b.perform manner .sweep).2 =
      ⟨(Custody.sweep (watched manner) (b.custody, b.calls, [])).2.1,
        (Custody.sweep (watched manner) (b.custody, b.calls, [])).2.2.1⟩ := by
  simp only [perform, sweep_watched manner b.custody b.calls []]

theorem adopt_of_fits {pairs : List Pair} (fits : b.custody.canAdopt pairs = true) :
    b.adopt pairs =
      (.flag true, { b with custody := { b.custody with live := b.custody.live ++ pairs } }) := by
  simp [adopt, adopt?, fits]

theorem adopt_of_not_fits {pairs : List Pair} (unfit : b.custody.canAdopt pairs = false) :
    b.adopt pairs = (.flag false, b) := by
  simp [adopt, adopt?, unfit]

/-- The engine gets the calls of the glimpses and no other ones. -/
theorem glimpses_calls (h : Accounted manner taken b.custody b.calls b.calls)
    (op : Operation) :
    (b.perform manner op).2.calls = b.calls ++ (b.glimpses manner op).map Glimpse.current := by
  have adopting (pairs : List Pair) : (b.adopt pairs).2.calls = b.calls := by
    cases fits : b.custody.canAdopt pairs with
    | true => rw [adopt_of_fits fits]
    | false => rw [adopt_of_not_fits fits]
  cases op with
  | adopt p => simp [perform, glimpses, adopting]
  | adoptAll pairs => simp [perform, glimpses, adopting]
  | invoke p arguments =>
    cases live : b.custody.isLive p <;> simp [perform, glimpses, touch, live]
  | retire p =>
    rw [perform_retire]
    exact ((led_start h).retire p).calls
  | sweep =>
    rw [perform_sweep]
    exact (led_start h).sweep.calls
  | _ => simp [perform, glimpses]

/-- An operation leaves the accounts right. -/
theorem perform_accounted (h : Accounted manner taken b.custody b.calls b.calls)
    (op : Operation) :
    Accounted manner (fun p => taken p + Operation.taken p (op, (b.perform manner op).1))
      (b.perform manner op).2.custody (b.perform manner op).2.calls
      (b.perform manner op).2.calls := by
  cases op with
  | adopt q =>
    cases fits : b.custody.canAdopt [q] with
    | true =>
      rw [show b.perform manner (.adopt q) = _ from adopt_of_fits fits]
      exact h.adopt fits
    | false =>
      rw [show b.perform manner (.adopt q) = _ from adopt_of_not_fits fits]
      exact h
  | adoptAll pairs =>
    cases fits : b.custody.canAdopt pairs with
    | true =>
      rw [show b.perform manner (.adoptAll pairs) = _ from adopt_of_fits fits]
      exact h.adopt fits
    | false =>
      rw [show b.perform manner (.adoptAll pairs) = _ from adopt_of_not_fits fits]
      exact h
  | invoke p arguments =>
    cases live : b.custody.isLive p with
    | true =>
      simp only [perform, touch, live, if_true]
      exact (h.invoke p arguments).ends (t := .invoke p arguments)
    | false =>
      simp only [perform, live, Bool.false_eq_true, if_false]
      exact h
  | retire p =>
    rw [perform_retire]
    exact ((led_start h).retire p).accounted
  | sweep =>
    rw [perform_sweep]
    exact (led_start h).sweep.accounted
  | bury p =>
    simp only [perform, Custody.bury]
    split
    · exact h
    · exact h.buried _
  | _ => exact h

end
end Bench

/-! ## Trials -/

/-- A bench, and what was asked and answered on the way to it. -/
structure Trial where
  answered : List (Operation × Reply)
  bench : Bench

/-- One more operation. -/
def Trial.proceed (manner : Manner) (t : Trial) (op : Operation) : Trial :=
  let (reply, bench) := t.bench.perform manner op
  ⟨t.answered ++ [(op, reply)], bench⟩

/-- Operations one after the other, with nothing in custody at first. -/
def trial (manner : Manner) (ops : List Operation) : Trial :=
  ops.foldl (Trial.proceed manner) ⟨[], .fresh⟩

/-- The accounts of a trial. -/
def Trial.Accounted (manner : Manner) (t : Trial) : Prop :=
  Custody.Accounted manner (adoptions t.answered) t.bench.custody t.bench.calls t.bench.calls

namespace Trial

variable {manner : Manner}

theorem Accounted.fresh : Accounted manner ⟨[], .fresh⟩ :=
  ⟨.nil, fun _ => rfl, rfl⟩

theorem Accounted.proceed {t : Trial} (h : t.Accounted manner) (op : Operation) :
    (t.proceed manner op).Accounted manner := by
  have after := Bench.perform_accounted h op
  have taken : adoptions (t.proceed manner op).answered = fun p =>
      adoptions t.answered p + Operation.taken p (op, (t.bench.perform manner op).1) :=
    funext fun p => adoptions_append ..
  unfold Accounted
  rw [taken]
  exact after

/-- The accounts are right after any operations. -/
theorem accounted (manner : Manner) (ops : List Operation) :
    (trial manner ops).Accounted manner := by
  have run (t : Trial) (h : t.Accounted manner) :
      (ops.foldl (Trial.proceed manner) t).Accounted manner := by
    induction ops generalizing t with
    | nil => exact h
    | cons op rest ih => exact ih _ (h.proceed op)
  exact run _ .fresh

end Trial

/-! ## The life of a pair -/

/-- After any operations, and whatever is asked for next: every pair has been released once for each
time it was taken, or is still live, also whenever the engine is called in the middle of the next
operation; a callback runs exactly if it is asked for and its pair is live; pairs are taken together
exactly if they are different and none of them is live; a burial neither calls the engine nor ends
the life of a pair. -/
theorem handle_life (manner : Manner) (ops : List Operation) :
    let t := trial manner ops
    let b := t.bench
    (∀ p, adoptions t.answered p = releases p b.calls + if b.custody.isLive p then 1 else 0) ∧
    b.custody.failures = refusals manner [] b.calls ∧
    (∀ op,
      (b.perform manner op).2.calls = b.calls ++ (b.glimpses manner op).map Glimpse.current ∧
      (∀ g ∈ b.glimpses manner op,
        (∀ p, adoptions t.answered p =
          releases p (g.earlier ++ [g.current]) + if g.custody.isLive p then 1 else 0) ∧
        g.custody.failures = refusals manner [] g.earlier) ∧
      ∀ p arguments, (∃ g ∈ b.glimpses manner op, g.current = .invoke p arguments) ↔
        op = .invoke p arguments ∧ b.custody.isLive p = true) ∧
    (∀ pairs : List Pair,
      if pairs.Nodup ∧ ∀ p ∈ pairs, b.custody.isLive p = false then
        ∃ after, b.perform manner (.adoptAll pairs) = (.flag true, after) ∧
          after.calls = b.calls ∧
          ∀ p, after.custody.isLive p = (b.custody.isLive p || decide (p ∈ pairs))
      else b.perform manner (.adoptAll pairs) = (.flag false, b)) ∧
    ∀ p, let after := (b.perform manner (.bury p)).2
      after.calls = b.calls ∧ ∀ q, after.custody.isLive q = b.custody.isLive q := by
  intro t b
  have h : t.Accounted manner := Trial.accounted manner ops
  refine ⟨h.once, h.failures, fun op => ?_, fun pairs => ?_, fun p => ?_⟩
  · refine ⟨Bench.glimpses_calls h op, fun g mem => ?_, Bench.glimpses_invoke h op⟩
    have found := Bench.glimpses_accounted h op g mem
    exact ⟨found.once, found.failures⟩
  · have fits : b.custody.canAdopt pairs = true ↔
        pairs.Nodup ∧ ∀ p ∈ pairs, b.custody.isLive p = false := by
      simp [canAdopt]
    split
    · next fit =>
      refine ⟨_, Bench.adopt_of_fits (fits.2 fit), rfl, fun p => ?_⟩
      simp [isLive]
    · next unfit =>
      exact Bench.adopt_of_not_fits (Bool.eq_false_iff.2 fun fit => unfit (fits.1 fit))
  · refine ⟨rfl, fun q => ?_⟩
    show (b.custody.bury p).isLive q = b.custody.isLive q
    unfold Custody.bury
    split <;> rfl

end Custody
end ScriptHost
