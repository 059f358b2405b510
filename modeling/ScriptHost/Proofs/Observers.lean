import Mathlib.Data.List.Count
import Mathlib.Data.List.Infix
import ScriptHost.Proofs.Lifecycle
import ScriptHost.Readiness.Trial

/-!
# Observers of readiness

Whatever the host does with observers, and whatever they do themselves when they are told, an
observer is told once if readiness is announced at some time and it has not been taken out before,
and never otherwise.

## Main definitions

* `Readiness.Early`, `Readiness.Late`, `Readiness.Spread` — what is noticed before the announcement,
  behind it, and while those who have waited are told.
* `Readiness.Notice.Apt` — a notice is in its place behind others.
* `Readiness.Prompt` — whoever is added is told at once.

## Main statements

* `Readiness.Trial.announce_eq` — what an announcement does when observers announce as well.
* `Readiness.Trial.IsEarly.play` — the notices of a trial.
* `Readiness.observers_told` — who is told, when, and in which order.
-/

namespace ScriptHost
namespace Readiness

/-! ## What is noticed behind the announcement -/

/-- The observers that have been added, in that order. -/
def addedOf (h : List Notice) : List Nat := h.filterMap fun
  | .added index => some index
  | _ => none

/-- The observers that have been told, in that order. -/
def toldOf (h : List Notice) : List Nat := h.filterMap fun
  | .told index => some index
  | _ => none

/-- What is noticed behind the announcement, from one next number to another: whoever comes is told
at once and may do such things meanwhile, and nobody is found waiting. -/
inductive Late : Nat → List Notice → Nat → Prop where
  | none (n : Nat) : Late n [] n
  | added {n m k : Nat} {inner rest : List Notice} (body : Late (n + 1) inner m)
      (behind : Late m rest k) : Late n (.added n :: .told n :: (inner ++ rest)) k
  | missed {n k : Nat} {rest : List Notice} (index : Nat) (behind : Late n rest k) :
      Late n (.removed index false :: rest) k

theorem Late.append {n m k : Nat} {h h' : List Notice} (l : Late n h m) (l' : Late m h' k) :
    Late n (h ++ h') k := by
  induction l with
  | none => exact l'
  | added body _ _ ih => simpa using Late.added body (ih l')
  | missed index _ ih => exact .missed index (ih l')

namespace Trial

variable {spread : Trial → Trial}

/-- A trial behind the announcement. -/
def late (next : Nat) (notices : List Notice) : Trial := ⟨⟨true, next, []⟩, notices⟩

/-- Where steps lead behind the announcement. -/
def GoesLate (n : Nat) (h : List Notice) (t : Trial) : Prop :=
  ∃ more k, Late n more k ∧ t = late k (h ++ more)

mutual

theorem perform_late (idle : ∀ n h, spread (late n h) = late n h) :
    (step : Step) → (n : Nat) → (h : List Notice) →
      GoesLate n h (perform spread step (late n h))
  | .add steps, n, h => by
    obtain ⟨more, k, body, played⟩ :=
      play_late idle steps (n + 1) (h ++ [.added n] ++ [.told n])
    refine ⟨.added n :: .told n :: (more ++ []), k, .added body (.none k), ?_⟩
    have begun : perform spread (.add steps) (late n h) =
        play spread steps (late (n + 1) (h ++ [.added n] ++ [.told n])) := rfl
    rw [begun, played]
    simp [late]
  | .remove index, n, h => ⟨[.removed index false], n, .missed index (.none n), rfl⟩
  | .announce, n, h => ⟨[], n, .none n, by rw [perform, idle, List.append_nil]⟩
  | .panic, n, h => ⟨[], n, .none n, by rw [perform, List.append_nil]⟩

theorem play_late (idle : ∀ n h, spread (late n h) = late n h) :
    (steps : List Step) → (n : Nat) → (h : List Notice) →
      GoesLate n h (play spread steps (late n h))
  | [], n, h => ⟨[], n, .none n, by rw [play, List.append_nil]⟩
  | step :: rest, n, h => by
    obtain ⟨more, m, first, performed⟩ := perform_late idle step n h
    obtain ⟨more', k, others, played⟩ := play_late idle rest m (h ++ more)
    cases step with
    | panic => exact ⟨[], n, .none n, by rw [play, List.append_nil]⟩
    | _ =>
      refine ⟨more ++ more', k, first.append others, ?_⟩
      rw [play, performed, played, List.append_assoc]
      simp

end

theorem announce_late (n : Nat) (h : List Notice) : announce (late n h) = late n h := rfl

/-! ## The announcement -/

section
variable {spread' : Trial → Trial}

mutual

theorem perform_congr (idle : ∀ n h, spread (late n h) = late n h)
    (idle' : ∀ n h, spread' (late n h) = late n h) :
    (step : Step) → (n : Nat) → (h : List Notice) →
      perform spread step (late n h) = perform spread' step (late n h)
  | .add steps, n, h => by
    show play spread steps (late (n + 1) (h ++ [.added n] ++ [.told n])) =
      play spread' steps (late (n + 1) (h ++ [.added n] ++ [.told n]))
    exact play_congr idle idle' steps ..
  | .remove _, _, _ => rfl
  | .announce, n, h => by rw [perform, perform, idle, idle']
  | .panic, _, _ => rfl

theorem play_congr (idle : ∀ n h, spread (late n h) = late n h)
    (idle' : ∀ n h, spread' (late n h) = late n h) :
    (steps : List Step) → (n : Nat) → (h : List Notice) →
      play spread steps (late n h) = play spread' steps (late n h)
  | [], _, _ => rfl
  | step :: rest, n, h => by
    obtain ⟨more, m, -, performed⟩ := perform_late idle step n h
    have same := perform_congr idle idle' step n h
    cases step with
    | panic => rfl
    | _ =>
      rw [play, play, ← same, performed, play_congr idle idle' rest m]
      all_goals simp

end

theorem tell_congr (idle : ∀ n h, spread (late n h) = late n h)
    (idle' : ∀ n h, spread' (late n h) = late n h) (observers : List (Nat × List Step)) (n : Nat)
    (h : List Notice) : tell spread observers (late n h) = tell spread' observers (late n h) := by
  induction observers generalizing n h with
  | nil => rfl
  | cons observer rest ih =>
    obtain ⟨more, m, -, played⟩ := play_late idle observer.2 n (h ++ [.told observer.1])
    have same := play_congr idle idle' observer.2 n (h ++ [.told observer.1])
    show tell spread rest (play spread observer.2 (late n (h ++ [.told observer.1]))) =
      tell spread' rest (play spread' observer.2 (late n (h ++ [.told observer.1])))
    rw [← same, played, ih]

end

/-- An announcement when observers announce as well: those announcements find nobody. -/
theorem announce_eq (t : Trial) :
    announce t =
      if t.readiness.ready then t
      else tell announce t.readiness.announce.1
        ({ t with readiness := t.readiness.announce.2 }.note .announced) := by
  cases ready : t.readiness.ready with
  | true => simp [announce, ready]
  | false =>
    simp only [announce, ready, Readiness.announce, Bool.false_eq_true, if_false]
    have idle (n : Nat) (h : List Notice) : id (late n h) = late n h := rfl
    exact tell_congr idle announce_late ..

end Trial

/-- What is noticed while those who have waited are told, from one next number to another. -/
inductive Spread : List Nat → Nat → List Notice → Nat → Prop where
  | none (n : Nat) : Spread [] n [] n
  | told {index n m k : Nat} {waiting : List Nat} {inner rest : List Notice}
      (body : Late n inner m) (others : Spread waiting m rest k) :
      Spread (index :: waiting) n (.told index :: (inner ++ rest)) k

theorem Trial.tell_spread (observers : List (Nat × List Step)) (n : Nat) (h : List Notice) :
    ∃ more k, Spread (observers.map Prod.fst) n more k ∧
      tell id observers (late n h) = late k (h ++ more) := by
  have idle (n : Nat) (h : List Notice) : id (late n h) = late n h := rfl
  induction observers generalizing n h with
  | nil => exact ⟨[], n, .none n, by rw [List.append_nil]; rfl⟩
  | cons observer rest ih =>
    obtain ⟨inner, m, body, played⟩ :=
      play_late idle observer.2 n (h ++ [.told observer.1])
    obtain ⟨more, k, others, spread⟩ := ih m (h ++ [.told observer.1] ++ inner)
    refine ⟨.told observer.1 :: (inner ++ more), k, .told body others, ?_⟩
    show tell id rest (play id observer.2 (late n (h ++ [.told observer.1]))) = _
    rw [played, spread]
    simp [late]

/-! ## What is noticed before it -/

/-- What is noticed before the announcement, with the next number and those who wait. -/
inductive Early : List Notice → Nat → List Nat → Prop where
  | none : Early [] 0 []
  | added {h : List Notice} {n : Nat} {waiting : List Nat} (before : Early h n waiting) :
      Early (h ++ [.added n]) (n + 1) (waiting ++ [n])
  | removed {h : List Notice} {n : Nat} {waiting : List Nat} (before : Early h n waiting)
      (index : Nat) :
      Early (h ++ [.removed index (decide (index ∈ waiting))]) n (waiting.filter (· ≠ index))

/-- The notices of a trial: there has been no announcement, or those who were waiting have been told
behind it, and then there may have been more. -/
inductive Noticed : List Notice → Prop where
  | early {h : List Notice} {n : Nat} {waiting : List Nat} (e : Early h n waiting) : Noticed h
  | announced {h spread rest : List Notice} {n m k : Nat} {waiting : List Nat}
      (e : Early h n waiting) (s : Spread waiting n spread m) (l : Late m rest k) :
      Noticed (h ++ .announced :: (spread ++ rest))

namespace Trial

/-- A trial before the announcement. -/
structure IsEarly (t : Trial) : Prop where
  unready : t.readiness.ready = false
  early : Early t.notices t.readiness.nextIndex (t.readiness.waiting.map Prod.fst)
  own : ∀ w ∈ t.readiness.waiting, w.2.1 = w.1

theorem IsEarly.fresh : IsEarly ⟨.pending, []⟩ :=
  ⟨rfl, .none, fun _ mem => (List.not_mem_nil mem).elim⟩

theorem IsEarly.add {t : Trial} (e : t.IsEarly) (steps : List Step) :
    (perform spread (.add steps) t).IsEarly := by
  obtain ⟨⟨ready, n, waiting⟩, h⟩ := t
  obtain rfl : ready = false := e.unready
  refine ⟨rfl, ?_, fun w mem => ?_⟩
  · have before := e.early.added
    simpa [perform, Readiness.add, note] using before
  · rcases List.mem_append.1 mem with mem | mem
    · exact e.own w mem
    · obtain rfl := List.mem_singleton.1 mem
      rfl

theorem IsEarly.remove {t : Trial} (e : t.IsEarly) (index : Nat) :
    (perform spread (.remove index) t).IsEarly := by
  obtain ⟨⟨ready, n, waiting⟩, h⟩ := t
  obtain rfl : ready = false := e.unready
  refine ⟨rfl, ?_, fun w mem => e.own w (List.mem_of_mem_filter mem)⟩
  have found : isWaiting ⟨false, n, waiting⟩ index =
      decide (index ∈ waiting.map Prod.fst) := by
    rw [Bool.eq_iff_iff]
    simp [isWaiting]
  have left : (waiting.filter (·.1 ≠ index)).map Prod.fst =
      (waiting.map Prod.fst).filter (· ≠ index) := by
    rw [List.filter_map]
    rfl
  have before := e.early.removed index
  show Early (h ++ [.removed index _]) n ((waiting.filter (·.1 ≠ index)).map Prod.fst)
  rw [found, left]
  exact before

/-- Those who wait are told when readiness is announced. -/
theorem IsEarly.announce {t : Trial} (e : t.IsEarly) :
    ∃ spread k, Spread (t.readiness.waiting.map Prod.fst) t.readiness.nextIndex spread k ∧
      t.announce = late k (t.notices ++ .announced :: spread) := by
  obtain ⟨⟨ready, n, waiting⟩, h⟩ := t
  obtain rfl : ready = false := e.unready
  obtain ⟨more, k, spread, told⟩ := tell_spread (waiting.map Prod.snd) n (h ++ [.announced])
  have own : (waiting.map Prod.snd).map Prod.fst = waiting.map Prod.fst := by
    rw [List.map_map]
    exact List.map_congr_left e.own
  refine ⟨more, k, own ▸ spread, ?_⟩
  show tell id (waiting.map Prod.snd) (late n (h ++ [.announced])) = _
  rw [told, List.append_assoc]
  rfl

/-- Steps of the host, from before the announcement. -/
theorem IsEarly.play {t : Trial} (e : t.IsEarly) (steps : List Step) :
    Noticed (Trial.play Trial.announce steps t).notices := by
  induction steps generalizing t with
  | nil => exact .early e.early
  | cons step rest ih =>
    cases step with
    | panic => exact .early e.early
    | add steps =>
      rw [Trial.play]
      · exact ih (e.add steps)
      · exact nofun
    | remove index =>
      rw [Trial.play]
      · exact ih (e.remove index)
      · exact nofun
    | announce =>
      obtain ⟨spread, m, s, announced⟩ := e.announce
      obtain ⟨more, k, l, played⟩ :=
        play_late announce_late rest m (t.notices ++ .announced :: spread)
      rw [Trial.play, perform, announced, played]
      · have noticed := Noticed.announced e.early s l
        simpa [late] using noticed
      · exact nofun

end Trial

/-! ## Notices in their places -/

section
variable {before h h' rest : List Notice} {n m k : Nat} {waiting : List Nat}

/-- A notice is in its place behind others. -/
def Notice.Apt (before : List Notice) : Notice → Prop
  | .added index => .added index ∉ before
  | .told index =>
    .announced ∈ before ∧ .added index ∈ before ∧ .removed index true ∉ before
  | .removed index found =>
    found = true ↔
      .added index ∈ before ∧ .announced ∉ before ∧ .removed index true ∉ before
  | .announced => .announced ∉ before

/-- Each notice is in its place behind those before it. -/
def AllApt (before : List Notice) : List Notice → Prop
  | [] => True
  | x :: rest => x.Apt before ∧ AllApt (before ++ [x]) rest

theorem allApt_append : AllApt before (h ++ h') ↔ AllApt before h ∧ AllApt (before ++ h) h' := by
  induction h generalizing before with
  | nil => simp [AllApt]
  | cons x rest ih => simp [AllApt, ih, and_assoc]

theorem AllApt.apt (a : AllApt [] h) {x : Notice} (split : h = before ++ x :: rest) :
    x.Apt before := by
  rw [split, allApt_append, List.nil_append] at a
  exact a.2.1

/-- Whoever is added is told at once. -/
def Prompt : List Notice → Prop
  | [] => True
  | .added index :: rest => rest.head? = some (.told index) ∧ Prompt rest
  | _ :: rest => Prompt rest

theorem Prompt.append (p : Prompt h) (p' : Prompt h') : Prompt (h ++ h') := by
  induction h with
  | nil => exact p'
  | cons x rest ih =>
    cases x with
    | added index =>
      obtain ⟨next, p⟩ := p
      have first : (rest ++ h').head? = some (.told index) := by rw [List.head?_append, next]; rfl
      exact ⟨first, ih p⟩
    | _ => exact ih p

theorem Prompt.next (p : Prompt h) {index : Nat} (split : h = before ++ .added index :: rest) :
    rest.head? = some (.told index) := by
  induction before generalizing h with
  | nil =>
    rw [split] at p
    exact p.1
  | cons x others ih =>
    rw [split, List.cons_append] at p
    cases x with
    | added _ => exact ih p.2 rfl
    | _ => exact ih (h := others ++ .added index :: rest) p rfl

theorem Late.prompt (l : Late n h k) : Prompt h := by
  induction l with
  | none => trivial
  | added _ _ ih ih' => exact ⟨rfl, ih.append ih'⟩
  | missed _ _ ih => exact ih

theorem Spread.prompt (s : Spread waiting n h k) : Prompt h := by
  induction s with
  | none => trivial
  | told body _ ih => exact body.prompt.append ih

/-! ## Numbers -/

theorem Late.le (l : Late n h k) : n ≤ k := by
  induction l with
  | none => exact Nat.le_refl _
  | added _ _ ih ih' => omega
  | missed _ _ ih => exact ih

theorem Spread.le (s : Spread waiting n h k) : n ≤ k := by
  induction s with
  | none => exact Nat.le_refl _
  | told body _ ih => exact body.le.trans ih

/-- Behind the announcement whoever gets a number is told, and nobody else. -/
theorem Late.count_told (l : Late n h k) (index : Nat) :
    h.count (.told index) = if n ≤ index ∧ index < k then 1 else 0 := by
  induction l with
  | none => simp
  | added body behind ih ih' =>
    have le := body.le
    have le' := behind.le
    simp only [List.count_cons, List.count_append, ih, ih', beq_iff_eq, Notice.told.injEq,
      reduceCtorEq, if_false]
    split_ifs <;> omega
  | missed _ _ ih => simpa using ih

theorem Late.mem_added (l : Late n h k) (index : Nat) :
    .added index ∈ h ↔ n ≤ index ∧ index < k := by
  induction l with
  | none => simp
  | added body behind ih ih' =>
    have le := body.le
    have le' := behind.le
    simp only [List.mem_cons, List.mem_append, ih, ih', Notice.added.injEq, reduceCtorEq, false_or]
    omega
  | missed _ _ ih => simpa using ih

theorem Late.not_found (l : Late n h k) (index : Nat) : .removed index true ∉ h := by
  induction l with
  | none => simp
  | added _ _ ih ih' => simp [ih, ih']
  | missed _ _ ih => simp [ih]

theorem Late.not_announced (l : Late n h k) : .announced ∉ h := by
  induction l with
  | none => simp
  | added _ _ ih ih' => simp [ih, ih']
  | missed _ _ ih => simp [ih]

/-- While those who have waited are told, they are told once each, and so is whoever comes. -/
theorem Spread.count_told (s : Spread waiting n h k) (index : Nat) :
    h.count (.told index) = waiting.count index + if n ≤ index ∧ index < k then 1 else 0 := by
  induction s with
  | none => simp
  | told body others ih =>
    have le := body.le
    have le' := others.le
    simp only [List.count_cons, List.count_append, ih, body.count_told, beq_iff_eq,
      Notice.told.injEq]
    split_ifs <;> omega

theorem Spread.mem_added (s : Spread waiting n h k) (index : Nat) :
    .added index ∈ h ↔ n ≤ index ∧ index < k := by
  induction s with
  | none => simp
  | told body others ih =>
    have le := body.le
    have le' := others.le
    simp only [List.mem_cons, List.mem_append, ih, body.mem_added, reduceCtorEq, false_or]
    omega

theorem Spread.not_found (s : Spread waiting n h k) (index : Nat) : .removed index true ∉ h := by
  induction s with
  | none => simp
  | told body _ ih => simp [body.not_found, ih]

theorem Spread.not_announced (s : Spread waiting n h k) : .announced ∉ h := by
  induction s with
  | none => simp
  | told body _ ih => simp [body.not_announced, ih]

/-! ## Before the announcement -/

theorem Early.mem_added (e : Early h n waiting) (index : Nat) :
    .added index ∈ h ↔ index < n := by
  induction e with
  | none => simp
  | added _ ih =>
    simp only [List.mem_append, ih, List.mem_singleton, Notice.added.injEq]
    omega
  | removed _ _ ih => simpa using ih

theorem Early.not_announced (e : Early h n waiting) : .announced ∉ h := by
  induction e with
  | none => simp
  | added _ ih => simpa using ih
  | removed _ _ ih => simpa using ih

theorem Early.not_told (e : Early h n waiting) (index : Nat) : .told index ∉ h := by
  induction e with
  | none => simp
  | added _ ih => simpa using ih
  | removed _ _ ih => simpa using ih

theorem Early.waiting_lt (e : Early h n waiting) {index : Nat} (waits : index ∈ waiting) :
    index < n := by
  induction e with
  | none => cases waits
  | added _ ih =>
    rcases List.mem_append.1 waits with waits | last
    · exact (ih waits).trans (Nat.lt_succ_self _)
    · exact List.mem_singleton.1 last ▸ Nat.lt_succ_self _
  | removed _ _ ih => exact ih (List.mem_of_mem_filter waits)

/-- Only those who have come are taken out. -/
theorem Early.found_lt (e : Early h n waiting) {index : Nat} (found : .removed index true ∈ h) :
    index < n := by
  induction e with
  | none => cases found
  | added _ ih => exact (ih (by simpa using found)).trans (Nat.lt_succ_self _)
  | removed before other ih =>
    rcases List.mem_append.1 found with found | last
    · exact ih found
    · simp only [List.mem_singleton, Notice.removed.injEq] at last
      obtain ⟨rfl, waits⟩ := last
      exact before.waiting_lt (of_decide_eq_true waits.symm)

theorem Early.addedOf_eq (e : Early h n waiting) : addedOf h = List.range n := by
  induction e with
  | none => rfl
  | added _ ih => rw [List.range_succ, ← ih]; simp [addedOf]
  | removed _ _ ih => rw [← ih]; simp [addedOf]

/-- Those wait who have come and have not been taken out, in the order in which they came. -/
theorem Early.waiting_eq (e : Early h n waiting) :
    waiting = (addedOf h).filter fun index => decide (.removed index true ∉ h) := by
  rw [e.addedOf_eq]
  induction e with
  | none => rfl
  | @added h n waiting before ih =>
    have fresh : .removed n true ∉ h := fun found => absurd (before.found_lt found) (by omega)
    have same : (List.range n).filter (fun index =>
        decide (.removed index true ∉ h ++ [.added n])) = waiting := by
      rw [ih]
      exact List.filter_congr fun index _ => by simp
    rw [List.range_succ, List.filter_append, same]
    simp [fresh]
  | @removed h n waiting before other ih =>
    have waits (index : Nat) : index ∈ waiting ↔ index < n ∧ .removed index true ∉ h := by
      rw [ih]
      simp
    nth_rewrite 1 [ih]
    rw [List.filter_filter]
    refine List.filter_congr fun index mem => ?_
    rw [← Bool.decide_and, decide_eq_decide]
    simp only [List.mem_range] at mem
    by_cases same : index = other
    · subst same
      simp [waits, mem]
    · simp [same]

theorem Early.mem_waiting (e : Early h n waiting) (index : Nat) :
    index ∈ waiting ↔ index < n ∧ .removed index true ∉ h := by
  have eq := e.waiting_eq
  rw [e.addedOf_eq] at eq
  rw [eq]
  simp

theorem Early.waiting_nodup (e : Early h n waiting) : waiting.Nodup := by
  have eq := e.waiting_eq
  rw [e.addedOf_eq] at eq
  rw [eq]
  exact List.nodup_range.filter _

theorem Early.allApt (e : Early h n waiting) : AllApt [] h := by
  induction e with
  | none => trivial
  | @added h n waiting before ih =>
    refine allApt_append.2 ⟨ih, fun mem => ?_, trivial⟩
    exact absurd ((before.mem_added n).1 mem) (Nat.lt_irrefl n)
  | @removed h n waiting before index ih =>
    refine allApt_append.2 ⟨ih, ?_, trivial⟩
    simp only [Notice.Apt, List.nil_append, decide_eq_true_eq, before.mem_waiting,
      before.mem_added, before.not_announced, not_false_eq_true, true_and]

/-! ## Behind the announcement -/

/-- Readiness has been announced, and numbers from `n` on have not been given out. -/
structure Announced (before : List Notice) (n : Nat) : Prop where
  announced : .announced ∈ before
  added : ∀ index, n ≤ index → .added index ∉ before
  found : ∀ index, n ≤ index → .removed index true ∉ before

theorem Announced.late (a : Announced before n) (l : Late n h k) : Announced (before ++ h) k where
  announced := List.mem_append_left _ a.announced
  added index le mem := by
    have late := l.le
    rcases List.mem_append.1 mem with mem | mem
    · exact a.added index (by omega) mem
    · have new := (l.mem_added index).1 mem
      omega
  found index le mem := by
    have late := l.le
    rcases List.mem_append.1 mem with mem | mem
    · exact a.found index (by omega) mem
    · exact l.not_found index mem

/-- Whoever comes is added and told. -/
theorem Announced.next (a : Announced before n) :
    Announced (before ++ [.added n] ++ [.told n]) (n + 1) where
  announced := by simp [a.announced]
  added index le mem := by
    have old := a.added index (by omega)
    simp only [List.mem_append, old, List.mem_singleton, Notice.added.injEq, reduceCtorEq,
      or_false, false_or] at mem
    omega
  found index le mem := by
    have old := a.found index (by omega)
    simp [old] at mem

theorem Announced.more (a : Announced before n) {x : Notice} (old : ∀ index, x ≠ .added index)
    (lost : ∀ index, x ≠ .removed index true) : Announced (before ++ [x]) n where
  announced := List.mem_append_left _ a.announced
  added index le := by simp [a.added index le, (old index).symm]
  found index le := by simp [a.found index le, (lost index).symm]

theorem Late.allApt (l : Late n h k) (a : Announced before n) : AllApt before h := by
  induction l generalizing before with
  | none => trivial
  | @added n m k inner rest body behind ih ih' =>
    have told : (Notice.told n).Apt (before ++ [.added n]) :=
      ⟨List.mem_append_left _ a.announced, by simp, by simp [a.found n (Nat.le_refl n)]⟩
    have begun := a.next
    exact ⟨a.added n (Nat.le_refl n), told,
      allApt_append.2 ⟨ih begun, ih' (begun.late body)⟩⟩
  | missed index _ ih =>
    refine ⟨?_, ih (a.more nofun nofun)⟩
    simp [Notice.Apt, a.announced]

theorem Announced.spread (a : Announced before n) (s : Spread waiting n h k) :
    Announced (before ++ h) k := by
  induction s generalizing before with
  | none => simpa using a
  | @told index n m k waiting inner rest body _ ih =>
    have told := ih ((a.more (x := .told index) nofun nofun).late body)
    simpa using told

/-- Those who wait are told. -/
theorem Spread.allApt (s : Spread waiting n h k) (a : Announced before n)
    (came : ∀ index ∈ waiting, .added index ∈ before ∧ .removed index true ∉ before) :
    AllApt before h := by
  induction s generalizing before with
  | none => trivial
  | @told index n m k waiting inner rest body _ ih =>
    obtain ⟨added, kept⟩ := came index List.mem_cons_self
    have begun := a.more (x := .told index) nofun nofun
    refine ⟨⟨a.announced, added, kept⟩, allApt_append.2 ⟨body.allApt begun, ?_⟩⟩
    refine ih (begun.late body) fun other mem => ?_
    obtain ⟨added, kept⟩ := came other (List.mem_cons_of_mem _ mem)
    simp [added, kept, body.not_found]

/-- Every notice of a trial is in its place. -/
theorem Noticed.allApt (noticed : Noticed h) : AllApt [] h := by
  cases noticed with
  | early e => exact e.allApt
  | @announced h spread rest n m k waiting e s l =>
    have a : Announced (h ++ [.announced]) n := by
      refine ⟨by simp, fun index le => ?_, fun index le => ?_⟩
      · simp [e.mem_added, le]
      · have early : .removed index true ∉ h := fun found => absurd (e.found_lt found) (by omega)
        simp [early]
    have came : ∀ index ∈ waiting, .added index ∈ h ++ [.announced] ∧
        .removed index true ∉ h ++ [.announced] := fun index waits => by
      obtain ⟨came, kept⟩ := (e.mem_waiting index).1 waits
      simp [e.mem_added, came, kept]
    refine allApt_append.2 ⟨e.allApt, e.not_announced, ?_⟩
    exact allApt_append.2 ⟨s.allApt a came, l.allApt (a.spread s)⟩

/-- An observer is told once if it is added, readiness is announced at some time, and it is not
taken out; otherwise it is never told. -/
theorem Noticed.count_told (noticed : Noticed h) (index : Nat) :
    h.count (.told index) =
      if .added index ∈ h ∧ .announced ∈ h ∧ .removed index true ∉ h then 1 else 0 := by
  cases noticed with
  | early e => simp [e.not_announced, List.count_eq_zero_of_not_mem (e.not_told index)]
  | @announced h spread rest n m k waiting e s l =>
    have le := s.le
    have le' := l.le
    have once : waiting.count index = if index < n ∧ .removed index true ∉ h then 1 else 0 := by
      rw [e.waiting_nodup.count, if_congr (e.mem_waiting index) rfl rfl]
    simp only [List.count_append, List.count_cons, s.count_told, l.count_told, once,
      List.count_eq_zero_of_not_mem (e.not_told index), List.mem_append, List.mem_cons,
      e.mem_added, s.mem_added, l.mem_added, s.not_found, l.not_found,
      reduceCtorEq, beq_iff_eq, if_false, false_or, or_false, true_or, or_true, true_and]
    by_cases found : .removed index true ∈ h
    · have came := e.found_lt found
      simp only [found, not_true_eq_false, and_false, if_false]
      split_ifs <;> omega
    · simp only [found, not_false_eq_true, and_true]
      split_ifs <;> omega

/-! ## The order in which observers are told -/

theorem mem_toldOf {index : Nat} : index ∈ toldOf h ↔ .told index ∈ h := by
  simp only [toldOf, List.mem_filterMap]
  constructor
  · rintro ⟨x, mem, eq⟩
    cases x with
    | told other => exact Option.some.inj eq ▸ mem
    | _ => cases eq
  · exact fun mem => ⟨_, mem, rfl⟩

theorem mem_addedOf {index : Nat} : index ∈ addedOf h ↔ .added index ∈ h := by
  simp only [addedOf, List.mem_filterMap]
  constructor
  · rintro ⟨x, mem, eq⟩
    cases x with
    | added other => exact Option.some.inj eq ▸ mem
    | _ => cases eq
  · exact fun mem => ⟨_, mem, rfl⟩

theorem toldOf_append : toldOf (h ++ h') = toldOf h ++ toldOf h' := List.filterMap_append ..

/-- Behind the announcement only those are told who have come there. -/
theorem Late.told_filter (l : Late n h k) {bound : Nat} (le : bound ≤ n) :
    (toldOf h).filter (· < bound) = [] := by
  refine List.filter_eq_nil_iff.2 fun index mem => ?_
  have some_time := List.count_pos_iff.2 (mem_toldOf.1 mem)
  rw [l.count_told] at some_time
  simp only [decide_eq_true_eq]
  split_ifs at some_time <;> omega

/-- Those who have waited are told in the order in which they came. -/
theorem Spread.told_filter (s : Spread waiting n h k) {bound : Nat} (le : bound ≤ n)
    (lt : ∀ index ∈ waiting, index < bound) : (toldOf h).filter (· < bound) = waiting := by
  induction s with
  | none => rfl
  | @told index n m k waiting inner rest body _ ih =>
    obtain ⟨first, lt⟩ := List.forall_mem_cons.1 lt
    have late := body.le
    have others := ih (by omega) lt
    show (index :: toldOf (inner ++ rest)).filter (· < bound) = index :: waiting
    rw [toldOf_append, List.filter_cons_of_pos (by simpa using first), List.filter_append,
      body.told_filter le, others, List.nil_append]

theorem Noticed.order (noticed : Noticed h) (split : h = before ++ .announced :: rest) :
    (toldOf rest).filter (· ∈ addedOf before) =
        (addedOf before).filter (.removed · true ∉ before) ∧ Prompt rest := by
  cases noticed with
  | early e => exact absurd (by simp [split]) e.not_announced
  | @announced h spread late n m k waiting e s l =>
    have once : .announced ∉ spread ++ late := by
      simp [s.not_announced, l.not_announced]
    obtain ⟨rfl, -, rfl⟩ := (List.append_cons_inj_of_notMem e.not_announced once).1 split
    refine ⟨?_, s.prompt.append l.prompt⟩
    have numbered (index : Nat) : decide (index ∈ addedOf h) = decide (index < n) := by
      exact decide_eq_decide.2 (mem_addedOf.trans (e.mem_added index))
    have behind := l.told_filter s.le
    have spread := s.told_filter (Nat.le_refl n) fun index => e.waiting_lt
    simp only [numbered, toldOf_append, List.filter_append, behind, spread, List.append_nil]
    exact e.waiting_eq

end

/-- Readiness is announced when the host announces it. -/
theorem Trial.IsEarly.announced_iff {t : Trial} (e : t.IsEarly) {steps : List Step}
    (calm : ∀ step ∈ steps, step ≠ .panic) :
    .announced ∈ (Trial.play Trial.announce steps t).notices ↔ .announce ∈ steps := by
  induction steps generalizing t with
  | nil => simp [Trial.play, e.early.not_announced]
  | cons step rest ih =>
    obtain ⟨sober, others⟩ := List.forall_mem_cons.1 calm
    have first : Trial.play Trial.announce (step :: rest) t =
        Trial.play Trial.announce rest (Trial.perform Trial.announce step t) := by
      rw [Trial.play]
      exact sober
    rw [first]
    cases step with
    | panic => exact absurd rfl sober
    | add steps => simp [ih (e.add steps) others]
    | remove index => simp [ih (e.remove index) others]
    | announce =>
      obtain ⟨spread, m, -, announced⟩ := e.announce
      obtain ⟨more, k, -, played⟩ :=
        Trial.play_late Trial.announce_late rest m (t.notices ++ .announced :: spread)
      rw [Trial.perform, announced, played]
      simp [Trial.late]

/-! ## Who is told -/

/-- Whatever the host does with observers, and whatever the observers do when they are told: an
observer is told once if it is added, readiness is announced before or behind that, and it is not
taken out; otherwise it is never told. Nobody is told before the announcement, and an observer is
taken out exactly if it still waits. Those who wait when readiness is announced are told in the
order in which they came; whoever comes later is told at once. Readiness is announced when the host
announces it. In a session it is announced exactly when the session becomes ready. -/
theorem observers_told (steps : List Step) :
    let h := (trial steps).notices
    (∀ index, h.count (.told index) =
      if .added index ∈ h ∧ .announced ∈ h ∧ .removed index true ∉ h then 1 else 0) ∧
    (∀ before x rest, h = before ++ x :: rest → x.Apt before) ∧
    (∀ before rest, h = before ++ .announced :: rest →
      (toldOf rest).filter (· ∈ addedOf before) =
        (addedOf before).filter (.removed · true ∉ before) ∧
      ∀ between index behind, rest = between ++ .added index :: behind →
        behind.head? = some (.told index)) ∧
    ((∀ step ∈ steps, step ≠ .panic) → (.announced ∈ h ↔ .announce ∈ steps)) ∧
    ∀ (m : Moment) (marks : List Mark), m.ComesAfter marks →
      (m.session.readiness.ready = true ↔ .entered .ready ∈ marks) := by
  intro h
  have early : Trial.IsEarly ⟨.pending, []⟩ := .fresh
  have noticed : Noticed h := early.play steps
  refine ⟨noticed.count_told, fun before x rest => noticed.allApt.apt, fun before rest split => ?_,
    fun calm => ?_, fun m marks comesAfter => ?_⟩
  · obtain ⟨order, prompt⟩ := noticed.order split
    exact ⟨order, fun between index behind => prompt.next⟩
  · exact Trial.IsEarly.announced_iff early calm
  · obtain ⟨origin, spawned, c⟩ := comesAfter
    obtain ⟨tidy, sound, -⟩ := (Moment.Arises.upkeep ⟨[], origin, spawned, .none _⟩)
    have told := (c.upheld tidy).2.told sound
    obtain ⟨settings, locale, program, modules, rfl⟩ := Moment.spawned_eq spawned
    have untold : ¬ (Session.create settings locale program modules).readiness.ready = true := nofun
    have entered : .ready ∈ phasesOf marks ↔ .entered .ready ∈ marks := by
      simp only [phasesOf, List.mem_filterMap]
      refine ⟨?_, fun mem => ⟨_, mem, rfl⟩⟩
      rintro ⟨mark, mem, eq⟩
      cases mark with
      | entered phase => exact Option.some.inj eq ▸ mem
      | _ => cases eq
    exact (told.trans (or_iff_right untold)).trans entered

/-- Three observers: one that enters another, takes it and the next one out in vain, and panics; one
that is taken out; and one that announces readiness itself. -/
def nested : List Step :=
  [.add [.add [.panic], .remove 3, .remove 2, .panic], .add [], .add [.announce], .remove 1,
    .announce, .add [.add []]]

/-- All but the one that was taken out are told once, and so it is in a session. -/
theorem observers_told_nested :
    (∀ step ∈ nested, step ≠ .panic) ∧
      toldOf (trial nested).notices = [0, 3, 2, 4, 5] ∧
      .announced ∈ (trial nested).notices ∧
      Moment.ComesAfter ⟨Session.readied, .nothing⟩ [.entered .ready] ∧
      Session.readied.readiness.ready = true := by
  obtain ⟨-, -, -, announced, ready⟩ := observers_told nested
  have calm : ∀ step ∈ nested, step ≠ .panic := by simp [nested]
  refine ⟨calm, by decide +kernel, (announced calm).2 (by simp [nested]),
    Session.readied_comesAfter, ?_⟩
  exact (ready _ _ Session.readied_comesAfter).2 (by simp)

end Readiness
end ScriptHost
