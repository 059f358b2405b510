import Mathlib.Data.List.Induction
import ScriptHost.Proofs.Custodian

/-!
# The sweep of the line

A sweep releases the pairs that are in line when it begins. The engine may refuse a pair, panic over
it, or put other pairs in line while it is being called; the other pairs of the batch are released
all the same, and what is put in line meanwhile is left for the next sweep.

## Main definitions

* `Custody.Disposal` — a call by which the engine is asked to release a pair.
* `Custody.recorded` — an engine that also writes down the calls it gets.
* `Custody.disposals` — the calls of a sweep.
* `Custody.Clearance` — what comes of releasing some pairs one after the other.

## Main statements

* `Custody.retireAll_clearance` — pairs are released one after the other, whatever becomes of each.
* `Custody.sweep_attempts` — what a sweep does to what has been put in line, and the next sweep.

## Design notes

The engine is any function that puts known pairs in line and does not take or release any itself.
Its state is not looked at, so that what it does may depend on all the calls it has got.
-/

namespace ScriptHost

/-! ## Lists without repetitions -/

section
variable {α : Type} [BEq α] [LawfulBEq α]

theorem eraseDups_concat (l : List α) (a : α) :
    (l ++ [a]).eraseDups = if l.contains a then l.eraseDups else l.eraseDups ++ [a] := by
  rw [List.eraseDups_append, List.cons_removeAll]
  cases l.contains a <;> simp [List.removeAll, List.eraseDups_cons]

theorem eraseDups_filter (keep : α → Bool) (l : List α) :
    (l.filter keep).eraseDups = l.eraseDups.filter keep := by
  induction l using List.reverseRecOn with
  | nil => rfl
  | append_singleton l a ih =>
    rw [List.filter_append, eraseDups_concat]
    cases kept : keep a with
    | false => cases l.contains a <;> simp [ih, kept]
    | true =>
      have same : (l.filter keep).contains a = l.contains a := by
        simp [kept]
      rw [List.filter_cons_of_pos kept, List.filter_nil, eraseDups_concat, same, ih]
      cases l.contains a <;> simp [kept]

theorem eraseDups_nodup (l : List α) : l.eraseDups.Nodup := by
  induction l using List.reverseRecOn with
  | nil => exact List.nodup_nil
  | append_singleton l a ih =>
    rw [eraseDups_concat]
    split
    · exact ih
    next fresh =>
      have fresh : a ∉ l.eraseDups := by simpa using fresh
      exact List.concat_eq_append ▸ ih.concat fresh

end

namespace Custody

variable {σ : Type}

/-! ## The line -/

section
variable (c : Custody) (pairs more : List Pair)

theorem buryAll_append : c.buryAll (pairs ++ more) = (c.buryAll pairs).buryAll more :=
  List.foldl_append ..

/-- Nothing but the line is touched by a burial. -/
theorem bury_rest (p : Pair) :
    (c.bury p).live = c.live ∧ (c.bury p).failures = c.failures := by
  rw [bury]
  split <;> exact ⟨rfl, rfl⟩

theorem buryAll_rest :
    (c.buryAll pairs).live = c.live ∧ (c.buryAll pairs).failures = c.failures := by
  induction pairs generalizing c with
  | nil => exact ⟨rfl, rfl⟩
  | cons p rest ih =>
    have first := c.bury_rest p
    have others := ih (c.bury p)
    exact ⟨others.1.trans first.1, others.2.trans first.2⟩

/-- What is put in line depends on the line only. -/
theorem buryAll_congr {c d : Custody} (same : c.buried = d.buried) (pairs : List Pair) :
    (c.buryAll pairs).buried = (d.buryAll pairs).buried := by
  induction pairs generalizing c d with
  | nil => exact same
  | cons p rest ih =>
    apply ih
    have there : c.isBuried p = d.isBuried p := by rw [isBuried, isBuried, same]
    rw [bury, bury, there]
    by_cases buried : d.isBuried p = true
    · rw [if_pos buried, if_pos buried]
      exact same
    · rw [if_neg buried, if_neg buried]
      exact congrArg (· ++ [p]) same

/-- Of several burials of a pair the first one decides its place. -/
theorem buryAll_buried (live : List Pair) (failures : Nat) :
    ((⟨live, [], failures⟩ : Custody).buryAll pairs).buried = pairs.eraseDups := by
  induction pairs using List.reverseRecOn with
  | nil => rfl
  | append_singleton pairs p ih =>
    have there : ((⟨live, [], failures⟩ : Custody).buryAll pairs).isBuried p =
        pairs.contains p := by
      rw [isBuried, ih]
      simp
    rw [buryAll_append, eraseDups_concat, ← ih, ← there]
    show (Custody.bury _ p).buried = _
    rw [bury]
    split <;> rfl

/-- What is buried later comes behind what is in line. -/
theorem buryAll_behind {c : Custody} (line : c.buried = pairs.eraseDups) (more : List Pair) :
    (c.buryAll more).buried = (pairs ++ more).eraseDups := by
  have gathered : c.buried = ((⟨c.live, [], c.failures⟩ : Custody).buryAll pairs).buried := by
    rw [line, buryAll_buried]
  rw [buryAll_congr gathered, ← buryAll_append, buryAll_buried]

end

/-! ## The calls of a sweep -/

/-- A call by which the engine is asked to release a pair: what it finds, how the call ends and what
it leaves. -/
structure Disposal (σ : Type) where
  pair : Pair
  found : Custody × σ
  outcome : Outcome EngineFailure Unit
  left : Custody × σ

/-- Whether a call ends well. -/
def Disposal.succeeds (call : Disposal σ) : Bool := call.outcome = .ok ()

/-- Whether a call ends with a failure that the engine reports. -/
def Disposal.isRefused (call : Disposal σ) : Bool :=
  match call.outcome with
  | .failed _ => true
  | _ => false

/-- The pairs that are put in line in the course of some calls. -/
def meanwhile (buries : Pair → Custody × σ → List Pair) (calls : List (Disposal σ)) : List Pair :=
  calls.flatMap fun call => buries call.pair call.found

/-- An engine that also writes down the calls it gets. -/
def recorded (dispose : Disposer σ) : Disposer (σ × List (Disposal σ)) := fun p s =>
  let (outcome, left) := dispose p (s.1, s.2.1)
  (outcome, left.1, left.2, s.2.2 ++ [⟨p, (s.1, s.2.1), outcome, left⟩])

/-- The calls that a sweep makes. -/
def disposals (dispose : Disposer σ) (c : Custody) (t : σ) : List (Disposal σ) :=
  (sweep (recorded dispose) (c, t, [])).2.2.2

/-- The call by which a live pair is released. -/
def disposal (dispose : Disposer σ) (p : Pair) (c : Custody) (t : σ) : Disposal σ :=
  let found : Custody × σ := ({ c with live := c.live.erase p }, t)
  ⟨p, found, (dispose p found).1, (dispose p found).2⟩

/-- What is held after a call: a failure that the engine reports is counted. -/
def Disposal.leaves (call : Disposal σ) : Custody :=
  { call.left.1 with failures := call.left.1.failures + call.isRefused.toNat }

section
variable (dispose : Disposer σ) (p : Pair) (c : Custody) (t : σ) (seen : List (Disposal σ))

theorem retire_of_live (live : c.isLive p = true) :
    let call := disposal dispose p c t
    retire dispose p (c, t) = (call.outcome.ofEngine, call.leaves, call.left.2) := by
  simp only [retire, live, if_true, disposal, Disposal.leaves, Disposal.isRefused]
  rcases dispose p ({ c with live := c.live.erase p }, t) with ⟨outcome, left⟩
  cases outcome <;> rfl

/-- A live pair is counted by how its call ends. -/
theorem retireAll_cons_of_live (live : c.isLive p = true) (rest : List Pair) :
    let call := disposal dispose p c t
    let others := retireAll dispose rest (call.leaves, call.left.2)
    retireAll dispose (p :: rest) (c, t) =
      (if call.succeeds then { others.1 with disposed := others.1.disposed + 1 }
        else { others.1 with failed := others.1.failed + 1 }, others.2) := by
  intro call others
  have first : retire dispose p (c, t) = (call.outcome.ofEngine, call.leaves, call.left.2) :=
    retire_of_live dispose p c t live
  cases ends : call.outcome <;>
    simp [retireAll, first, Disposal.succeeds, ends, Outcome.ofEngine, others]

theorem retire_of_gone (gone : c.isLive p = false) :
    retire dispose p (c, t) = (.failed (.retired p), c, t) := by
  simp [retire, gone]

/-- The call for a live pair is written down. -/
theorem retire_recorded_of_live (live : c.isLive p = true) :
    let call := disposal dispose p c t
    retire (recorded dispose) p (c, t, seen) =
      (call.outcome.ofEngine, call.leaves, call.left.2, seen ++ [call]) :=
  retire_of_live (recorded dispose) p c (t, seen) live

/-- Writing down the calls changes nothing else about a release. -/
theorem retire_recorded :
    let recording := retire (recorded dispose) p (c, t, seen)
    retire dispose p (c, t) = (recording.1, recording.2.1, recording.2.2.1) := by
  by_cases live : c.isLive p = true
  · rw [retire_recorded_of_live dispose p c t seen live, retire_of_live dispose p c t live]
  · have gone : c.isLive p = false := Bool.eq_false_iff.2 live
    rw [retire_of_gone (recorded dispose) p c (t, seen) gone, retire_of_gone dispose p c t gone]

theorem retireAll_recorded (pairs : List Pair) :
    let recording := retireAll (recorded dispose) pairs (c, t, seen)
    retireAll dispose pairs (c, t) = (recording.1, recording.2.1, recording.2.2.1) := by
  induction pairs generalizing c t seen with
  | nil => rfl
  | cons p rest ih =>
    have first := retire_recorded dispose p c t seen
    simp only [retireAll]
    rw [first]
    rcases retire (recorded dispose) p (c, t, seen) with ⟨result, c, t, seen⟩
    have others := ih c t seen
    simp only at others ⊢
    rw [others]
    cases result <;> rfl

/-- Writing down the calls changes nothing else about a sweep. -/
theorem sweep_recorded :
    sweep (recorded dispose) (c, t, []) =
      ((sweep dispose (c, t)).1, (sweep dispose (c, t)).2.1, (sweep dispose (c, t)).2.2,
        disposals dispose c t) := by
  have same := retireAll_recorded dispose { c with buried := [] } t [] c.buried
  show _ = ((retireAll ..).1, (retireAll ..).2.1, (retireAll ..).2.2, _)
  rw [same]
  rfl

end

/-! ## Releasing pairs one after the other -/

/-- What comes of releasing some pairs one after the other: the calls that are made, the report, and
what is held afterwards. -/
structure Clearance (dispose : Disposer σ) (buries : Pair → Custody × σ → List Pair)
    (pairs : List Pair) (c : Custody) (calls : List (Disposal σ)) (report : SweepReport)
    (after : Custody) : Prop where
  handed : calls.map Disposal.pair = pairs.filter c.live.contains
  genuine : ∀ call ∈ calls, (call.outcome, call.left) = dispose call.pair call.found
  found : ∀ earlier call later, calls = earlier ++ call :: later →
    call.found.1.live = c.live.diff (earlier.map Disposal.pair ++ [call.pair])
  total : report.disposed + report.failed = pairs.length
  disposed : report.disposed = calls.countP Disposal.succeeds
  live : after.live = c.live.diff pairs
  failures : after.failures = c.failures + calls.countP Disposal.isRefused
  buried : after.buried = (c.buryAll (meanwhile buries calls)).buried

section
variable {dispose : Disposer σ} {buries : Pair → Custody × σ → List Pair} {p : Pair}
  {rest : List Pair} {c : Custody} {t : σ} {calls : List (Disposal σ)} {report : SweepReport}
  {after : Custody}

theorem Clearance.nil : Clearance dispose buries [] c [] ⟨0, 0⟩ c where
  handed := rfl
  genuine _ mem := (List.not_mem_nil mem).elim
  found earlier _ _ eq := by cases earlier <;> cases eq
  total := rfl
  disposed := rfl
  live := rfl
  failures := rfl
  buried := rfl

/-- The engine is not called for a pair that is not live. -/
theorem Clearance.skip (h : Clearance dispose buries rest c calls report after)
    (gone : c.isLive p = false) :
    Clearance dispose buries (p :: rest) c calls { report with failed := report.failed + 1 }
      after where
  handed := by
    rw [List.filter_cons_of_neg (by rw [← isLive, gone]; exact Bool.false_ne_true)]
    exact h.handed
  genuine := h.genuine
  found := h.found
  total := by
    have total := h.total
    rw [List.length_cons]
    show report.disposed + (report.failed + 1) = _
    omega
  disposed := h.disposed
  live := by
    have absent : p ∉ c.live := fun mem => by rw [isLive_iff.2 mem] at gone; cases gone
    rw [List.diff_cons, List.erase_of_not_mem absent]
    exact h.live
  failures := h.failures
  buried := h.buried

/-- A live pair is handed to the engine, and the others are released whatever comes of it. -/
theorem Clearance.call (buried : ∀ p s, (dispose p s).2.1 = s.1.buryAll (buries p s))
    (live : c.isLive p = true) (fresh : p ∉ rest)
    (h : Clearance dispose buries rest (disposal dispose p c t).leaves calls report after) :
    Clearance dispose buries (p :: rest) c (disposal dispose p c t :: calls)
      (if (disposal dispose p c t).succeeds then { report with disposed := report.disposed + 1 }
        else { report with failed := report.failed + 1 }) after := by
  have left : (disposal dispose p c t).left.1 =
      ({ c with live := c.live.erase p } : Custody).buryAll
        (buries p ({ c with live := c.live.erase p }, t)) := buried ..
  have leaves : (disposal dispose p c t).leaves.live = c.live.erase p := by
    show (disposal dispose p c t).left.1.live = _
    rw [left]
    exact (buryAll_rest ..).1
  refine ⟨?handed, ?genuine, ?found, ?total, ?disposed, ?live, ?failures, ?buried⟩
  case handed =>
    have same : rest.filter (c.live.erase p).contains = rest.filter c.live.contains := by
      apply List.filter_congr
      intro q mem
      have other : q ≠ p := fun eq => fresh (eq ▸ mem)
      simp [List.mem_erase_of_ne other]
    rw [List.map_cons, h.handed, leaves, same, List.filter_cons_of_pos (by exact live)]
    rfl
  case genuine =>
    intro call mem
    cases mem with
    | head => rfl
    | tail _ mem => exact h.genuine call mem
  case found =>
    intro earlier call later eq
    cases earlier with
    | nil =>
      cases eq
      rw [List.map_nil, List.nil_append, List.diff_cons, List.diff_nil]
      rfl
    | cons first earlier =>
      cases eq
      rw [h.found earlier call later rfl, leaves, List.map_cons, List.cons_append, List.diff_cons]
      rfl
  case total =>
    have total := h.total
    rw [List.length_cons]
    split
    · show report.disposed + 1 + report.failed = _
      omega
    · show report.disposed + (report.failed + 1) = _
      omega
  case disposed =>
    by_cases well : (disposal dispose p c t).succeeds = true
    · rw [if_pos well, List.countP_cons_of_pos well, ← h.disposed]
    · rw [if_neg well, List.countP_cons_of_neg well, ← h.disposed]
  case live =>
    rw [h.live, leaves, List.diff_cons]
  case failures =>
    have counted : (disposal dispose p c t).leaves.failures =
        c.failures + (disposal dispose p c t).isRefused.toNat := by
      show (disposal dispose p c t).left.1.failures + _ = _
      rw [left, (buryAll_rest ..).2]
    rw [h.failures, counted, List.countP_cons]
    cases (disposal dispose p c t).isRefused
    · rfl
    · show _ + 1 + _ = _ + (_ + 1)
      omega
  case buried =>
    rw [h.buried, show meanwhile buries (disposal dispose p c t :: calls) =
      buries p ({ c with live := c.live.erase p }, t) ++ meanwhile buries calls from rfl,
      buryAll_append]
    apply buryAll_congr
    show (disposal dispose p c t).left.1.buried = _
    rw [left]
    apply buryAll_congr
    rfl

/-- Pairs are released one after the other, whatever the engine does with each of them. -/
theorem retireAll_clearance (buried : ∀ p s, (dispose p s).2.1 = s.1.buryAll (buries p s))
    {pairs : List Pair} (nodup : pairs.Nodup) (c : Custody) (t : σ) (seen : List (Disposal σ)) :
    ∃ calls, (retireAll (recorded dispose) pairs (c, t, seen)).2.2.2 = seen ++ calls ∧
      Clearance dispose buries pairs c calls (retireAll dispose pairs (c, t)).1
        (retireAll dispose pairs (c, t)).2.1 := by
  induction pairs generalizing c t seen with
  | nil => exact ⟨[], (List.append_nil seen).symm, .nil⟩
  | cons p rest ih =>
    obtain ⟨fresh, nodup⟩ := List.nodup_cons.1 nodup
    by_cases live : c.isLive p = true
    · have watched := retire_recorded_of_live dispose p c t seen live
      obtain ⟨calls, recording, others⟩ := ih nodup (disposal dispose p c t).leaves
        (disposal dispose p c t).left.2 (seen ++ [disposal dispose p c t])
      refine ⟨disposal dispose p c t :: calls, ?_, ?_⟩
      · rw [Custody.Bench.retireAll_cons_snd, watched, recording]
        simp
      · rw [retireAll_cons_of_live dispose p c t live]
        exact others.call buried live fresh
    · have gone : c.isLive p = false := Bool.eq_false_iff.2 live
      obtain ⟨calls, recording, others⟩ := ih nodup c t seen
      refine ⟨calls, ?_, ?_⟩
      · rw [Custody.Bench.retireAll_cons_snd,
          retire_of_gone (recorded dispose) p c (t, seen) gone, recording]
      · simp only [retireAll, retire_of_gone dispose p c t gone]
        exact others.skip gone

/-- A sweep releases what is in line. -/
theorem sweep_clearance (buried : ∀ p s, (dispose p s).2.1 = s.1.buryAll (buries p s))
    (nodup : c.buried.Nodup) (t : σ) :
    Clearance dispose buries c.buried { c with buried := [] } (disposals dispose c t)
      (sweep dispose (c, t)).1 (sweep dispose (c, t)).2.1 := by
  obtain ⟨calls, recording, clearance⟩ :=
    retireAll_clearance buried nodup { c with buried := [] } t []
  rw [show disposals dispose c t = calls from recording]
  exact clearance

end

/-! ## The sweep -/

/-- Whatever has been put in line, and whatever the engine does with each pair: a sweep hands each
pair that is in line and live to the engine, once and in the order of the first burials, when the
pair is no longer live; every pair of the batch is counted, as disposed of exactly if the engine has
said so; what is left is live without the batch, and what has been put in line meanwhile is in line
for the next sweep, with what comes later. -/
theorem sweep_attempts {dispose : Disposer σ} {buries : Pair → Custody × σ → List Pair}
    (buried : ∀ p s, (dispose p s).2.1 = s.1.buryAll (buries p s)) {live : List Pair}
    (distinct : live.Nodup) (failures : Nat) (burials : List Pair) (t : σ) :
    let start := (⟨live, [], failures⟩ : Custody).buryAll burials
    let batch := burials.eraseDups
    let calls := disposals dispose start t
    let report := (sweep dispose (start, t)).1
    let after := (sweep dispose (start, t)).2.1
    sweep (recorded dispose) (start, t, []) =
      (report, after, (sweep dispose (start, t)).2.2, calls) ∧
    start.buried = batch ∧
    calls.map Disposal.pair = batch.filter (live.contains ·) ∧
    (∀ earlier call later, calls = earlier ++ call :: later →
      (call.outcome, call.left) = dispose call.pair call.found ∧
      call.found.1.live = live.filter (· ∉ earlier.map Disposal.pair ++ [call.pair])) ∧
    after.live = live.filter (· ∉ batch) ∧
    report.disposed + report.failed = batch.length ∧
    report.disposed = calls.countP (·.outcome = .ok ()) ∧
    after.failures = failures + calls.countP Disposal.isRefused ∧
    after.buried = (meanwhile buries calls).eraseDups ∧
    ∀ (more : List Pair) (u : σ),
      let line := (meanwhile buries calls ++ more).eraseDups
      (disposals dispose (after.buryAll more) u).map Disposal.pair =
        line.filter (after.live.contains ·) ∧
      (sweep dispose (after.buryAll more, u)).1.disposed +
        (sweep dispose (after.buryAll more, u)).1.failed = line.length := by
  intro start batch calls report after
  have line : start.buried = batch := buryAll_buried burials live failures
  have same : start.live = live := (buryAll_rest ..).1
  have counted : start.failures = failures := (buryAll_rest ..).2
  have clearance :
      Clearance dispose buries batch { start with buried := [] } calls report after := by
    rw [← line]
    exact sweep_clearance buried (line ▸ eraseDups_nodup burials) t
  have minus (pairs : List Pair) : live.diff pairs = live.filter (· ∉ pairs) := by
    exact distinct.sdiff_eq_filter
  have left : after.buried = (meanwhile buries calls).eraseDups := by
    rw [clearance.buried]
    exact buryAll_buried ..
  refine ⟨sweep_recorded dispose start t, line, ?handed, ?calls, ?live, clearance.total,
    clearance.disposed, ?failures, left, ?next⟩
  case handed =>
    rw [clearance.handed]
    show batch.filter start.live.contains = _
    rw [same]
  case calls =>
    intro earlier call later eq
    refine ⟨clearance.genuine call (by simp [eq]), ?_⟩
    rw [clearance.found earlier call later eq]
    show start.live.diff _ = _
    rw [same, minus]
  case live =>
    rw [clearance.live]
    show start.live.diff _ = _
    rw [same, minus]
  case failures =>
    rw [clearance.failures]
    show start.failures + _ = _
    rw [counted]
  case next =>
    intro more u pairs
    have again : (after.buryAll more).buried = pairs := buryAll_behind _ left more
    have apart : (after.buryAll more).buried.Nodup := by
      rw [again]
      exact eraseDups_nodup _
    have second := sweep_clearance buried apart u
    rw [again] at second
    refine ⟨?_, second.total⟩
    rw [second.handed]
    show pairs.filter (after.buryAll more).live.contains = _
    rw [(buryAll_rest ..).1]

/-- An engine that refuses its second call, panics over the third one, and puts the pair and a
further one in line whenever it is called. -/
def troubled (further : Pair) : Disposer Nat := fun p s =>
  let outcome : Outcome EngineFailure Unit :=
    if s.2 = 1 then .failed (.disposal "busy") else if s.2 = 2 then .panicked else .ok ()
  (outcome, s.1.buryAll [p, further], s.2 + 1)

/-- Five pairs are put in line, one of them twice and one that is not live. -/
theorem sweep_attempts_troubled :
    let live : List Pair := [⟨0, 0⟩, ⟨1, 0⟩, ⟨2, 0⟩, ⟨3, 0⟩, ⟨5, 0⟩]
    let start := (⟨live, [], 0⟩ : Custody).buryAll
      [⟨2, 0⟩, ⟨4, 0⟩, ⟨1, 0⟩, ⟨2, 0⟩, ⟨0, 0⟩, ⟨3, 0⟩]
    let after := (sweep (troubled ⟨5, 0⟩) (start, 0)).2.1
    (∀ p s, (troubled ⟨5, 0⟩ p s).2.1 = s.1.buryAll [p, ⟨5, 0⟩]) ∧ live.Nodup ∧
    (disposals (troubled ⟨5, 0⟩) start 0).map Disposal.pair =
      [⟨2, 0⟩, ⟨1, 0⟩, ⟨0, 0⟩, ⟨3, 0⟩] ∧
    (sweep (troubled ⟨5, 0⟩) (start, 0)).1 = ⟨2, 3⟩ ∧
    after.live = [⟨5, 0⟩] ∧
    after.buried = [⟨2, 0⟩, ⟨5, 0⟩, ⟨1, 0⟩, ⟨0, 0⟩, ⟨3, 0⟩] ∧
    (disposals (troubled ⟨5, 0⟩) (after.buryAll [⟨4, 0⟩]) 4).map Disposal.pair = [⟨5, 0⟩] := by
  intro live start after
  have buried (p : Pair) (s : Custody × Nat) :
      (troubled ⟨5, 0⟩ p s).2.1 = s.1.buryAll [p, ⟨5, 0⟩] := rfl
  have distinct : live.Nodup := by decide
  obtain ⟨-, -, handed, -, rest, -, -, -, -, next⟩ := sweep_attempts buried distinct 0
    [⟨2, 0⟩, ⟨4, 0⟩, ⟨1, 0⟩, ⟨2, 0⟩, ⟨0, 0⟩, ⟨3, 0⟩] 0
  refine ⟨buried, distinct, ?_, ?_, ?_, ?_, ?_⟩
  · rw [handed]
    decide +kernel
  · decide +kernel
  · rw [rest]
    decide +kernel
  · decide +kernel
  · rw [(next [⟨4, 0⟩] 4).1]
    decide +kernel

end Custody
end ScriptHost
