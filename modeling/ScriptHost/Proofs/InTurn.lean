import Mathlib.Algebra.GroupWithZero.Nat
import Mathlib.Algebra.Order.BigOperators.Group.List
import ScriptHost.Proofs.Watched

/-!
# Jobs in turn

A drain takes the waiting jobs in batches, and the jobs put further jobs behind them. However many
are taken at a time, the jobs run in the order in which they have been put in line, and the drain
ends with the number of all of them.

## Main definitions

* `TickTrial.Step.spawned`, `TickTrial.spawnedAll` — the jobs that a step puts in line.
* `TickTrial.inTurn` — all jobs that come of some jobs, in the order in which they are put in line.
* `TickTrial.Step.isTame` — steps that ask for the lock on a thread that holds it, or not at all.
* `TickTrial.Watch.begun`, `TickTrial.Watch.enlisted` — the jobs seen to begin and to be put in
  line.

## Main statements

* `TickTrial.inTurn_batch` — a batch may be run before what it puts in line is looked at.
* `TickTrial.watchStep_works`, `TickTrial.watchJobs_works` — what tame steps and jobs come to.
* `TickTrial.drain_in_turn` — a drain runs all jobs in turn.

## Design notes

A job that waits for a lock that its own drain holds would never end; so only the thread of the
drain may ask for the lock in a job, which gets it refused.
-/

namespace ScriptHost
namespace TickTrial

/-! ## The jobs that come of a job -/

mutual

/-- The jobs that a step of a job puts in line. A body for which the lock is refused does not run.
-/
def Step.spawned : Step → List Job
  | .enqueue tag actions => [⟨tag, actions⟩]
  | .thread body => spawnedAll body
  | _ => []

/-- The jobs that steps put in line up to a panic. -/
def spawnedAll : List Step → List Job
  | [] => []
  | .panic :: _ => []
  | s :: rest => s.spawned ++ spawnedAll rest

end

/-- Steps go on after one that does not panic. -/
theorem spawnedAll_cons {s : Step} (calm : s ≠ .panic) (rest : List Step) :
    spawnedAll (s :: rest) = s.spawned ++ spawnedAll rest := by
  cases s with
  | panic => exact (calm rfl).elim
  | _ => rfl

namespace Job

/-- The jobs that a job puts in line. -/
def spawned (j : Job) : List Job := spawnedAll j.actions

/-- The number of jobs that can come of a job, itself included. -/
def weight (j : Job) : Nat := 1 + sizeAll j.actions

end Job

/-- The number of jobs that can come of some jobs. -/
def weigh (jobs : List Job) : Nat := (jobs.map Job.weight).sum

@[simp] theorem weigh_cons (j : Job) (rest : List Job) :
    weigh (j :: rest) = j.weight + weigh rest :=
  List.sum_cons

@[simp] theorem weigh_append (jobs more : List Job) :
    weigh (jobs ++ more) = weigh jobs + weigh more := by
  rw [weigh, List.map_append, List.sum_append]
  rfl

mutual

theorem weigh_spawned : (s : Step) → weigh s.spawned ≤ s.size
  | .enqueue tag actions => by
    show 1 + sizeAll actions + 0 ≤ 1 + sizeAll actions
    omega
  | .thread body => by
    have inner := weigh_spawnedAll body
    show weigh (spawnedAll body) ≤ 1 + sizeAll body
    omega
  | .drain | .held | .draining | .length | .panic | .acquire _ => Nat.zero_le _

theorem weigh_spawnedAll : (steps : List Step) → weigh (spawnedAll steps) ≤ sizeAll steps
  | [] => Nat.zero_le _
  | s :: rest => by
    have first := weigh_spawned s
    have others := weigh_spawnedAll rest
    show _ ≤ s.size + sizeAll rest
    by_cases panics : s = .panic
    · rw [panics]
      exact Nat.zero_le _
    · rw [spawnedAll_cons panics, weigh_append]
      omega

end

theorem Job.weigh_spawned (j : Job) : weigh j.spawned < j.weight := by
  have inner := weigh_spawnedAll j.actions
  show weigh (spawnedAll j.actions) < 1 + sizeAll j.actions
  omega

/-- A batch outweighs what it puts in line. -/
theorem weigh_flatMap (batch : List Job) :
    weigh (batch.flatMap Job.spawned) + batch.length ≤ weigh batch := by
  induction batch with
  | nil => exact Nat.le_refl 0
  | cons j rest ih =>
    have first := j.weigh_spawned
    rw [List.flatMap_cons, weigh_append, weigh_cons, List.length_cons]
    omega

/-- All jobs that come of some jobs: the first one runs, and what it puts in line comes last. -/
def inTurn : List Job → List Job
  | [] => []
  | j :: rest => j :: inTurn (rest ++ j.spawned)
termination_by jobs => weigh jobs
decreasing_by
  have lighter := j.weigh_spawned
  rw [weigh_append, weigh_cons]
  omega

theorem inTurn_nil : inTurn [] = [] := by rw [inTurn]

theorem inTurn_cons (j : Job) (rest : List Job) :
    inTurn (j :: rest) = j :: inTurn (rest ++ j.spawned) := by rw [inTurn]

/-- The first jobs may be run before what they put in line is looked at. -/
theorem inTurn_batch (batch rest : List Job) :
    inTurn (batch ++ rest) = batch ++ inTurn (rest ++ batch.flatMap Job.spawned) := by
  induction batch generalizing rest with
  | nil => rw [List.nil_append, List.flatMap_nil, List.append_nil, List.nil_append]
  | cons j batch ih =>
    rw [List.cons_append, inTurn_cons, List.append_assoc, ih, List.flatMap_cons, List.append_assoc,
      List.cons_append]

/-- The jobs that come of some jobs are these, and what any of them puts in line. -/
theorem inTurn_eq (jobs : List Job) : inTurn jobs = jobs ++ (inTurn jobs).flatMap Job.spawned := by
  induction jobs using inTurn.induct with
  | case1 => rw [inTurn_nil, List.flatMap_nil, List.append_nil]
  | case2 j rest ih =>
    have turn := inTurn_cons j rest
    calc inTurn (j :: rest) = j :: inTurn (rest ++ j.spawned) := turn
      _ = j :: (rest ++ j.spawned ++ (inTurn (rest ++ j.spawned)).flatMap Job.spawned) := by
        rw [← ih]
      _ = j :: rest ++ (inTurn (j :: rest)).flatMap Job.spawned := by
        rw [turn, List.flatMap_cons, List.append_assoc, List.cons_append]

/-! ## Tame jobs -/

mutual

/-- Whether a step asks for the lock only on the thread of the drain. -/
def Step.isTame : Step → Bool → Bool
  | .enqueue _ actions, _ => areTame actions true
  | .drain, own => own
  | .acquire _, own => own
  | .thread body, _ => areTame body false
  | .held, _ | .draining, _ | .length, _ | .panic, _ => true

/-- Whether steps ask for the lock only on the thread of the drain. -/
def areTame : List Step → Bool → Bool
  | [], _ => true
  | s :: rest, own => s.isTame own && areTame rest own

end

theorem areTame_cons {s : Step} {rest : List Step} {own : Bool} :
    areTame (s :: rest) own = true ↔ s.isTame own = true ∧ areTame rest own = true :=
  Bool.and_eq_true_iff

/-- Whether a job, and every job that comes of it, asks for the lock only on the thread of the
drain. -/
def Job.isTame (j : Job) : Bool := areTame j.actions true

mutual

theorem Step.spawned_tame : (s : Step) → (own : Bool) → s.isTame own = true →
    ∀ j ∈ s.spawned, j.isTame = true
  | .enqueue tag actions, own, tame, j, mem => by
    rw [List.mem_singleton.1 mem]
    exact tame
  | .thread body, own, tame, j, mem => spawnedAll_tame body false tame j mem
  | .drain, _, _, _, mem | .held, _, _, _, mem | .draining, _, _, _, mem | .length, _, _, _, mem
  | .panic, _, _, _, mem | .acquire _, _, _, _, mem => (List.not_mem_nil mem).elim

theorem spawnedAll_tame : (steps : List Step) → (own : Bool) → areTame steps own = true →
    ∀ j ∈ spawnedAll steps, j.isTame = true
  | [], _, _, _, mem => (List.not_mem_nil mem).elim
  | s :: rest, own, tame, j, mem => by
    obtain ⟨first, others⟩ := areTame_cons.1 tame
    by_cases panics : s = .panic
    · rw [panics] at mem
      exact (List.not_mem_nil mem).elim
    · rw [spawnedAll_cons panics] at mem
      cases List.mem_append.1 mem with
      | inl mem => exact Step.spawned_tame s own first j mem
      | inr mem => exact spawnedAll_tame rest own others j mem

end

/-! ## What tame jobs come to -/

/-- The job that is seen to begin. -/
def Sight.begins? (s : Sight) : Option Job :=
  match s.occasion with
  | .job j => some j
  | _ => none

/-- The job that is seen to be put in line. -/
def Sight.enlists? (s : Sight) : Option Job :=
  match s.occasion with
  | .step (.enqueue tag actions) => some ⟨tag, actions⟩
  | _ => none

/-- The jobs that have been seen to begin. -/
def Watch.begun (w : Watch) : List Job := w.seen.filterMap Sight.begins?

/-- The jobs that have been seen to be put in line. -/
def Watch.enlisted (w : Watch) : List Job := w.seen.filterMap Sight.enlists?

/-- Some jobs have run on the way from one bench to another, and some have been put in line. -/
structure Works (ran spawned : List Job) (w after : Watch) : Prop where
  begun : after.begun = w.begun ++ ran
  enlisted : after.enlisted = w.enlisted ++ spawned
  jobs : after.queue.jobs = w.queue.jobs ++ spawned
  latch : after.latch = w.latch

namespace Works

variable {ran more spawned further : List Job} {w u v : Watch}

theorem same (seen : u.seen = w.seen) (jobs : u.queue.jobs = w.queue.jobs)
    (latch : u.latch = w.latch) : Works [] [] w u where
  begun := by rw [Watch.begun, seen, List.append_nil, Watch.begun]
  enlisted := by rw [Watch.enlisted, seen, List.append_nil, Watch.enlisted]
  jobs := by rw [jobs, List.append_nil]
  latch := latch

theorem trans (d : Works ran spawned w u) (e : Works more further u v) :
    Works (ran ++ more) (spawned ++ further) w v where
  begun := by rw [e.begun, d.begun, List.append_assoc]
  enlisted := by rw [e.enlisted, d.enlisted, List.append_assoc]
  jobs := by rw [e.jobs, d.jobs, List.append_assoc]
  latch := e.latch.trans d.latch

/-- What is seen tells of a job that begins, or of one that is put in line, or of neither. -/
theorem see (w : Watch) (thread : Nat) (occasion : Occasion) :
    let sight : Sight := ⟨thread, occasion, w.queue, w.latch, w.guards, w.running⟩
    (w.see thread occasion).begun = w.begun ++ sight.begins?.toList ∧
      (w.see thread occasion).enlisted = w.enlisted ++ sight.enlists?.toList := by
  intro sight
  constructor
  · show (w.seen ++ [sight]).filterMap _ = _
    rw [List.filterMap_append, List.filterMap_cons, List.filterMap_nil]
    cases sight.begins? <;> rfl
  · show (w.seen ++ [sight]).filterMap _ = _
    rw [List.filterMap_append, List.filterMap_cons, List.filterMap_nil]
    cases sight.enlists? <;> rfl

/-- A step that puts nothing in line is seen. -/
theorem seen (w : Watch) (thread : Nat) {s : Step}
    (other : ∀ tag actions, s ≠ .enqueue tag actions) :
    Works [] [] w (w.see thread (.step s)) where
  begun := (see w thread (.step s)).1
  enlisted := by
    rw [(see w thread (.step s)).2]
    cases s with
    | enqueue tag actions => exact (other tag actions rfl).elim
    | _ => rfl
  jobs := (List.append_nil _).symm
  latch := rfl

end Works

section
variable {watch : Nat → Watch → Reply × Watch}

/-- A step that does not panic has a reply. -/
theorem watchStep_returns (thread : Nat) {s : Step} (calm : s ≠ .panic) (w : Watch) :
    ∃ reply, (watchStep watch thread s w).1 = some reply := by
  cases s with
  | panic => exact (calm rfl).elim
  | acquire body =>
    unfold watchStep
    split
    · split <;> exact ⟨_, rfl⟩
    · exact ⟨_, rfl⟩
    · exact ⟨_, rfl⟩
  | thread body =>
    unfold watchStep
    split <;> exact ⟨_, rfl⟩
  | _ => exact ⟨_, rfl⟩

mutual

/-- Where a drain by the holder of the lock runs nothing, a tame step runs no job, and puts in line
what it spawns. -/
theorem watchStep_works
    (idle : ∀ thread w, w.latch.holder = some thread → Works [] [] w (watch thread w).2)
    (thread : Nat) : (s : Step) → (own : Bool) → s.isTame own = true →
    (w : Watch) → (own = true → w.latch.holder = some thread) →
    Works [] s.spawned w (watchStep watch thread s (w.see thread (.step s))).2
  | .enqueue tag actions, own, tame, w, holds =>
    ⟨(Works.see w thread _).1, (Works.see w thread _).2, rfl, rfl⟩
  | .drain, own, tame, w, holds => by
    have seen := Works.seen w thread (s := .drain) (fun _ _ eq => by cases eq)
    exact seen.trans (idle thread (w.see thread (.step .drain)) (holds tame))
  | .held, own, tame, w, holds => Works.seen w thread fun _ _ eq => by cases eq
  | .draining, own, tame, w, holds => Works.seen w thread fun _ _ eq => by cases eq
  | .length, own, tame, w, holds => Works.seen w thread fun _ _ eq => by cases eq
  | .panic, own, tame, w, holds => Works.seen w thread fun _ _ eq => by cases eq
  | .acquire body, own, tame, w, holds => by
    have refused : ((w.see thread (.step (.acquire body))).latch.acquire thread).1 =
        .reentrant := by
      show (w.latch.acquire thread).1 = _
      rw [Latch.acquire, if_pos (holds tame)]
    unfold watchStep
    rw [refused]
    exact Works.seen w thread fun _ _ eq => by cases eq
  | .thread body, own, tame, w, holds => by
    have seen := Works.seen w thread (s := .thread body) (fun _ _ eq => by cases eq)
    have inner := watchBody_works idle (thread + 1) body false tame
      (w.see thread (.step (.thread body)))
      (fun eq => by cases eq)
    have both := seen.trans inner
    unfold watchStep
    split <;> next heq => rw [heq] at both; exact both

theorem watchBody_works
    (idle : ∀ thread w, w.latch.holder = some thread → Works [] [] w (watch thread w).2)
    (thread : Nat) : (body : List Step) → (own : Bool) →
    areTame body own = true → (w : Watch) → (own = true → w.latch.holder = some thread) →
    Works [] (spawnedAll body) w (watchBody watch thread body w).2
  | [], own, tame, w, holds => Works.same rfl rfl rfl
  | s :: rest, own, tame, w, holds => by
    obtain ⟨tame, others⟩ := areTame_cons.1 tame
    have first := watchStep_works idle thread s own tame w holds
    unfold watchBody
    by_cases panics : s = .panic
    · rw [panics] at first ⊢
      exact first
    obtain ⟨reply, returns⟩ : ∃ reply, (watchStep watch thread s (w.see thread (.step s))).1 =
        some reply := watchStep_returns thread panics _
    generalize watchStep watch thread s (w.see thread (.step s)) = done at first returns ⊢
    obtain ⟨result, after⟩ := done
    rw [show result = some reply from returns, spawnedAll_cons panics]
    have reported : Works [] [] after (after.report thread reply).2 := Works.same rfl rfl rfl
    have holder : own = true → (after.report thread reply).2.latch.holder = some thread := by
      intro eq
      show after.latch.holder = _
      rw [first.latch]
      exact holds eq
    have all := (first.trans reported).trans
      (watchBody_works idle thread rest own others (after.report thread reply).2 holder)
    simp only [List.append_nil] at all
    dsimp only
    split <;> next heq => rw [heq] at all; exact all

end

variable (idle : ∀ thread w, w.latch.holder = some thread → Works [] [] w (watch thread w).2)
include idle

theorem watchPlay_works {thread : Nat} (actions : List Step) (tame : areTame actions true = true)
    (w : Watch) (holds : w.latch.holder = some thread) :
    Works [] (spawnedAll actions) w (watchPlay watch thread actions w) := by
  induction actions generalizing w with
  | nil => exact Works.same rfl rfl rfl
  | cons s rest ih =>
    obtain ⟨tame, others⟩ := areTame_cons.1 tame
    have first := watchStep_works idle thread s true tame w fun _ => holds
    unfold watchPlay
    by_cases panics : s = .panic
    · rw [panics] at first ⊢
      exact first
    obtain ⟨reply, returns⟩ : ∃ reply, (watchStep watch thread s (w.see thread (.step s))).1 =
        some reply := watchStep_returns thread panics _
    generalize watchStep watch thread s (w.see thread (.step s)) = done at first returns ⊢
    obtain ⟨result, after⟩ := done
    rw [show result = some reply from returns, spawnedAll_cons panics]
    have noted : Works [] [] after (after.note (.did s.name reply)) := Works.same rfl rfl rfl
    have holder : (after.note (.did s.name reply)).latch.holder = some thread := by
      show after.latch.holder = _
      rw [first.latch]
      exact holds
    have all := (first.trans noted).trans (ih others (after.note (.did s.name reply)) holder)
    simp only [List.append_nil] at all
    exact all

/-- A tame job begins and puts in line what it spawns. -/
theorem watchJob_works {thread : Nat} {w : Watch} (holds : w.latch.holder = some thread) (j : Job)
    (tame : j.isTame = true) : Works [j] j.spawned w (watchJob watch thread w j) := by
  let begun := { w with running := thread :: w.running }.see thread (.job j)
  have seen : Works [j] [] w begun := by
    have what := Works.see { w with running := thread :: w.running } thread (.job j)
    exact ⟨what.1, what.2, (List.append_nil _).symm, rfl⟩
  have noted : Works [] [] begun (begun.note (.job j.tag)) := Works.same rfl rfl rfl
  have played := watchPlay_works idle j.actions tame (begun.note (.job j.tag)) holds
  have ended : Works [] [] (watchPlay watch thread j.actions (begun.note (.job j.tag)))
      (watchJob watch thread w j) := Works.same rfl rfl rfl
  have all := ((seen.trans noted).trans played).trans ended
  simp only [List.append_nil, List.nil_append] at all
  exact all

theorem watchJobs_works (thread : Nat) (jobs : List Job) (tame : ∀ j ∈ jobs, j.isTame = true)
    {w : Watch} (holds : w.latch.holder = some thread) :
    Works jobs (jobs.flatMap Job.spawned) w (jobs.foldl (watchJob watch thread) w) := by
  induction jobs generalizing w with
  | nil => exact Works.same rfl rfl rfl
  | cons j rest ih =>
    have first := watchJob_works idle holds j (tame j (List.mem_cons_self ..))
    have others := ih (fun j mem => tame j (List.mem_cons_of_mem _ mem))
      (by rw [first.latch]; exact holds)
    exact first.trans others

end

/-! ## Drains -/

/-- A drain by the holder of the lock runs nothing. -/
theorem watchDrainFrom_idle (share : Nat → Nat) (bound executed thread : Nat) (w : Watch)
    (holds : w.latch.holder = some thread) :
    Works [] [] w (watchDrainFrom share bound executed thread w).2 := by
  cases bound with
  | zero => exact Works.same rfl rfl rfl
  | succ bound =>
    have refused : (w.latch.acquire thread).1 = .reentrant := by
      rw [Latch.acquire, if_pos holds]
    unfold watchDrainFrom
    dsimp only
    split
    · exact Works.same rfl rfl rfl
    · rw [refused]
      exact Works.same rfl rfl rfl

section
variable (w : Watch) (thread : Nat)

/-- Taking the lock and dropping the guard tell of no job. -/
theorem enter_told : (w.enter thread).begun = w.begun ∧ (w.enter thread).enlisted = w.enlisted := by
  have signing := Works.see { w with latch := w.latch.seize } thread .signing
  constructor
  · exact signing.1.trans (List.append_nil _)
  · exact signing.2.trans (List.append_nil _)

theorem exit_told : (w.exit thread false).begun = w.begun ∧
    (w.exit thread false).enlisted = w.enlisted := by
  let struck := { w with latch := w.latch.strike, guards := w.guards.erase thread }
  let released := { struck.see thread .leaving with latch := w.latch.strike.yield false }
  have leaving := Works.see struck thread .leaving
  have left := Works.see released thread (.left false)
  constructor
  · exact (left.1.trans (List.append_nil _)).trans (leaving.1.trans (List.append_nil _))
  · exact (left.2.trans (List.append_nil _)).trans (leaving.2.trans (List.append_nil _))

end

/-- However many jobs are taken at a time, they run in turn, with all that come of them. -/
theorem watchDrainFrom_works (share : Nat → Nat) (some : ∀ n, 0 < n → 0 < share n) (thread : Nat)
    {bound : Nat} (executed : Nat) {w : Watch} {poisoned : Bool}
    (free : w.latch = ⟨false, poisoned, none⟩) (tame : ∀ j ∈ w.queue.jobs, j.isTame = true)
    (enough : weigh w.queue.jobs < bound) :
    ∃ after, watchDrainFrom share bound executed thread w =
        (.drained (executed + (inTurn w.queue.jobs).length), after) ∧
      after.begun = w.begun ++ inTurn w.queue.jobs ∧
      after.enlisted = w.enlisted ++ (inTurn w.queue.jobs).flatMap Job.spawned ∧
      after.queue = .empty ∧ after.latch = w.latch := by
  induction bound generalizing executed w with
  | zero => exact (Nat.not_lt_zero _ enough).elim
  | succ bound ih =>
    have granted : (w.latch.acquire thread).1 = .granted := by
      rw [free]
      rfl
    unfold watchDrainFrom
    dsimp only
    by_cases none : w.queue.jobs = []
    · have empty : w.queue.look.jobs.isEmpty = true := List.isEmpty_iff.2 none
      have looked : w.queue.look = .empty := by
        rw [TickQueue.look, none]
        rfl
      refine ⟨{ w with queue := w.queue.look }, ?_, ?_, ?_, looked, rfl⟩
      · rw [if_pos empty, none, inTurn_nil]
        rfl
      · rw [none, inTurn_nil, List.append_nil]
        rfl
      · rw [none, inTurn_nil, List.flatMap_nil, List.append_nil]
        rfl
    · have busy : ¬ w.queue.look.jobs.isEmpty = true := fun empty => none (List.isEmpty_iff.1 empty)
      rw [if_neg busy, granted]
      show ∃ after, watchDrainFrom share bound _ thread _ = _ ∧ _
      let n := share w.queue.jobs.length
      let batch := w.queue.jobs.take n
      let rest := w.queue.jobs.drop n
      let entered : Watch := { Watch.enter { w with queue := w.queue.look } thread with
        queue := { w.queue.look with jobs := rest } }
      have split : batch ++ rest = w.queue.jobs := List.take_append_drop n _
      have first : 0 < batch.length := by
        have waiting := List.length_pos_iff.2 none
        have share := some _ waiting
        show 0 < (w.queue.jobs.take n).length
        rw [List.length_take]
        omega
      have ran := watchJobs_works (watchDrainFrom_idle share bound 0) thread batch
        (fun j mem => tame j (List.mem_of_mem_take mem)) (w := entered) rfl
      let after := batch.foldl (watchJob (watchDrainFrom share bound 0) thread) entered
      have line : (after.exit thread false).queue.jobs = rest ++ batch.flatMap Job.spawned :=
        ran.jobs
      have latch : (after.exit thread false).latch = w.latch := by
        have held : after.latch = w.latch.seize.sign thread := ran.latch
        show after.latch.strike.yield false = _
        rw [held, free]
        show (⟨false, poisoned || false, Option.none⟩ : Latch) = _
        rw [Bool.or_false]
      have lighter : weigh (rest ++ batch.flatMap Job.spawned) < bound := by
        have spawned := weigh_flatMap batch
        rw [← split, weigh_append] at enough
        rw [weigh_append]
        omega
      have turn : inTurn w.queue.jobs = batch ++ inTurn (rest ++ batch.flatMap Job.spawned) := by
        rw [← split, inTurn_batch]
      obtain ⟨last, drained, begun, enlisted, queue, kept⟩ :=
        @ih (executed + batch.length) (after.exit thread false) (latch.trans free)
          (by
            intro j mem
            rw [line] at mem
            cases List.mem_append.1 mem with
            | inl mem => exact tame j (List.mem_of_mem_drop mem)
            | inr mem =>
              obtain ⟨parent, within, mem⟩ := List.mem_flatMap.1 mem
              exact spawnedAll_tame parent.actions true
                (tame parent (List.mem_of_mem_take within)) j mem)
          (by rw [line]; exact lighter)
      rw [line] at drained begun enlisted
      refine ⟨last, ?_, ?_, ?_, queue, kept.trans latch⟩
      · rw [turn, List.length_append, ← Nat.add_assoc]
        exact drained
      · rw [begun, (exit_told after thread).1, ran.begun, turn, ← List.append_assoc]
        exact congrArg (· ++ batch ++ _) (enter_told _ thread).1
      · rw [enlisted, (exit_told after thread).2, ran.enlisted, turn, List.flatMap_append,
          ← List.append_assoc]
        exact congrArg (· ++ batch.flatMap Job.spawned ++ _) (enter_told _ thread).2

/-! ## A drain -/

/-- A drain of a thread that holds the lock runs nothing: it finds no job, or is refused. -/
theorem drain_of_holder {thread : Nat} {b : Bench} (holds : b.lock.isHeldBy thread = true)
    (bound : Nat) :
    drain (bound + 1) thread b =
      (if b.queue.jobs.isEmpty then .drained 0 else .refused .reentrant,
        { b with queue := b.queue.giveUp }) := by
  have holder : b.lock.holder = some thread := by simpa [Lock.isHeldBy] using holds
  have refused : b.lock.acquire thread = (.reentrant, b.lock) := by
    rw [Lock.acquire, holder]
    exact if_pos rfl
  unfold drain drainFrom
  dsimp only
  by_cases empty : b.queue.jobs.isEmpty = true
  · have looked : b.queue.look = b.queue.giveUp := by
      rw [TickQueue.look, empty]
      rfl
    rw [if_pos empty, looked]
    exact if_pos empty
  · rw [if_neg empty, if_neg (show ¬ b.queue.look.jobs.isEmpty = true from empty), refused]
    rfl

/-- A drain of a thread that finds the lock with another one waits, if there are jobs. -/
theorem drain_of_other {thread : Nat} {b : Bench} (other : b.lock.isHeldBy thread = false)
    (held : b.lock ≠ .free) (bound : Nat) :
    drain (bound + 1) thread b =
      (if b.queue.jobs.isEmpty then .drained 0 else .stuck, { b with queue := b.queue.look }) := by
  obtain ⟨queue, ⟨holder⟩, log⟩ := b
  cases holder with
  | none => exact (held rfl).elim
  | some owner =>
    have apart : owner ≠ thread := by
      intro same
      rw [same] at other
      simp [Lock.isHeldBy] at other
    have waits : (⟨some owner⟩ : Lock Nat).acquire thread = (.awaited, ⟨some owner⟩) :=
      if_neg apart
    unfold drain drainFrom
    dsimp only
    by_cases empty : queue.jobs.isEmpty = true
    · rw [if_pos empty, if_pos (show queue.look.jobs.isEmpty = true from empty)]
    · rw [if_neg empty, if_neg (show ¬ queue.look.jobs.isEmpty = true from empty), waits]

/-- However the waiting jobs go on, with tame steps: a drain of a thread that does not hold the lock
waits until no other one does. From then on it ends with the number of the waiting jobs and of those
that are put in line meanwhile; these are the jobs that begin, each once and in the order in which
they have been put in line; and they are the same, in the same order, as if one job were taken at a
time. A drain of a thread that holds the lock runs nothing. Afterwards no job waits, the flag is
down, and the lock is free. -/
theorem drain_in_turn {bound thread : Nat} {b : Bench}
    (apart : b.lock.isHeldBy thread = false) (tame : ∀ j ∈ b.queue.jobs, j.isTame = true)
    (enough : weigh b.queue.jobs < bound) :
    (b.lock ≠ .free → drain bound thread b =
      (if b.queue.jobs.isEmpty then .drained 0 else .stuck, { b with queue := b.queue.look })) ∧
    (∀ poisoned, let w := ({ b with lock := .free } : Bench).watched poisoned
      let batches := watchDrain bound thread w
      let single := watchDrainFrom (fun _ => 1) bound 0 thread w
      ∃ n after, drain bound thread { b with lock := .free } = (.drained n, after) ∧
        batches.1 = .drained n ∧ batches.2.bench = after ∧
        n = b.queue.jobs.length + batches.2.enlisted.length ∧
        batches.2.begun = b.queue.jobs ++ batches.2.enlisted ∧
        batches.2.begun = inTurn b.queue.jobs ∧
        single.1 = .drained n ∧ single.2.begun = batches.2.begun ∧
        single.2.enlisted = batches.2.enlisted ∧
        after.queue = .empty ∧ after.lock = .free) ∧
    ∀ (rounds holder : Nat) (b : Bench), b.lock.isHeldBy holder = true →
      drain (rounds + 1) holder b =
        (if b.queue.jobs.isEmpty then .drained 0 else .refused .reentrant,
          { b with queue := b.queue.giveUp }) := by
  refine ⟨fun held => ?_, fun poisoned => ?_, fun rounds holder b holds =>
    drain_of_holder holds rounds⟩
  · obtain ⟨rounds, rfl⟩ := Nat.exists_eq_succ_of_ne_zero (Nat.ne_zero_of_lt enough)
    exact drain_of_other apart held rounds
  · intro w batches single
    obtain ⟨last, drained, begun, enlisted, queue, latch⟩ :=
      watchDrainFrom_works id (fun _ h => h) thread 0 (w := w) rfl tame enough
    obtain ⟨last', drained', begun', enlisted', -, -⟩ :=
      watchDrainFrom_works (fun _ => 1) (fun _ _ => Nat.one_pos) thread 0 (w := w) rfl tame enough
    have mirrors := watchDrain_mirrors bound thread w (Bench.watched_sound _ poisoned)
    have batched : batches = (.drained (inTurn b.queue.jobs).length, last) := by
      rw [← Nat.zero_add (inTurn b.queue.jobs).length]
      exact drained
    have one : single = (.drained (inTurn b.queue.jobs).length, last') := by
      rw [← Nat.zero_add (inTurn b.queue.jobs).length]
      exact drained'
    have same : drain bound thread { b with lock := .free } =
        (.drained (inTurn b.queue.jobs).length, last.bench) := by
      rw [← show batches.1 = .drained (inTurn b.queue.jobs).length from congrArg Prod.fst batched,
        ← show batches.2 = last from congrArg Prod.snd batched]
      exact mirrors.same
    have begun : last.begun = inTurn b.queue.jobs := begun
    have enlisted : last.enlisted = (inTurn b.queue.jobs).flatMap Job.spawned := enlisted
    have all : inTurn b.queue.jobs = b.queue.jobs ++ last.enlisted := by
      rw [enlisted]
      exact inTurn_eq b.queue.jobs
    rw [batched, one]
    refine ⟨_, _, same, rfl, rfl, ?_, begun.trans all, begun, rfl, begun'.trans begun.symm,
      enlisted'.trans enlisted.symm, queue, ?_⟩
    · rw [all, List.length_append]
    · show (⟨last.latch.holder⟩ : Lock Nat) = .free
      rw [latch]
      rfl

/-- A job puts others in line, from a thread of its own that panics and by itself, and tries to
drain; another one asks for the lock and panics. -/
theorem drain_in_turn_lively :
    let jobs : List Job :=
      [⟨.text "a", [.thread [.enqueue (.text "c") [.enqueue (.text "e") []], .panic], .drain,
        .enqueue (.text "d") [.panic, .enqueue (.text "x") []]]⟩,
       ⟨.text "b", [.acquire [.enqueue (.text "y") []], .length, .panic]⟩]
    let b : Bench := ⟨⟨jobs, false⟩, .free, []⟩
    b.lock.isHeldBy 0 = false ∧ (∀ j ∈ jobs, j.isTame = true) ∧ weigh jobs < 16 ∧
    (drain 16 0 b).1 = .drained 5 ∧
    (watchDrain 16 0 (b.watched false)).2.begun.map Job.tag =
      [.text "a", .text "b", .text "c", .text "d", .text "e"] := by
  intro jobs b
  have apart : b.lock.isHeldBy 0 = false := rfl
  have tame : ∀ j ∈ jobs, j.isTame = true := by decide
  have enough : weigh jobs < 16 := by decide
  obtain ⟨n, after, drained, -, -, -, -, begun, -⟩ := (drain_in_turn apart tame enough).2.1 false
  refine ⟨apart, tame, enough, rfl, ?_⟩
  rw [show (watchDrain 16 0 (b.watched false)).2.begun = inTurn jobs from begun]
  simp [jobs, inTurn_cons, inTurn_nil, Job.spawned, spawnedAll, Step.spawned]

end TickTrial
end ScriptHost
