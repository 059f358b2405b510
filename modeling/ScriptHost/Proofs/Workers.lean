import ScriptHost.Proofs.Partition

/-!
# Requests taken in turn

The workers take requests in the order in which these were issued, one at a time, and none waits
while a worker is free. The transport is called for a request when a worker takes it, and for no
other; what comes back for a request that could be prepared has come of that call.

## Main definitions

* `Journal.issued`, `Journal.sent` — the requests on record, and those that workers have taken.
* `Session.postponed`, `Session.preparable` — the requests that wait for a worker, and all those
  that could be prepared.
* `Session.awaited` — the completions that are to come, are held back, or are in line.
* `Session.InTurn` — requests have been taken in turn; `Session.Sent` — and none waits in vain.
* `Session.Worked` — what workers can do between one time and another.

## Main statements

* `Session.Worked.employ` — so they do when requests are given out again.
* `Session.Sent.fate` — a request that could be prepared has been taken once, waits, or has been
  given up.

## Design notes

The handles keep the workers: when the last one is dropped, the requests that wait are given up.
Until then, or without a limit on the workers, none is passed over.
-/

namespace ScriptHost

/-- The completion that a message carries, and its request. -/
def Message.completed? : Message → Option (Call × Completion)
  | .complete call completion => some (call, completion)
  | _ => none

/-- The request with which the transport was called. -/
def Entry.sent? : Entry → Option Prepared
  | .transport prepared => some prepared
  | _ => none

/-- The request that has been issued. -/
def Event.issued? : Event → Option Call
  | .issued call => some call
  | _ => none

/-- The request that a worker has taken. -/
def Event.sent? : Event → Option Call
  | .sent call => some call
  | _ => none

namespace Journal

/-- The requests that have been issued, the newest first. -/
def issued (j : Journal) : List Call := j.filterMap Event.issued?

/-- The requests that workers have taken, the newest first. -/
def sent (j : Journal) : List Call := j.filterMap Event.sent?

end Journal

/-- What is to be done with requests, apart from the queue. -/
structure Dealings where
  settings : Settings
  program : Program
  nextId : Nat
  errands : List Errand
  held : List (String × Call × Completion)
  dropped : Bool
  called : List Prepared
  issued : List Call
  sent : List Call

namespace Session

variable {s t u : Session}

/-- What is to be done with requests. -/
def dealings (s : Session) : Dealings where
  settings := s.settings
  program := s.program
  nextId := s.traffic.nextId
  errands := s.errands
  held := s.held
  dropped := s.dropped
  called := s.log.filterMap Entry.sent?
  issued := s.journal.issued
  sent := s.journal.sent

/-- What a request is prepared to, if it can be. -/
def prepared? (s : Session) (call : Call) : Option Prepared :=
  (call.request.prepareWith s.program.resolve).toOption

/-- The requests on record that could be prepared, the newest first. -/
def preparable (s : Session) : List Call :=
  s.journal.issued.filter fun call => (s.prepared? call).isSome

/-- The requests that wait for a worker, the next one first. -/
def postponed (s : Session) : List Call := s.errands.map Errand.call

/-- The completions in a queue. -/
def completionsIn (lanes : Lanes Message) : List (Call × Completion) :=
  lanes.messages.filterMap Message.completed?

/-- The completions that are to come, are held back, or are in line. -/
def awaited (s : Session) : List (Call × Completion) :=
  s.errands.map (fun errand => (errand.call, s.completionOf errand.order)) ++
    s.held.map (·.2) ++ completionsIn s.lanes

/-- Requests are numbered in increasing order, and those that could be prepared are taken in that
order. -/
structure InTurn (s : Session) : Prop where
  increasing : (s.journal.issued.map Call.id).Pairwise (· > ·)
  below : ∀ call ∈ s.journal.issued, call.id < s.traffic.nextId
  /-- The transport, if there is one, has been called for the requests that were taken, in that
  order, and for nothing else. -/
  called : s.log.filterMap Entry.sent? =
    if s.program.hasTransport then s.journal.sent.filterMap s.prepared? else []
  ready : ∀ errand ∈ s.errands, s.prepared? errand.call = some errand.prepared
  inOrder : (s.postponed.reverse ++ s.journal.sent).Sublist s.preparable
  /-- None is passed over, unless those that wait have been given up. -/
  whole : s.settings.workerThreads = none ∨ s.dropped = false →
    s.postponed.reverse ++ s.journal.sent = s.preparable
  /-- What has come back for a request that could be prepared has come back from the transport. -/
  answered : ∀ c ∈ s.held.map (·.2) ++ completionsIn s.lanes, s.prepared? c.1 ≠ none →
    c.1 ∈ s.journal.sent

/-- Requests are taken in turn, and none waits while a worker is free. -/
structure Sent (s : Session) : Prop extends InTurn s where
  busy : s.errands ≠ [] → s.hasWorker = false

/-! ## What has become of a request -/

theorem InTurn.nodup (h : s.InTurn) : (s.postponed.reverse ++ s.journal.sent).Nodup := by
  have issued : s.journal.issued.Nodup :=
    List.Nodup.of_map Call.id (h.increasing.imp fun more => Nat.ne_of_gt more)
  exact h.inOrder.nodup (issued.filter _)

/-- A malformed request is never taken and does not wait. -/
theorem InTurn.malformed (h : s.InTurn) {call : Call} (malformed : s.prepared? call = none) :
    call ∉ s.journal.sent ∧ call ∉ s.postponed := by
  have never : call ∉ s.postponed.reverse ++ s.journal.sent := fun mem => by
    have prepared := (List.mem_filter.1 (h.inOrder.subset mem)).2
    rw [malformed] at prepared
    cases prepared
  rw [List.mem_append, List.mem_reverse] at never
  exact ⟨fun mem => never (.inr mem), fun mem => never (.inl mem)⟩

/-- A request that could be prepared has been taken once, or it waits because all workers are busy,
or the workers are gone and it has been given up. -/
theorem Sent.fate (h : s.Sent) {call : Call} (issued : call ∈ s.journal.issued)
    (ok : s.prepared? call ≠ none) :
    s.journal.sent.count call = 1 ∧ call ∉ s.postponed ∨
      call ∉ s.journal.sent ∧ call ∈ s.postponed ∧ s.hasWorker = false ∨
      call ∉ s.journal.sent ∧ call ∉ s.postponed ∧
        s.settings.workerThreads ≠ none ∧ s.dropped = true := by
  obtain ⟨-, once, apart⟩ := List.nodup_append.1 h.nodup
  by_cases taken : call ∈ s.journal.sent
  · refine .inl ⟨List.count_eq_one_of_mem once taken, fun waits => ?_⟩
    exact apart call (List.mem_reverse.2 waits) call taken rfl
  by_cases waits : call ∈ s.postponed
  · have some : s.errands ≠ [] := by
      rintro none
      simp [postponed, none] at waits
    exact .inr (.inl ⟨taken, waits, h.busy some⟩)
  · refine .inr (.inr ⟨taken, waits, ?_⟩)
    have given : ¬(s.settings.workerThreads = none ∨ s.dropped = false) := fun kept => by
      have mem : call ∈ s.preparable := List.mem_filter.2 ⟨issued, Option.isSome_iff_ne_none.2 ok⟩
      rw [← h.whole kept, List.mem_append, List.mem_reverse] at mem
      exact mem.elim waits taken
    rwa [not_or, Bool.not_eq_false] at given

/-! ## What bears on requests -/

theorem prepared?_eq (program : t.program = s.program) : t.prepared? = s.prepared? := by
  funext call
  rw [prepared?, prepared?, program]

/-- Whatever else changes in a session, and whatever completions leave the queue. -/
theorem InTurn.of_same (h : s.InTurn) (same : t.dealings = s.dealings)
    (fewer : completionsIn t.lanes ⊆ completionsIn s.lanes) : t.InTurn := by
  have program : t.program = s.program := congrArg Dealings.program same
  have settings : t.settings = s.settings := congrArg Dealings.settings same
  have next : t.traffic.nextId = s.traffic.nextId := congrArg Dealings.nextId same
  have errands : t.errands = s.errands := congrArg Dealings.errands same
  have held : t.held = s.held := congrArg Dealings.held same
  have dropped : t.dropped = s.dropped := congrArg Dealings.dropped same
  have called : t.log.filterMap Entry.sent? = s.log.filterMap Entry.sent? :=
    congrArg Dealings.called same
  have issued : t.journal.issued = s.journal.issued := congrArg Dealings.issued same
  have sent : t.journal.sent = s.journal.sent := congrArg Dealings.sent same
  have prepared := prepared?_eq program
  have postponed : t.postponed = s.postponed := congrArg (List.map Errand.call) errands
  have preparable : t.preparable = s.preparable := by
    rw [Session.preparable, Session.preparable, issued, prepared]
  refine ⟨issued ▸ h.increasing, ?_, ?_, ?_, ?_, ?_, fun c mem => ?_⟩
  · rw [issued, next]
    exact h.below
  · rw [called, program, sent, prepared]
    exact h.called
  · rw [errands, prepared]
    exact h.ready
  · rw [postponed, sent, preparable]
    exact h.inOrder
  · rw [settings, dropped, postponed, sent, preparable]
    exact h.whole
  · rw [prepared, sent]
    rw [held] at mem
    exact h.answered c ((List.mem_append.1 mem).elim (List.mem_append_left _)
      fun mem => List.mem_append_right _ (fewer mem))

theorem Sent.of_same (h : s.Sent) (same : t.dealings = s.dealings)
    (fewer : completionsIn t.lanes ⊆ completionsIn s.lanes) : t.Sent where
  toInTurn := h.toInTurn.of_same same fewer
  busy := by
    have settings : t.settings = s.settings := congrArg Dealings.settings same
    have errands : t.errands = s.errands := congrArg Dealings.errands same
    have held : t.held = s.held := congrArg Dealings.held same
    rw [hasWorker, errands, settings, held]
    exact h.busy

/-- When every handle is dropped, nothing waits any more. -/
theorem Sent.forsake (h : s.Sent) : s.forsake.Sent where
  increasing := h.increasing
  below := h.below
  called := h.called
  ready := nofun
  inOrder := (List.sublist_append_right ..).trans h.inOrder
  whole kept := by
    -- Without a limit on the workers nothing has waited before.
    rcases kept with unlimited | kept
    · have none : s.errands = [] := by
        by_contra some
        have unlimited : s.settings.workerThreads = none := unlimited
        have busy := h.busy some
        simp [hasWorker, unlimited] at busy
      have whole := h.whole (.inl unlimited)
      rwa [postponed, none] at whole
    · cases kept
  answered := h.answered
  busy some := absurd rfl some

/-! ## New requests -/

/-- A request is on record under the next number. -/
theorem InTurn.next (h : s.InTurn) {call : Call} (id : call.id = s.traffic.nextId) :
    ((call :: s.journal.issued).map Call.id).Pairwise (· > ·) ∧
      ∀ other ∈ call :: s.journal.issued, other.id < s.traffic.nextId + 1 := by
  refine ⟨List.pairwise_cons.2 ⟨fun earlier mem => ?_, h.increasing⟩,
    List.forall_mem_cons.2 ⟨by omega, fun other mem => ?_⟩⟩
  · obtain ⟨other, issued, rfl⟩ := List.mem_map.1 mem
    rw [id]
    exact h.below other issued
  · exact Nat.lt_succ_of_lt (h.below other mem)

/-- A malformed request fails at once. -/
theorem InTurn.fail (h : s.InTurn) {call : Call} (id : call.id = s.traffic.nextId)
    (malformed : s.prepared? call = none) {traffic : Traffic}
    (next : traffic.nextId = s.traffic.nextId + 1) {lanes : Lanes Message}
    (line : ∀ c ∈ completionsIn lanes, c ∈ completionsIn s.lanes ∨ c.1 = call) :
    (({ s with traffic, lanes } : Session).record (.issued call)).InTurn where
  increasing := (h.next id).1
  below := by
    show ∀ other ∈ call :: s.journal.issued, other.id < traffic.nextId
    rw [next]
    exact (h.next id).2
  called := h.called
  ready := h.ready
  inOrder := h.inOrder.trans (List.Sublist.filter _ (List.sublist_cons_self ..))
  whole kept := by
    have same : (call :: s.journal.issued).filter (fun call => (s.prepared? call).isSome) =
        s.preparable := List.filter_cons_of_neg (by simp [malformed])
    exact (h.whole kept).trans same.symm
  answered c mem ok := by
    rcases List.mem_append.1 mem with mem | mem
    · exact h.answered c (List.mem_append_left _ mem) ok
    · rcases line c mem with mem | rfl
      · exact h.answered c (List.mem_append_right _ mem) ok
      · exact absurd malformed ok

/-- A request that could be prepared waits behind the others. -/
theorem InTurn.wait (h : s.InTurn) {errand : Errand} (id : errand.call.id = s.traffic.nextId)
    (ok : s.prepared? errand.call = some errand.prepared) {traffic : Traffic}
    (next : traffic.nextId = s.traffic.nextId + 1) :
    (({ s with traffic, errands := s.errands ++ [errand] } : Session).record
      (.issued errand.call)).InTurn := by
  have waits : (s.errands ++ [errand]).map Errand.call = s.postponed ++ [errand.call] :=
    List.map_append
  have line : ((s.errands ++ [errand]).map Errand.call).reverse ++ s.journal.sent =
      errand.call :: (s.postponed.reverse ++ s.journal.sent) := by
    rw [waits, List.reverse_append]
    rfl
  have preparable : (errand.call :: s.journal.issued).filter
      (fun call => (s.prepared? call).isSome) = errand.call :: s.preparable :=
    List.filter_cons_of_pos (by simp [ok])
  refine ⟨(h.next id).1, ?_, h.called, fun other mem => ?_, ?_, fun kept => ?_, h.answered⟩
  · show ∀ other ∈ errand.call :: s.journal.issued, other.id < traffic.nextId
    rw [next]
    exact (h.next id).2
  · rcases List.mem_append.1 mem with mem | mem
    · exact h.ready other mem
    · obtain rfl := List.mem_singleton.1 mem
      exact ok
  · show List.Sublist (((s.errands ++ [errand]).map Errand.call).reverse ++ s.journal.sent)
      ((errand.call :: s.journal.issued).filter fun call => (s.prepared? call).isSome)
    rw [line, preparable]
    exact h.inOrder.cons_cons _
  · exact line.trans ((congrArg _ (h.whole kept)).trans preparable.symm)

/-! ## Workers -/

/-- Workers have gone on, and some completions have come in that are due besides. -/
structure Worked (s : Session) (due : List (Call × Completion)) (t : Session) : Prop where
  program : t.program = s.program
  numbers : t.traffic.nextId = s.traffic.nextId
  issued : t.journal.issued = s.journal.issued
  onward : s.journal.sent ⊆ t.journal.sent
  awaited : t.awaited.Subperm (due ++ s.awaited)
  inTurn : s.InTurn → (∀ c ∈ due, s.prepared? c.1 ≠ none → c.1 ∈ s.journal.sent) → t.InTurn

namespace Worked

variable {due due' : List (Call × Completion)}

theorem refl (s : Session) : Worked s [] s :=
  ⟨rfl, rfl, rfl, List.Subset.refl _, .refl _, fun h _ => h⟩

theorem trans (h : Worked s due t) (h' : Worked t due' u) : Worked s (due ++ due') u where
  program := h'.program.trans h.program
  numbers := h'.numbers.trans h.numbers
  issued := h'.issued.trans h.issued
  onward := List.Subset.trans h.onward h'.onward
  awaited := by
    have first := h'.awaited.trans ((List.subperm_append_left due').2 h.awaited)
    refine first.trans (List.Perm.subperm ?_)
    rw [← List.append_assoc]
    exact List.perm_append_comm.append_right _
  inTurn turn answered := by
    refine h'.inTurn (h.inTurn turn fun c mem => answered c (List.mem_append_left _ mem))
      fun c mem ok => h.onward (answered c (List.mem_append_right _ mem) ?_)
    rwa [prepared?_eq h.program] at ok

end Worked

theorem completionsIn_complete (l : Lanes Message) (call : Call) (completion : Completion) :
    (completionsIn { l with ordinary := l.ordinary ++ [.complete call completion] }).Perm
      ((call, completion) :: completionsIn l) :=
  (Lanes.messages_post l (.complete call completion)).filterMap Message.completed?

/-- A completion comes into line, or it is lost. -/
theorem Worked.conclude (s : Session) (call : Call) (completion : Completion) :
    Worked s [(call, completion)] (s.conclude call completion) := by
  rcases conclude_cases s call completion with ⟨-, eq⟩ | ⟨-, eq⟩ <;> rw [eq]
  · have posted := completionsIn_complete s.lanes call completion
    refine ⟨rfl, rfl, rfl, List.Subset.refl _, ?_, fun h answered => ?_⟩
    · exact ((posted.append_left _).trans List.perm_middle).subperm
    · refine { h with answered := fun c mem ok => ?_ }
      rcases List.mem_append.1 mem with mem | mem
      · exact h.answered c (List.mem_append_left _ mem) ok
      · rcases List.mem_cons.1 (posted.mem_iff.1 mem) with rfl | mem
        · exact answered _ List.mem_cons_self ok
        · exact h.answered c (List.mem_append_right _ mem) ok
  · exact ⟨rfl, rfl, rfl, List.Subset.refl _, (List.sublist_cons_self ..).subperm,
      fun h _ => h.of_same rfl (List.Subset.refl _)⟩

theorem Worked.concludes (due : List (String × Call × Completion)) (s : Session) :
    Worked s (due.map (·.2)) (due.foldl (fun s entry => s.conclude entry.2.1 entry.2.2) s) := by
  induction due generalizing s with
  | nil => exact .refl s
  | cons entry rest ih => exact (Worked.conclude s entry.2.1 entry.2.2).trans (ih _)

/-- A worker has called the transport for a request. -/
def calling (s : Session) (errand : Errand) : Session :=
  { s with
    log := (if s.program.hasTransport then [Entry.transport errand.prepared] else []) ++
      s.log }.record (.sent errand.call)

/-- When the transport has been called its answer is held back, or it concludes the request. -/
theorem execute_ends (s : Session) (errand : Errand) :
    (∃ key, s.program.hasTransport = true ∧ errand.order.hold = some key ∧ s.execute errand =
        { s.calling errand with
          held := s.held ++ [(key, errand.call, s.completionOf errand.order)] }) ∨
      (s.program.hasTransport = false ∨ errand.order.hold = none) ∧ s.execute errand =
        (s.calling errand).conclude errand.call (s.completionOf errand.order) := by
  cases transport : s.program.hasTransport with
  | false =>
    refine .inr ⟨.inl rfl, ?_⟩
    rw [execute_of_not_transport transport]
    simp [calling, completionOf, transport]
  | true =>
    rw [execute_of_transport transport]
    cases held : errand.order.hold with
    | none => exact .inr ⟨.inr rfl, by simp [calling, transport, note]⟩
    | some key => exact .inl ⟨key, rfl, rfl, by simp [calling, transport, note, record]⟩

/-- The first request that waits is taken. -/
theorem InTurn.calling {errand : Errand} {rest : List Errand}
    (h : ({ s with errands := errand :: rest } : Session).InTurn) :
    ({ s.calling errand with errands := rest } : Session).InTurn := by
  have ok : s.prepared? errand.call = some errand.prepared := h.ready errand List.mem_cons_self
  have line : (rest.map Errand.call).reverse ++ errand.call :: s.journal.sent =
      ((errand :: rest).map Errand.call).reverse ++ s.journal.sent := by simp
  refine ⟨h.increasing, h.below, ?_, fun other mem => h.ready other (List.mem_cons_of_mem _ mem),
    ?_, fun kept => line.trans (h.whole kept),
    fun c mem ok => List.mem_cons_of_mem _ (h.answered c mem ok)⟩
  · have called : s.log.filterMap Entry.sent? =
      if s.program.hasTransport then s.journal.sent.filterMap s.prepared? else [] := h.called
    show ((if s.program.hasTransport then [Entry.transport errand.prepared] else []) ++
      s.log).filterMap Entry.sent? = if s.program.hasTransport then
        (errand.call :: s.journal.sent).filterMap s.prepared? else []
    rw [List.filterMap_append, called]
    cases s.program.hasTransport with
    | false => rfl
    | true =>
      rw [if_pos rfl, if_pos rfl, if_pos rfl, List.filterMap_cons_some ok]
      rfl
  · show List.Sublist ((rest.map Errand.call).reverse ++ errand.call :: s.journal.sent) _
    rw [line]
    exact h.inOrder

/-- The first request that waits is executed. -/
theorem Worked.execute (s : Session) (errand : Errand) (rest : List Errand) :
    Worked { s with errands := errand :: rest } [] { s.execute errand with errands := rest } := by
  -- Until its completion is seen to, the request is neither waiting nor awaited.
  let taken : Session := { s.calling errand with errands := rest }
  have inTurn : ({ s with errands := errand :: rest } : Session).InTurn → taken.InTurn :=
    fun h => h.calling
  have onward : s.journal.sent ⊆ taken.journal.sent := List.subset_cons_self ..
  have outcome : ((errand.call, s.completionOf errand.order) :: taken.awaited) =
      ({ s with errands := errand :: rest } : Session).awaited := rfl
  rcases s.execute_ends errand with ⟨key, -, -, eq⟩ | ⟨-, eq⟩ <;> rw [eq]
  · refine ⟨rfl, rfl, rfl, onward, ?_, fun h _ => ?_⟩
    · rw [List.nil_append, ← outcome]
      simp only [Session.awaited, List.map_append, List.append_assoc, List.map_cons, List.map_nil,
        List.singleton_append]
      rw [← List.append_assoc, ← List.append_assoc (taken.errands.map _)]
      exact List.perm_middle.subperm
    · refine { inTurn h with answered := fun c mem ok => ?_ }
      rw [List.map_append, List.append_assoc] at mem
      rcases List.mem_append.1 mem with mem | mem
      · exact (inTurn h).answered c (List.mem_append_left _ mem) ok
      rcases List.mem_cons.1 mem with rfl | mem
      · exact List.mem_cons_self
      · exact (inTurn h).answered c (List.mem_append_right _ mem) ok
  · have concluded := Worked.conclude taken errand.call (s.completionOf errand.order)
    have same : taken.conclude errand.call (s.completionOf errand.order) =
        { (s.calling errand).conclude errand.call (s.completionOf errand.order) with
          errands := rest } := conclude_waiting _ _ _ _
    rw [same] at concluded
    refine ⟨concluded.program, concluded.numbers, concluded.issued,
      List.Subset.trans onward concluded.onward, ?_, fun h _ => ?_⟩
    · rw [List.nil_append, ← outcome]
      exact concluded.awaited
    · refine concluded.inTurn (inTurn h) fun c mem _ => ?_
      obtain rfl := List.mem_singleton.1 mem
      exact List.mem_cons_self

theorem Worked.executes (taken left : List Errand) (s : Session) :
    Worked { s with errands := taken ++ left } []
      { taken.foldl Session.execute s with errands := left } := by
  induction taken generalizing s with
  | nil => exact .refl _
  | cons errand rest ih => exact (Worked.execute s errand (rest ++ left)).trans (ih _)

theorem Worked.employ (s : Session) : Worked s [] s.employ := by
  obtain ⟨taken, left, split, eq, -⟩ := s.employ_cases
  have same : s = { s with errands := taken ++ left } := by rw [← split]
  have executed := Worked.executes taken left s
  rwa [← same, ← eq] at executed

/-- When requests have been given out again, none waits while a worker is free. -/
theorem employ_busy (s : Session) (some : s.employ.errands ≠ []) : s.employ.hasWorker = false := by
  obtain ⟨taken, left, -, eq, none⟩ := s.employ_cases
  refine none.resolve_left fun empty => some ?_
  rw [eq, empty]

end Session
end ScriptHost
