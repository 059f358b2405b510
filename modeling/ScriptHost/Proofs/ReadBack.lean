import Mathlib.Data.List.Forall2
import ScriptHost.Locale
import ScriptHost.Pair
import ScriptHost.Proofs.PassingOver
import ScriptHost.Request.Basic

/-!
# Records are read back

A record that was written is read as the same record, be it from its own text, from the array of its
values or from an object that has the same members in any order among any others.

## Main definitions

* `Json.Field.Takes`, `Json.Shape.Restores` — a field that takes a member into a draft, and a record
  with its members and the drafts through which it is read.
* `Json.Awaits` — the members of an object that are still to come.
* `Json.ReadsBack` — a kind of values whose texts are read back.

## Main statements

* `Json.record_array`, `Json.record_object` — a record is read from either form.
* `records_read_back` — requests, completions, pairs and locales are.

## Design notes

A draft is described by the names that have been read, in any order, so that one induction on the
members of an object serves every order. What a record has to provide is only how each of its fields
is read and that the draft with all names is complete.
-/

namespace ScriptHost
namespace Json

variable {δ α β : Type} {shape : Shape δ α} {a : α} {own : List (String × Value)}
variable {draft : List String → δ} {field : Field δ} {fields : List (Field δ)}
variable {m : String × Value} {members : List (String × Value)} {names : List String}
variable {rest : List Char}

/-- A field that takes a member into drafts, of which the argument tells what has been read. -/
structure Field.Takes (field : Field δ) (draft : List String → δ) (m : String × Value) : Prop where
  name : field.name = m.1
  isSet : ∀ names, field.isSet (draft names) = decide (m.1 ∈ names)
  read : ∃ update, Reads field.read m.2.render.toList update ∧
    ∀ names, update (draft names) = draft (m.1 :: names)

/-- A record with its members, and the drafts through which it is read. -/
structure Shape.Restores (shape : Shape δ α) (a : α) (own : List (String × Value))
    (draft : List String → δ) : Prop where
  distinct : (own.map (·.1)).Nodup
  blank : draft [] = shape.blank
  takes : List.Forall₂ (fun field m => field.Takes draft m) shape.fields own
  finish : ∀ names, (∀ m ∈ own, m.1 ∈ names) → shape.finish (draft names) = some a

/-! ## Places -/

theorem Shape.Restores.complete_eq (h : shape.Restores a own draft) (all : ∀ m ∈ own, m.1 ∈ names) :
    shape.complete (draft names) = pure a := by
  rw [Shape.complete, h.finish names all]

theorem readPlaces_first {c : Char} (d : δ) (cs : List Char) (full : isBlank c = false)
    (other : c ≠ ']') :
    shape.readPlaces (field :: fields) true d (c :: cs) =
      (field.read >>= fun update => shape.readPlaces fields false (update d)) (c :: cs) := by
  rw [Shape.readPlaces, peek_cons full]
  simp

theorem readPlaces_next {c : Char} (d : δ) (cs : List Char) (full : isBlank c = false)
    (other : c ≠ ']') :
    shape.readPlaces (field :: fields) false d (',' :: c :: cs) =
      (field.read >>= fun update => shape.readPlaces fields false (update d)) (c :: cs) := by
  rw [Shape.readPlaces, peek_cons (by decide)]
  simp [advance_cons, peek_cons full]

theorem stops_places (members : List (String × Value)) (rest : List Char) :
    Stops (members.flatMap (fun m => ',' :: m.2.render.toList) ++ ']' :: rest) := by
  cases members with
  | nil => exact stops_bracket rest
  | cons m members => exact stops_comma _

/-- The places that are left, each behind a comma, complete the record. -/
theorem readPlaces_rest (h : shape.Restores a own draft)
    (takes : List.Forall₂ (fun field m => field.Takes draft m) fields members) :
    ∀ {names}, (∀ m ∈ own, m.1 ∈ names ∨ m ∈ members) →
      shape.readPlaces fields false (draft names)
        (members.flatMap (fun m => ',' :: m.2.render.toList) ++ ']' :: rest) = .ok (a, rest) := by
  -- Fields and members get fewer together; every member has been read or is among those left.
  induction takes with
  | nil =>
    intro names all
    rw [Shape.readPlaces, h.complete_eq fun m mem => (all m mem).resolve_right List.not_mem_nil]
    rfl
  | @cons field m fields members take takes ih =>
    intro names all
    obtain ⟨update, read, updated⟩ := take.read
    obtain ⟨c, cs, first, full, other⟩ := head_value m.2
    have read := read _ (stops_places members rest)
    rw [first, List.cons_append] at read
    rw [List.flatMap_cons, first, List.append_assoc, List.cons_append, List.cons_append,
      readPlaces_next (draft names) _ full other, bind_ok read, updated]
    refine ih fun m' mem => ?_
    obtain earlier | later := all m' mem
    · exact .inl (List.mem_cons_of_mem _ earlier)
    · obtain rfl | later := List.mem_cons.1 later
      · exact .inl List.mem_cons_self
      · exact .inr later

/-- A record is read from the array of its values. -/
theorem record_array (h : shape.Restores a own draft) :
    Reads (record shape) (Value.array (own.map (·.2))).render.toList a := by
  intro rest _
  have opening (cs : List Char) : record shape ('[' :: cs) =
      shape.readPlaces shape.fields true shape.blank cs := by
    rw [record, peek_cons (by decide)]
    rfl
  cases own with
  | nil =>
    have none : shape.fields = [] := List.forall₂_nil_right_iff.1 h.takes
    have text : (Value.array []).render.toList = ['[', ']'] := by rw [Value.render]; rfl
    rw [List.map_nil, text, List.cons_append, opening, none, Shape.readPlaces, ← h.blank,
      h.complete_eq fun m mem => absurd mem List.not_mem_nil]
    rfl
  | cons m members =>
    obtain ⟨field, fields, take, takes, eq⟩ := List.forall₂_cons_right_iff.1 h.takes
    obtain ⟨update, read, updated⟩ := take.read
    obtain ⟨c, cs, first, full, other⟩ := head_value m.2
    have read := read _ (stops_places members rest)
    rw [List.map_cons, toList_array, List.cons_append, opening, itemsText, List.flatMap_map,
      List.append_assoc, List.append_assoc, List.singleton_append, eq, ← h.blank]
    rw [first, List.cons_append] at read ⊢
    rw [readPlaces_first (draft []) _ full other, bind_ok read, updated]
    refine readPlaces_rest h takes fun m' mem => ?_
    obtain rfl | mem := List.mem_cons.1 mem
    · exact .inl List.mem_cons_self
    · exact .inr mem

/-! ## Members -/

/-- The member of a field is taken by the first field of that name. -/
theorem find?_of_mem (distinct : (own.map (·.1)).Nodup)
    (takes : List.Forall₂ (fun field m => field.Takes draft m) fields own) (mem : m ∈ own) :
    ∃ field, fields.find? (·.name == m.1) = some field ∧ field.Takes draft m := by
  induction takes with
  | nil => exact absurd mem List.not_mem_nil
  | @cons field m' fields own take takes ih =>
    obtain rfl | mem := List.mem_cons.1 mem
    · exact ⟨field, List.find?_cons_of_pos (by simp [take.name]), take⟩
    · obtain ⟨new, distinct⟩ := List.nodup_cons.1 distinct
      obtain ⟨field', found, take'⟩ := ih distinct mem
      have other : m'.1 ≠ m.1 := fun same => new (List.mem_map.2 ⟨m, mem, same.symm⟩)
      have unlike : ¬ (m'.1 == m.1) = true := by simpa using other
      exact ⟨field', by rw [List.find?_cons_of_neg (by rwa [take.name]), found], take'⟩

/-- No field is found for any other member. -/
theorem find?_of_not_mem (takes : List.Forall₂ (fun field m => field.Takes draft m) fields own)
    {name : String} (other : name ∉ own.map (·.1)) : fields.find? (·.name == name) = none := by
  induction takes with
  | nil => rfl
  | @cons field m fields own take takes ih =>
    rw [List.map_cons, List.mem_cons, not_or] at other
    rw [List.find?_cons_of_neg (by simpa [take.name] using Ne.symm other.1), ih other.2]

/-- A member that belongs to the record becomes part of the draft. -/
theorem readMember_own (h : shape.Restores a own draft) (mem : m ∈ own)
    (new : m.1 ∉ names) (stop : Stops rest) :
    readMember shape.fields m.1 (draft names) (':' :: (m.2.render.toList ++ rest)) =
      .ok (draft (m.1 :: names), rest) := by
  obtain ⟨field, found, take⟩ := find?_of_mem h.distinct h.takes mem
  obtain ⟨update, read, updated⟩ := take.read
  rw [readMember, found]
  dsimp only
  rw [take.isSet, decide_eq_false new]
  change (colon >>= fun _ => field.read >>= fun update => pure (update (draft names))) _ = _
  rw [bind_ok (colon_cons _), bind_ok (read rest stop), updated]
  rfl

/-- Any other member is passed over. -/
theorem readMember_other (h : shape.Restores a own draft) (other : m.1 ∉ own.map (·.1)) (d : δ)
    (stop : Stops rest) :
    readMember shape.fields m.1 d (':' :: (m.2.render.toList ++ rest)) = .ok (d, rest) := by
  rw [readMember, find?_of_not_mem h.takes other]
  dsimp only
  rw [bind_ok (colon_cons _), bind_ok (skip_render m.2 stop)]
  rfl

/-- One member of an object that may have others: the draft then has it if it belongs to the
record. -/
theorem readMember_eq (h : shape.Restores a own draft)
    (mine : m.1 ∈ own.map (·.1) → m ∈ own ∧ m.1 ∉ names) (stop : Stops rest) :
    readMember shape.fields m.1 (draft names) (':' :: (m.2.render.toList ++ rest)) =
      .ok (draft (if m.1 ∈ own.map (·.1) then m.1 :: names else names), rest) := by
  by_cases known : m.1 ∈ own.map (·.1)
  · rw [if_pos known]
    exact readMember_own h (mine known).1 (mine known).2 stop
  · rw [if_neg known]
    exact readMember_other h known (draft names) stop

/-- Members that are still to come, when some names have been read: each that belongs to the record
comes once, as the record has it, and none is missing. -/
structure Awaits (own members : List (String × Value)) (names : List String) : Prop where
  mine : ∀ m ∈ members, m.1 ∈ own.map (·.1) → m ∈ own ∧ m.1 ∉ names
  distinct : ((members.filter fun m => m.1 ∈ own.map (·.1)).map (·.1)).Nodup
  all : ∀ m ∈ own, m.1 ∈ names ∨ m ∈ members

theorem Awaits.start (distinct : (own.map (·.1)).Nodup)
    (same : (members.filter fun m => m.1 ∈ own.map (·.1)).Perm own) : Awaits own members [] where
  mine m mem known := by
    refine ⟨same.mem_iff.1 (List.mem_filter.2 ⟨mem, decide_eq_true known⟩), List.not_mem_nil⟩
  distinct := (same.map _).nodup_iff.2 distinct
  all m mem := .inr (List.mem_of_mem_filter (same.mem_iff.2 mem))

theorem Awaits.next (h : Awaits own (m :: members) names) :
    Awaits own members (if m.1 ∈ own.map (·.1) then m.1 :: names else names) := by
  have later : ∀ m' ∈ members, m' ∈ m :: members := fun m' mem => List.mem_cons_of_mem _ mem
  by_cases known : m.1 ∈ own.map (·.1)
  · have distinct := h.distinct
    rw [List.filter_cons_of_pos (by simpa using known), List.map_cons] at distinct
    obtain ⟨new, distinct⟩ := List.nodup_cons.1 distinct
    rw [if_pos known]
    refine ⟨fun m' mem known' => ?_, distinct, fun m' mem => ?_⟩
    · obtain ⟨mine, unread⟩ := h.mine m' (later m' mem) known'
      refine ⟨mine, fun read => ?_⟩
      obtain same | read := List.mem_cons.1 read
      -- A later member of the same name would come twice.
      · refine new (List.mem_map.2 ⟨m', List.mem_filter.2 ⟨mem, decide_eq_true known'⟩, same⟩)
      · exact unread read
    · obtain read | mem := h.all m' mem
      · exact .inl (List.mem_cons_of_mem _ read)
      · obtain rfl | mem := List.mem_cons.1 mem
        · exact .inl List.mem_cons_self
        · exact .inr mem
  · have distinct := h.distinct
    rw [List.filter_cons_of_neg (by simpa using known)] at distinct
    rw [if_neg known]
    refine ⟨fun m' mem => h.mine m' (later m' mem), distinct, fun m' mem => ?_⟩
    obtain read | mem' := h.all m' mem
    · exact .inl read
    · obtain rfl | mem' := List.mem_cons.1 mem'
      · exact absurd (List.mem_map.2 ⟨m', mem, rfl⟩) known
      · exact .inr mem'

/-- All members are read, and then all names have been. -/
theorem readMembers_all (h : shape.Restores a own draft) :
    ∀ {m names bound}, members.length < bound → Awaits own (m :: members) names →
      ∃ names', (∀ m' ∈ own, m'.1 ∈ names') ∧
        readMembers shape.fields bound (draft names) (membersText m members ++ '\x7d' :: rest) =
          .ok (draft names', '\x7d' :: rest) := by
  -- What has been read differs from one order to another, so the names are general.
  induction members with
  | nil =>
    intro m names bound few awaits
    obtain ⟨bound, rfl⟩ := Nat.exists_eq_succ_of_ne_zero (Nat.ne_zero_of_lt few)
    refine ⟨_, fun m' mem => (awaits.next.all m' mem).resolve_right List.not_mem_nil, ?_⟩
    rw [membersText, List.flatMap_nil, List.append_nil, readMembers,
      bind_ok (memberName_render true m _),
      bind_ok (readMember_eq h (awaits.mine m List.mem_cons_self) (stops_brace rest)),
      peek_cons (by decide)]
    rfl
  | cons m' members ih =>
    intro m names bound few awaits
    obtain ⟨bound, rfl⟩ := Nat.exists_eq_succ_of_ne_zero (Nat.ne_zero_of_lt few)
    obtain ⟨names', all, read⟩ := ih (Nat.lt_of_succ_lt_succ few) awaits.next
    refine ⟨names', all, ?_⟩
    have text : membersText m (m' :: members) =
      (renderMember m).toList ++ ',' :: membersText m' members := rfl
    rw [text, List.append_assoc, List.cons_append, readMembers,
      bind_ok (memberName_render true m _),
      bind_ok (readMember_eq h (awaits.mine m List.mem_cons_self) (stops_comma _)),
      peek_cons (by decide)]
    exact read

/-- What has been read of an object closes it once the draft is complete. -/
theorem readObject_members {cs : List Char} {d : δ}
    (read : readMembers shape.fields (cs.length + 2) shape.blank ('"' :: cs) =
      .ok (d, '\x7d' :: rest)) (complete : shape.complete d = pure a) :
    shape.readObject ('"' :: cs) = .ok (a, rest) := by
  rw [Shape.readObject, peek_cons (by decide)]
  let reader : Reader δ := fun cs => readMembers shape.fields (cs.length + 1) shape.blank cs
  have read : reader ('"' :: cs) = .ok (d, '\x7d' :: rest) := read
  change (reader >>= fun d => shape.complete d >>= fun a => advance >>= fun _ => pure a)
    ('"' :: cs) = _
  rw [bind_ok read, complete]
  rfl

theorem length_le_membersText (m : String × Value) (members : List (String × Value)) :
    members.length ≤ (membersText m members).length := by
  rw [membersText, List.length_append]
  refine Nat.le_trans ?_ (Nat.le_add_left _ _)
  induction members with
  | nil => exact Nat.le_refl _
  | cons m members ih =>
    rw [List.flatMap_cons, List.length_append, List.length_cons, List.length_cons]
    omega

/-- A record is read from an object that has its members, in any order and with any others. -/
theorem record_object (h : shape.Restores a own draft)
    (same : (members.filter fun m => m.1 ∈ own.map (·.1)).Perm own) :
    Reads (record shape) (Value.object members).render.toList a := by
  intro rest _
  have awaits := Awaits.start h.distinct same
  have opening (cs : List Char) : record shape ('\x7b' :: cs) = shape.readObject cs := by
    rw [record, peek_cons (by decide)]
    rfl
  cases members with
  | nil =>
    have text : (Value.object []).render.toList = ['\x7b', '\x7d'] := by rw [Value.render]; rfl
    have complete := h.complete_eq fun m mem => (awaits.all m mem).resolve_right List.not_mem_nil
    rw [text, List.cons_append, opening, List.singleton_append, Shape.readObject,
      peek_cons (by decide), ← h.blank]
    change (shape.complete (draft []) >>= fun a => advance >>= fun _ => pure a) _ = _
    rw [complete]
    rfl
  | cons m members =>
    have few : members.length < (membersText m members ++ '\x7d' :: rest).length + 1 := by
      rw [List.length_append]
      exact Nat.lt_succ_of_le (Nat.le_add_right_of_le (length_le_membersText m members))
    obtain ⟨names', all, read⟩ := readMembers_all h few awaits
    rw [toList_object, List.cons_append, opening, List.append_assoc, List.singleton_append]
    rw [membersText, toList_renderMember, List.cons_append, List.cons_append] at read ⊢
    rw [h.blank] at read
    exact readObject_members read (h.complete_eq all)

/-! ## Documents -/

theorem document_ok {reader : Reader α} {s : String} (h : Reads reader s.toList a) :
    document reader s = .ok a := by
  have read := h [] nofun
  rw [List.append_nil] at read
  rw [document, read]
  rfl

/-- A kind of values with fields of some names, of which the texts are read back. -/
structure ReadsBack (reader : Reader α) (toJson : α → Value) (names : List String) : Prop where
  /-- The text that a value is written as is read as that value. -/
  text : ∀ a, document reader (toJson a).render = .ok a
  /-- The text is an object of the fields. The array of what they hold, and every object that has
  the same fields among any other members, is read as the same value. -/
  forms : ∀ a, ∃ own, toJson a = .object own ∧ own.map (·.1) = names ∧
    document reader (Value.array (own.map (·.2))).render = .ok a ∧
      ∀ members : List (String × Value), (members.filter fun m => m.1 ∈ names).Perm own →
        document reader (Value.object members).render = .ok a
  /-- What any text is read as is read again from its own text. -/
  again : ∀ s a, document reader s = .ok a → document reader (toJson a).render = .ok a

/-- A record that is restored from its members is read back. -/
theorem readsBack_of_restores {toJson : α → Value} {names : List String}
    (h : ∀ a, ∃ own draft, toJson a = .object own ∧ own.map (·.1) = names ∧
      shape.Restores a own draft) : ReadsBack (record shape) toJson names := by
  have text : ∀ a, document (record shape) (toJson a).render = .ok a := by
    intro a
    obtain ⟨own, draft, eq, -, restores⟩ := h a
    have all : own.filter (fun m => m.1 ∈ own.map (·.1)) = own :=
      List.filter_eq_self.2 fun m mem => decide_eq_true (List.mem_map.2 ⟨m, mem, rfl⟩)
    rw [eq]
    exact document_ok (record_object restores (all.symm ▸ List.Perm.refl own))
  refine ⟨text, fun a => ?_, fun _ a _ => text a⟩
  obtain ⟨own, draft, eq, rfl, restores⟩ := h a
  exact ⟨own, eq, rfl, document_ok (record_array restores),
    fun members same => document_ok (record_object restores same)⟩

/-- What a reader makes of a value it has read. -/
theorem Reads.map {reader : Reader α} {cs : List Char} (h : Reads reader cs a) (f : α → β) :
    Reads (do let a ← reader; pure (f a)) cs (f a) := fun rest stop => bind_ok (h rest stop)

end Json

/-! ## The records -/

open Json (Reads ReadsBack readsBack_of_restores reads_string reads_flag reads_nullable
  reads_natural)

theorem isSome_ite_some {α : Type} (p : Prop) [Decidable p] (a : α) :
    (if p then some a else none).isSome = decide p := by
  split <;> simp [*]

namespace Request

/-- A request of which the fields of some names have been read. -/
def partly (r : Request) (names : List String) : Draft where
  target := if "target" ∈ names then some r.target else none
  payload := if "payload" ∈ names then some r.payload else none
  method := if "method" ∈ names then some r.method else none
  processData := if "process_data" ∈ names then some r.processData else none

theorem restores (r : Request) : shape.Restores r
    [("target", .text r.target), ("payload", .ofText? r.payload), ("method", .text r.method),
     ("process_data", .bool r.processData)] r.partly where
  distinct := by simp
  blank := rfl
  takes := by
    refine .cons ⟨rfl, fun _ => isSome_ite_some _ _, _, (reads_string r.target).map _, ?_⟩
      (.cons ⟨rfl, fun _ => isSome_ite_some _ _, _, (reads_nullable r.payload).map _, ?_⟩
        (.cons ⟨rfl, fun _ => isSome_ite_some _ _, _, (reads_string r.method).map _, ?_⟩
          (.cons ⟨rfl, fun _ => isSome_ite_some _ _, _, (reads_flag r.processData).map _, ?_⟩
            .nil))) <;> simp [partly]
  finish names all := by
    simp only [List.forall_mem_cons] at all
    obtain ⟨target, payload, method, processData, -⟩ := all
    simp [shape, partly, target, payload, method, processData]

end Request

namespace Completion

/-- A completion of which the fields of some names have been read. -/
def partly (c : Completion) (names : List String) : Draft where
  payload := if "payload" ∈ names then some c.payload else none
  status := if "status" ∈ names then some c.status else none
  success := if "success" ∈ names then some c.success else none

theorem restores (c : Completion) : shape.Restores c
    [("payload", .ofText? c.payload), ("status", .ofNat c.status.toNat),
     ("success", .bool c.success)] c.partly where
  distinct := by simp
  blank := rfl
  takes := by
    have status := reads_natural c.status.toNat_lt (by decide : 2 ^ 16 ≤ 2 ^ 64)
    refine .cons ⟨rfl, fun _ => isSome_ite_some _ _, _, (reads_nullable c.payload).map _, ?_⟩
      (.cons ⟨rfl, fun _ => isSome_ite_some _ _, _, status.map _, ?_⟩
        (.cons ⟨rfl, fun _ => isSome_ite_some _ _, _, (reads_flag c.success).map _, ?_⟩
          .nil)) <;> simp [partly]
  finish names all := by
    simp only [List.forall_mem_cons] at all
    obtain ⟨payload, status, success, -⟩ := all
    simp [shape, partly, payload, status, success]

end Completion

namespace Pair

/-- A pair of which the words of some names have been read. -/
def partly (p : Pair) (names : List String) : Draft where
  callback := if "callback" ∈ names then some p.callback else none
  receiver := if "receiver" ∈ names then some p.receiver else none

theorem reads_word (w : UInt64) : Reads word (Json.Value.ofNat w.toNat).render.toList w := by
  have read := (reads_natural w.toNat_lt (Nat.le_refl _)).map UInt64.ofNat
  rwa [UInt64.ofNat_toNat] at read

theorem restores (p : Pair) : shape.Restores p
    [("callback", .ofNat p.callback.toNat), ("receiver", .ofNat p.receiver.toNat)] p.partly where
  distinct := by simp
  blank := rfl
  takes := by
    refine .cons ⟨rfl, fun _ => isSome_ite_some _ _, _, (reads_word p.callback).map _, ?_⟩
      (.cons ⟨rfl, fun _ => isSome_ite_some _ _, _, (reads_word p.receiver).map _, ?_⟩
        .nil) <;> simp [partly]
  finish names all := by
    simp only [List.forall_mem_cons] at all
    obtain ⟨callback, receiver, -⟩ := all
    simp [shape, partly, callback, receiver]

end Pair

namespace Locale

/-- A locale of which the fields of some names have been read. -/
def partly (l : Locale) (names : List String) : Draft where
  name := if "locale" ∈ names then some l.name else none
  language := if "language" ∈ names then some l.language else none
  timezone := if "timezone" ∈ names then some l.timezone else none

theorem restores (l : Locale) : shape.Restores l
    [("locale", .text l.name), ("language", .text l.language), ("timezone", .text l.timezone)]
    l.partly where
  distinct := by simp
  blank := rfl
  takes := by
    refine .cons ⟨rfl, fun _ => isSome_ite_some _ _, _, (reads_string l.name).map _, ?_⟩
      (.cons ⟨rfl, fun _ => isSome_ite_some _ _, _, (reads_string l.language).map _, ?_⟩
        (.cons ⟨rfl, fun _ => isSome_ite_some _ _, _, (reads_string l.timezone).map _, ?_⟩
          .nil)) <;> simp [partly]
  finish names all := by
    simp only [List.forall_mem_cons] at all
    obtain ⟨name, language, timezone, -⟩ := all
    simp [shape, partly, name, language, timezone]

end Locale

/-- Requests, completions, pairs and locales are read back from their texts, from the arrays of
their fields, and from objects with the same fields in any order among any others. -/
theorem records_read_back :
    ReadsBack Request.reader Request.toJson ["target", "payload", "method", "process_data"] ∧
      ReadsBack Completion.reader Completion.toJson ["payload", "status", "success"] ∧
      ReadsBack Pair.reader Pair.toJson ["callback", "receiver"] ∧
      ReadsBack Locale.reader Locale.toJson ["locale", "language", "timezone"] :=
  ⟨readsBack_of_restores fun r => ⟨_, _, rfl, rfl, r.restores⟩,
    readsBack_of_restores fun c => ⟨_, _, rfl, rfl, c.restores⟩,
    readsBack_of_restores fun p => ⟨_, _, rfl, rfl, p.restores⟩,
    readsBack_of_restores fun l => ⟨_, _, rfl, rfl, l.restores⟩⟩

end ScriptHost
