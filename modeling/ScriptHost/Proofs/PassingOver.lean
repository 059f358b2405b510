import ScriptHost.Json.Record
import ScriptHost.Proofs.Written

/-!
# Passing over a value

A member that nobody asked for may hold anything. Whatever value it is, its compact text is passed
over as a whole, however deep it is and whatever stands behind it.

## Main definitions

* `Json.itemsText`, `Json.membersText` — what stands between the brackets of an array or the braces
  of an object.
* `Json.Skips` — a value whose text is passed over within a bound that grows with its length.

## Main statements

* `Json.skips` — every value is passed over.
* `Json.skip_render` — the bound that is used suffices.

## Design notes

The bound on depth and length goes down by one with each item and with each level. Twice the length
of the text is enough for both: an item is shorter than its array by two brackets, and each further
item by a comma.
-/

namespace ScriptHost
namespace Json

variable {c : Char} {cs rest : List Char} {v : Value} {items : List Value} {m : String × Value}
variable {members : List (String × Value)}

/-! ## The texts of values -/

theorem head_render (n : Number) :
    ∃ c cs, n.render.toList = c :: cs ∧ (decide (c = '-') || isDigit c) = true := by
  rw [toList_render]
  obtain ⟨d, ds, eq⟩ := List.exists_cons_of_ne_nil (Nat.toDigits_ne_nil (b := 10) (n := n.whole))
  have digit : isDigit d = true := isDigit_of_mem (eq ▸ List.mem_cons_self)
  rw [eq]
  split
  · exact ⟨_, _, rfl, rfl⟩
  · exact ⟨_, _, rfl, by rw [digit, Bool.or_true]⟩

theorem isBlank_of_number (first : (decide (c = '-') || isDigit c) = true) :
    isBlank c = false := by
  obtain minus | digit := Bool.or_eq_true_iff.1 first
  · rw [of_decide_eq_true minus]
    rfl
  · exact isBlank_of_isDigit digit

/-- Texts with commas between them, the first one apart. -/
theorem toList_intercalate_cons (s : String) (ss : List String) :
    (",".intercalate (s :: ss)).toList = s.toList ++ ss.flatMap fun t => ',' :: t.toList := by
  have comma : ",".toList = [','] := rfl
  induction ss generalizing s with
  | nil => simp
  | cons t ss ih =>
    rw [String.intercalate_cons_cons, String.toList_append, String.toList_append, ih, comma,
      List.flatMap_cons]
    simp

theorem renderItems_eq (items : List Value) : renderItems items = items.map Value.render := by
  induction items with
  | nil => rfl
  | cons v items ih => rw [renderItems, ih]; rfl

/-- The text of a member. -/
def renderMember (m : String × Value) : String := quote m.1 ++ ":" ++ m.2.render

theorem renderMembers_eq (members : List (String × Value)) :
    renderMembers members = members.map renderMember := by
  induction members with
  | nil => rfl
  | cons m members ih => rw [renderMembers, ih]; rfl

/-- The items of an array that has some, with the commas between them. -/
def itemsText (v : Value) (items : List Value) : List Char :=
  v.render.toList ++ items.flatMap fun w => ',' :: w.render.toList

/-- The members of an object that has some, with the commas between them. -/
def membersText (m : String × Value) (members : List (String × Value)) : List Char :=
  (renderMember m).toList ++ members.flatMap fun m => ',' :: (renderMember m).toList

theorem toList_array (v : Value) (items : List Value) :
    (Value.array (v :: items)).render.toList = '[' :: (itemsText v items ++ [']']) := by
  have opening : "[".toList = ['['] := rfl
  have closing : "]".toList = [']'] := rfl
  rw [Value.render, renderItems_eq, List.map_cons, String.toList_append, String.toList_append,
    toList_intercalate_cons, opening, closing, List.flatMap_map]
  rfl

theorem toList_object (m : String × Value) (members : List (String × Value)) :
    (Value.object (m :: members)).render.toList =
      '\x7b' :: (membersText m members ++ ['\x7d']) := by
  have opening : "\x7b".toList = ['\x7b'] := rfl
  have closing : "\x7d".toList = ['\x7d'] := rfl
  rw [Value.render, renderMembers_eq, List.map_cons, String.toList_append, String.toList_append,
    toList_intercalate_cons, opening, closing, List.flatMap_map]
  rfl

/-- A value begins with no blank and no closing bracket. -/
theorem head_value (v : Value) :
    ∃ c cs, v.render.toList = c :: cs ∧ isBlank c = false ∧ c ≠ ']' := by
  cases v with
  | null => exact ⟨_, _, toList_null, rfl, by decide⟩
  | bool b => cases b <;> exact ⟨_, _, by rw [Value.render]; rfl, rfl, by decide⟩
  | number n =>
    obtain ⟨c, cs, eq, first⟩ := head_render n
    refine ⟨c, cs, by rw [Value.render, eq], isBlank_of_number first, ?_⟩
    rintro rfl
    exact absurd first (by decide)
  | text s => exact ⟨_, _, toList_text s, rfl, by decide⟩
  | array items =>
    cases items with
    | nil => exact ⟨_, _, by rw [Value.render]; rfl, rfl, by decide⟩
    | cons v items => exact ⟨_, _, toList_array v items, rfl, by decide⟩
  | object members =>
    cases members with
    | nil => exact ⟨_, _, by rw [Value.render]; rfl, rfl, by decide⟩
    | cons m members => exact ⟨_, _, toList_object m members, rfl, by decide⟩

/-! ## Readings within a bound -/

/-- A text is read or passed over as a value. -/
theorem valueWithin_text (strict : Bool) (bound : Nat) (s : String) (rest : List Char) :
    valueWithin strict (bound + 1) ((Value.text s).render.toList ++ rest) =
      .ok (.text s, rest) := by
  rw [toList_text, List.cons_append, List.append_assoc, valueWithin, peek_cons (by decide)]
  change (textBody strict >>= fun s => pure (Value.text s)) _ = _
  exact bind_ok (textBody_quoted strict s rest)

/-- Where a number begins, a number is read. -/
theorem valueWithin_eq_number (strict : Bool) (bound : Nat) (cs : List Char)
    (first : (decide (c = '-') || isDigit c) = true) :
    valueWithin strict (bound + 1) (c :: cs) =
      (number strict >>= fun n => pure (Value.number n)) (c :: cs) := by
  rw [valueWithin, peek_cons (isBlank_of_number first)]
  have other : ∀ d, (decide (d = '-') || isDigit d) = false → c ≠ d := by
    rintro d none rfl
    exact Bool.false_ne_true (none.symm.trans first)
  simp [other 'n' rfl, other 't' rfl, other 'f' rfl, other '"' rfl, other '[' rfl,
    other '\x7b' rfl, first]

/-- A number can be passed over whatever its size is. -/
theorem valueWithin_number (bound : Nat) (n : Number) (stop : Stops rest) :
    ∃ v, valueWithin false (bound + 1) ((Value.number n).render.toList ++ rest) =
      .ok (v, rest) := by
  have read := number_render false n stop
  obtain ⟨c, cs, eq, first⟩ := head_render n
  rw [Value.render]
  rw [eq, List.cons_append] at read ⊢
  rw [valueWithin_eq_number false bound _ first]
  exact ⟨_, bind_ok read⟩

/-- A value whose text is passed over within a bound of twice its length. -/
def Skips (v : Value) : Prop :=
  ∀ bound rest, 2 * v.render.toList.length ≤ bound → Stops rest →
    ∃ v', valueWithin false bound (v.render.toList ++ rest) = .ok (v', rest)

theorem stops_comma (cs : List Char) : Stops (',' :: cs) := by
  rintro c ⟨⟩
  decide

theorem stops_bracket (cs : List Char) : Stops (']' :: cs) := by
  rintro c ⟨⟩
  decide

theorem stops_brace (cs : List Char) : Stops ('\x7d' :: cs) := by
  rintro c ⟨⟩
  decide

/-- The items of an array are passed over one by one. -/
theorem skips_items (all : ∀ w ∈ v :: items, Skips w) :
    ∀ bound rest, 2 * (itemsText v items).length + 1 ≤ bound →
      ∃ vs, itemsWithin false bound (itemsText v items ++ ']' :: rest) = .ok (vs, rest) := by
  -- Each item takes one off the bound, and its comma alone makes up for two.
  induction items generalizing v with
  | nil =>
    intro bound rest enough
    obtain ⟨bound, rfl⟩ := Nat.exists_eq_succ_of_ne_zero (Nat.ne_zero_of_lt enough)
    rw [itemsText, List.flatMap_nil, List.append_nil] at enough ⊢
    obtain ⟨v', read⟩ :=
      all v List.mem_cons_self bound (']' :: rest) (by omega) (stops_bracket rest)
    exact ⟨[v'], by rw [itemsWithin, bind_ok read, peek_cons (by decide)]; rfl⟩
  | cons w items ih =>
    intro bound rest enough
    obtain ⟨bound, rfl⟩ := Nat.exists_eq_succ_of_ne_zero (Nat.ne_zero_of_lt enough)
    have text : itemsText v (w :: items) = v.render.toList ++ ',' :: itemsText w items := rfl
    rw [text, List.length_append, List.length_cons] at enough
    obtain ⟨v', read⟩ := all v List.mem_cons_self bound (',' :: (itemsText w items ++ ']' :: rest))
      (by omega) (stops_comma _)
    obtain ⟨vs, read'⟩ := ih (fun u mem => all u (List.mem_cons_of_mem _ mem)) bound rest (by omega)
    refine ⟨v' :: vs, ?_⟩
    rw [text, List.append_assoc, List.cons_append, itemsWithin, bind_ok read,
      peek_cons (by decide)]
    change (itemsWithin false bound >>= fun vs => pure (v' :: vs))
      (itemsText w items ++ ']' :: rest) = _
    rw [bind_ok read']
    rfl

theorem toList_renderMember (m : String × Value) : (renderMember m).toList =
    '"' :: (m.1.toList.flatMap (fun c => (escapeChar c).toList) ++ '"' :: ':' ::
      m.2.render.toList) := by
  have colon : ":".toList = [':'] := rfl
  rw [renderMember, String.toList_append, String.toList_append, toList_quote, colon]
  simp

/-- The name of a member is read up to its colon. -/
theorem memberName_render (strict : Bool) (m : String × Value) (rest : List Char) :
    memberName strict ((renderMember m).toList ++ rest) =
      .ok (m.1, ':' :: (m.2.render.toList ++ rest)) := by
  rw [toList_renderMember, List.cons_append, List.append_assoc, memberName, peek_cons (by decide)]
  exact textBody_quoted strict m.1 (':' :: (m.2.render.toList ++ rest))

theorem colon_cons (cs : List Char) : colon (':' :: cs) = .ok ((), cs) := rfl

/-- The members of an object are passed over one by one. -/
theorem skips_members (all : ∀ m' ∈ m :: members, Skips m'.2) :
    ∀ bound rest, 2 * (membersText m members).length + 1 ≤ bound →
      ∃ ms, membersWithin false bound (membersText m members ++ '\x7d' :: rest) =
        .ok (ms, rest) := by
  have longer : ∀ m : String × Value,
      m.2.render.toList.length ≤ (renderMember m).toList.length := by
    intro m
    rw [toList_renderMember]
    simp only [List.length_cons, List.length_append]
    omega
  -- As with items, and a member is longer than its value.
  induction members generalizing m with
  | nil =>
    intro bound rest enough
    obtain ⟨bound, rfl⟩ := Nat.exists_eq_succ_of_ne_zero (Nat.ne_zero_of_lt enough)
    rw [membersText, List.flatMap_nil, List.append_nil] at enough ⊢
    have := longer m
    obtain ⟨v', read⟩ := all m List.mem_cons_self bound ('\x7d' :: rest) (by omega)
      (stops_brace rest)
    exact ⟨[(m.1, v')], by rw [membersWithin, bind_ok (memberName_render false m _),
      bind_ok (colon_cons _), bind_ok read, peek_cons (by decide)]; rfl⟩
  | cons m' members ih =>
    intro bound rest enough
    obtain ⟨bound, rfl⟩ := Nat.exists_eq_succ_of_ne_zero (Nat.ne_zero_of_lt enough)
    have text : membersText m (m' :: members) =
      (renderMember m).toList ++ ',' :: membersText m' members := rfl
    rw [text, List.length_append, List.length_cons] at enough
    have := longer m
    obtain ⟨v', read⟩ := all m List.mem_cons_self bound
      (',' :: (membersText m' members ++ '\x7d' :: rest)) (by omega) (stops_comma _)
    obtain ⟨ms, read'⟩ := ih (fun u mem => all u (List.mem_cons_of_mem _ mem)) bound rest (by omega)
    refine ⟨(m.1, v') :: ms, ?_⟩
    rw [text, List.append_assoc, List.cons_append, membersWithin,
      bind_ok (memberName_render false m _), bind_ok (colon_cons _), bind_ok read,
      peek_cons (by decide)]
    change (membersWithin false bound >>= fun ms => pure ((m.1, v') :: ms))
      (membersText m' members ++ '\x7d' :: rest) = _
    rw [bind_ok read']
    rfl

/-- Behind an opening bracket something else than the closing one begins the items. -/
theorem valueWithin_items (strict : Bool) (bound : Nat) (cs : List Char)
    (full : isBlank c = false) (other : c ≠ ']') :
    valueWithin strict (bound + 1) ('[' :: c :: cs) =
      (itemsWithin strict bound >>= fun vs => pure (Value.array vs)) (c :: cs) := by
  rw [valueWithin, peek_cons (by decide)]
  simp [advance_cons, peek_cons full]

/-- Behind an opening brace a quotation mark begins the members. -/
theorem valueWithin_members (strict : Bool) (bound : Nat) (cs : List Char) :
    valueWithin strict (bound + 1) ('\x7b' :: '"' :: cs) =
      (membersWithin strict bound >>= fun ms => pure (Value.object ms)) ('"' :: cs) := by
  have full : isBlank '"' = false := rfl
  rw [valueWithin, peek_cons (by decide)]
  simp [advance_cons, peek_cons full]

theorem skips_array (all : ∀ v ∈ items, Skips v) : Skips (.array items) := by
  intro bound rest enough _
  cases items with
  | nil =>
    have text : (Value.array []).render.toList = ['[', ']'] := by rw [Value.render]; rfl
    rw [text] at enough ⊢
    obtain ⟨bound, rfl⟩ := Nat.exists_eq_succ_of_ne_zero (Nat.ne_zero_of_lt enough)
    exact ⟨.array [], by rw [valueWithin]; rfl⟩
  | cons v items =>
    rw [toList_array, List.length_cons, List.length_append, List.length_singleton] at enough
    obtain ⟨bound, rfl⟩ := Nat.exists_eq_succ_of_ne_zero (Nat.ne_zero_of_lt enough)
    obtain ⟨vs, read⟩ := skips_items all bound rest (by omega)
    obtain ⟨c, cs, first, full, other⟩ := head_value v
    have text : itemsText v items =
        c :: (cs ++ items.flatMap fun w => ',' :: w.render.toList) := by
      rw [itemsText, first, List.cons_append]
    rw [toList_array, List.cons_append, List.append_assoc, List.singleton_append]
    rw [text, List.cons_append] at read ⊢
    rw [valueWithin_items false bound _ full other, bind_ok read]
    exact ⟨.array vs, rfl⟩

theorem skips_object (all : ∀ m ∈ members, Skips m.2) : Skips (.object members) := by
  intro bound rest enough _
  cases members with
  | nil =>
    have text : (Value.object []).render.toList = ['\x7b', '\x7d'] := by rw [Value.render]; rfl
    rw [text] at enough ⊢
    obtain ⟨bound, rfl⟩ := Nat.exists_eq_succ_of_ne_zero (Nat.ne_zero_of_lt enough)
    exact ⟨.object [], by rw [valueWithin]; rfl⟩
  | cons m members =>
    rw [toList_object, List.length_cons, List.length_append, List.length_singleton] at enough
    obtain ⟨bound, rfl⟩ := Nat.exists_eq_succ_of_ne_zero (Nat.ne_zero_of_lt enough)
    obtain ⟨ms, read⟩ := skips_members all bound rest (by omega)
    rw [toList_object, List.cons_append, List.append_assoc, List.singleton_append]
    rw [membersText, toList_renderMember, List.cons_append, List.cons_append] at read ⊢
    rw [valueWithin_members, bind_ok read]
    exact ⟨.object ms, rfl⟩

/-- For a value without parts any bound above zero will do. -/
theorem skips_simple (h : ∀ bound rest, Stops rest → ∃ v', valueWithin false (bound + 1)
    (v.render.toList ++ rest) = .ok (v', rest)) : Skips v := by
  intro bound rest enough stop
  obtain ⟨c, cs, eq, -⟩ := head_value v
  rw [eq, List.length_cons] at enough
  obtain ⟨bound, rfl⟩ := Nat.exists_eq_succ_of_ne_zero (Nat.ne_zero_of_lt enough)
  exact h bound rest stop

/-- Every value is passed over. -/
theorem skips (v : Value) : Skips v := by
  cases v with
  | null =>
    refine skips_simple fun bound rest _ => ⟨.null, ?_⟩
    rw [toList_null, valueWithin]
    rfl
  | bool b =>
    refine skips_simple fun bound rest _ => ⟨.bool b, ?_⟩
    cases b <;> rw [Value.render, valueWithin] <;> rfl
  | text s => exact skips_simple fun bound rest _ => ⟨.text s, valueWithin_text false bound s rest⟩
  | number n => exact skips_simple fun bound rest stop => valueWithin_number bound n stop
  -- The parts stand in a list, for which there is no induction hypothesis: they are smaller.
  | array items => exact skips_array fun w mem => skips w
  | object members => exact skips_object fun m mem => skips m.2
termination_by v
decreasing_by
  · have := List.sizeOf_lt_of_mem mem
    simp only [Value.array.sizeOf_spec]
    omega
  · have := List.sizeOf_lt_of_mem mem
    obtain ⟨name, w⟩ := m
    simp only [Value.object.sizeOf_spec, Prod.mk.sizeOf_spec] at this ⊢
    omega

/-- What passes over a value takes a bound that suffices for any. -/
theorem skip_render (v : Value) (stop : Stops rest) :
    skip (v.render.toList ++ rest) = .ok ((), rest) := by
  have enough : 2 * v.render.toList.length ≤ 2 * (v.render.toList ++ rest).length + 1 := by
    rw [List.length_append]
    omega
  obtain ⟨v', read⟩ := skips v _ rest enough stop
  rw [skip, read]

end Json
end ScriptHost
