import Mathlib.Data.List.Basic
import ScriptHost.Json.Reader
import ScriptHost.Proofs.Magnitudes

/-!
# What is written is read

The compact text of a text, a truth value, null or a number in the range of a machine word is read
as that value, whatever follows it.

## Main definitions

* `Json.Stops` — what may follow a number without becoming part of it.
* `Json.Reads` — a reader that takes some characters for a value, whatever follows them.

## Main statements

* `Json.reads_string`, `Json.reads_flag`, `Json.reads_nullable`, `Json.reads_natural` — values of a
  wanted type.

## Design notes

A number has no end of its own, so every statement is about characters before others that do not
continue a number.
-/

namespace ScriptHost
namespace Json

variable {α β : Type} {reader : Reader α} {a : α} {c : Char} {cs rest : List Char} {n : Nat}

/-- What follows does not continue a number. -/
def Stops (rest : List Char) : Prop :=
  ∀ c ∈ rest.head?, isDigit c = false ∧ c ≠ '.' ∧ c ≠ 'e' ∧ c ≠ 'E'

/-- Characters that are read as a value, whatever follows. -/
def Reads (reader : Reader α) (cs : List Char) (a : α) : Prop :=
  ∀ rest, Stops rest → reader (cs ++ rest) = .ok (a, rest)

/-! ## Readers -/

theorem bind_ok {f : α → Reader β} (h : reader cs = .ok (a, rest)) :
    (reader >>= f) cs = f a rest := by
  have split : (reader >>= f) cs = (reader cs).bind fun r => f r.1 r.2 := rfl
  rw [split, h]
  rfl

theorem peek_cons (full : isBlank c = false) (cs : List Char) (f : Option Char → Reader β) :
    (peek? >>= f) (c :: cs) = f (some c) (c :: cs) := by
  refine bind_ok ?_
  simp [peek?, full]

theorem advance_cons (c : Char) (cs : List Char) (f : Unit → Reader β) :
    (advance >>= f) (c :: cs) = f () cs := rfl

theorem next_cons (c : Char) (cs : List Char) (f : Char → Reader β) :
    (next >>= f) (c :: cs) = f c cs := rfl

/-! ## Texts -/

theorem toList_quote (s : String) :
    (quote s).toList = '"' :: (s.toList.flatMap (fun c => (escapeChar c).toList) ++ ['"']) := by
  simp [quote, String.toList_join, List.flatMap_map]

/-- The four digits of a control are read as its code. -/
theorem codeUnit_hexUnit (few : n < 32) (rest : List Char) :
    codeUnit ((hexUnit n).toList ++ rest) = .ok (n, rest) := by
  have digits : ∀ n < 32,
      (hexUnit n).toList = ['0', '0', (n / 16).digitChar, (n % 16).digitChar] := by decide +kernel
  have values : ∀ n < 32, hexValue? '0' = some 0 ∧ hexValue? (n / 16).digitChar = some (n / 16) ∧
      hexValue? (n % 16).digitChar = some (n % 16) := by decide
  obtain ⟨zero, high, low⟩ := values n few
  rw [digits n few]
  simp only [List.cons_append, List.nil_append, codeUnit, zero, high, low]
  rw [show ((0 * 16 + 0) * 16 + n / 16) * 16 + n % 16 = n by omega]

/-- A control written by its code is read as that control, be it decoded or passed over. -/
theorem unicodeEscape_hexUnit (strict : Bool) (few : c.toNat < 32) (rest : List Char) :
    unicodeEscape strict ((hexUnit c.toNat).toList ++ rest) = .ok (c, rest) := by
  have low : (decide (0xDC00 ≤ c.toNat) && decide (c.toNat ≤ 0xDFFF)) = false := by
    rw [decide_eq_false (by omega), Bool.false_and]
  have high : (decide (0xD800 ≤ c.toNat) && decide (c.toNat ≤ 0xDBFF)) = false := by
    rw [decide_eq_false (by omega), Bool.false_and]
  rw [unicodeEscape, bind_ok (codeUnit_hexUnit few rest), Char.ofNat_toNat, low, high]
  cases strict <;> rfl

theorem escape_u (strict : Bool) (cs : List Char) :
    escape strict ('u' :: cs) = unicodeEscape strict cs := by
  simp [escape, next_cons]

theorem textChars_escape (strict : Bool) (bound : Nat) (h : escape strict cs = .ok (c, rest)) :
    textChars strict (bound + 1) ('\\' :: cs) =
      (textChars strict bound >>= fun rest => pure (c :: rest)) rest := by
  rw [textChars, next_cons, if_neg (by decide), if_pos rfl]
  exact bind_ok h

/-- An escape is read as the character that it is written for, and every other character is read as
itself. -/
theorem textChars_escapeChar (strict : Bool) (bound : Nat) (c : Char) (cs : List Char) :
    textChars strict (bound + 1) ((escapeChar c).toList ++ cs) =
      (textChars strict bound >>= fun rest => pure (c :: rest)) cs := by
  unfold escapeChar
  split_ifs with quote backslash backspace feed line return_ tab control
  · exact textChars_escape strict bound (quote ▸ rfl)
  · exact textChars_escape strict bound (backslash ▸ rfl)
  · exact textChars_escape strict bound (backspace ▸ rfl)
  · exact textChars_escape strict bound (feed ▸ rfl)
  · exact textChars_escape strict bound (line ▸ rfl)
  · exact textChars_escape strict bound (return_ ▸ rfl)
  · exact textChars_escape strict bound (tab ▸ rfl)
  · have mark : "\\u".toList = ['\\', 'u'] := rfl
    rw [String.toList_append, mark, List.append_assoc, List.cons_append, List.singleton_append]
    refine textChars_escape strict bound ?_
    rw [escape_u]
    exact unicodeEscape_hexUnit strict control cs
  · have plain : c.toString.toList = [c] := String.toList_singleton c
    rw [plain, List.singleton_append, textChars, next_cons, if_neg quote, if_neg backslash,
      if_neg control]

theorem textChars_quoted (strict : Bool) {bound : Nat} {cs : List Char} (few : cs.length < bound)
    (rest : List Char) :
    textChars strict bound (cs.flatMap (fun c => (escapeChar c).toList) ++ '"' :: rest) =
      .ok (cs, rest) := by
  induction cs generalizing bound with
  | nil =>
    obtain ⟨bound, rfl⟩ := Nat.exists_eq_succ_of_ne_zero (Nat.ne_of_gt few)
    rfl
  | cons c cs ih =>
    obtain ⟨bound, rfl⟩ := Nat.exists_eq_succ_of_ne_zero (Nat.ne_zero_of_lt few)
    rw [List.flatMap_cons, List.append_assoc, textChars_escapeChar,
      bind_ok (ih (Nat.lt_of_succ_lt_succ few))]
    rfl

theorem length_le_escaped (cs : List Char) :
    cs.length ≤ (cs.flatMap fun c => (escapeChar c).toList).length := by
  induction cs with
  | nil => exact Nat.le_refl _
  | cons c cs ih =>
    have some : 1 ≤ (escapeChar c).toList.length := by
      unfold escapeChar
      split_ifs <;> simp
    rw [List.flatMap_cons, List.length_append, List.length_cons]
    omega

/-- The body of a quoted text is that text. -/
theorem textBody_quoted (strict : Bool) (s : String) (rest : List Char) :
    textBody strict (s.toList.flatMap (fun c => (escapeChar c).toList) ++ '"' :: rest) =
      .ok (s, rest) := by
  have few : s.toList.length < (s.toList.flatMap (fun c => (escapeChar c).toList) ++
      '"' :: rest).length + 1 := by
    rw [List.length_append]
    exact Nat.lt_succ_of_le (Nat.le_add_right_of_le (length_le_escaped _))
  rw [textBody, textChars_quoted strict few]
  exact congrArg (fun s => Except.ok (s, rest)) String.ofList_toList

/-! ## Digits -/

theorem isDigit_of_mem (mem : c ∈ Nat.toDigits 10 n) : isDigit c = true :=
  Nat.isDigit_of_mem_toDigits (by decide) (by decide) mem

theorem ofDigits_toDigits (n : Nat) : ofDigits ((Nat.toDigits 10 n).map digitValue) = n := by
  rw [ofDigits, List.foldl_map]
  exact (Nat.ofDigitChars_toDigits (by decide) (by decide) : Nat.ofDigitChars 10 _ 0 = n)

/-- No number but zero is written with a zero in front. -/
theorem head_toDigits (pos : 0 < n) : (Nat.toDigits 10 n).head? ≠ some '0' := by
  induction n using Nat.strongRecOn with
  | _ n ih =>
    rw [Nat.toDigits_eq_if (by decide)]
    -- The leading digit of a number of several digits is that of its tenth.
    split
    · next few =>
      have digit : ∀ n < 10, 0 < n → [n.digitChar].head? ≠ some '0' := by decide
      exact digit n few pos
    · next many =>
      rw [List.head?_append_of_ne_nil _ Nat.toDigits_ne_nil]
      exact ih (n / 10) (by omega) (by omega)

/-- All the digits are taken, and no more. -/
theorem digits_append {ds : List Char} (all : ∀ c ∈ ds, isDigit c = true)
    (stop : ∀ c ∈ rest.head?, isDigit c = false) :
    digits (ds ++ rest) = .ok (ds.map digitValue, rest) := by
  have none : rest.takeWhile isDigit = [] ∧ rest.dropWhile isDigit = rest := by
    cases rest with
    | nil => exact ⟨rfl, rfl⟩
    | cons c rest =>
      have first := stop c rfl
      simp [first]
  rw [digits, List.takeWhile_append_of_pos all, List.dropWhile_append_of_pos all, none.1, none.2,
    List.append_nil]

/-! ## Numbers -/

theorem digitValue_ne_zero (digit : isDigit c = true) (other : c ≠ '0') : digitValue c ≠ 0 := by
  have bounds : '0'.toNat ≤ c.toNat ∧ c.toNat ≤ '9'.toNat := Char.isDigit_iff_toNat.1 digit
  have apart : c.toNat ≠ '0'.toNat := fun same => other (Char.ext (UInt32.toNat_inj.1 same))
  exact Nat.sub_ne_zero_of_lt (Nat.lt_of_le_of_ne bounds.1 apart.symm)

theorem wholePart_toDigits (strict : Bool) (n : Nat)
    (stop : ∀ c ∈ rest.head?, isDigit c = false) :
    wholePart strict (Nat.toDigits 10 n ++ rest) = .ok (n, rest) := by
  rw [wholePart, digits_append (fun c mem => isDigit_of_mem mem) stop]
  -- A zero in front is read alone, so it has to be the whole number.
  obtain rfl | pos := Nat.eq_zero_or_pos n
  · rfl
  · have value := ofDigits_toDigits n
    have first := head_toDigits pos
    cases all : Nat.toDigits 10 n with
    | nil => exact absurd all Nat.toDigits_ne_nil
    | cons c cs =>
      have digit : isDigit c = true := isDigit_of_mem (all ▸ List.mem_cons_self)
      have nonzero : digitValue c ≠ 0 :=
        digitValue_ne_zero digit fun eq => first (by rw [all, eq]; rfl)
      rw [all] at value
      obtain ⟨d, eq⟩ := Nat.exists_eq_succ_of_ne_zero nonzero
      rw [List.map_cons, eq] at value ⊢
      exact congrArg (fun n => Except.ok (n, rest)) value

theorem toList_toString (n : Nat) : (toString n).toList = Nat.toDigits 10 n := by
  rw [Nat.toString_eq_ofList_toDigits, String.toList_ofList]

/-- An exponent is written with its sign and some digits. -/
theorem toList_renderExponent (e : Int) :
    ∃ ds, (∀ c ∈ ds, isDigit c = true) ∧ ds ≠ [] ∧ ofDigits (ds.map digitValue) = e.natAbs ∧
      (Number.renderExponent e).toList = 'e' :: (if e < 0 then '-' else '+') :: ds := by
  have mark : (if e < 0 then "e-" else "e+").toList = ['e', if e < 0 then '-' else '+'] := by
    split <;> rfl
  have zero : "0".toList = ['0'] := rfl
  have digit : ∀ c ∈ Nat.toDigits 10 e.natAbs, isDigit c = true := fun c mem => isDigit_of_mem mem
  unfold Number.renderExponent
  by_cases few : (toString e.natAbs).length < 2
  · refine ⟨'0' :: Nat.toDigits 10 e.natAbs, ?_, List.cons_ne_nil _ _, ?_, ?_⟩
    · rintro c (_ | ⟨_, mem⟩)
      · rfl
      · exact digit c mem
    · exact ofDigits_toDigits e.natAbs
    · rw [String.toList_append, mark, if_pos few, String.toList_append, zero, toList_toString]
      rfl
  · refine ⟨Nat.toDigits 10 e.natAbs, digit, Nat.toDigits_ne_nil, ofDigits_toDigits _, ?_⟩
    rw [String.toList_append, mark, if_neg few, toList_toString]
    rfl

theorem exponentPart_render (strict : Bool) (e : Int)
    (stop : ∀ c ∈ rest.head?, isDigit c = false) :
    exponentPart strict ((Number.renderExponent e).toList ++ rest) = .ok (some e, rest) := by
  obtain ⟨ds, all, some, value, written⟩ := toList_renderExponent e
  obtain ⟨c, cs, rfl⟩ := List.exists_cons_of_ne_nil some
  rw [written]
  by_cases negative : e < 0
  · have back : -((ofDigits ((c :: cs).map digitValue) : Nat) : Int) = e := by rw [value]; omega
    simp only [if_pos negative, exponentPart, List.cons_append]
    rw [← List.cons_append, digits_append all stop]
    exact congrArg (fun e => Except.ok (Option.some e, rest)) back
  · have back : ((ofDigits ((c :: cs).map digitValue) : Nat) : Int) = e := by rw [value]; omega
    simp only [if_neg negative, exponentPart, List.cons_append]
    rw [← List.cons_append, digits_append all stop]
    exact congrArg (fun e => Except.ok (Option.some e, rest)) back

/-- The written exponent of a number. -/
def powerPart (exponent : Option Int) : List Char :=
  (exponent.map fun e => (Number.renderExponent e).toList).getD []

/-- The written fraction of a number. -/
def pointPart (fraction : List Nat) : List Char :=
  if fraction = [] then [] else '.' :: fraction.flatMap (Nat.toDigits 10)

theorem powerPart_stops (exponent : Option Int) (stop : Stops rest) :
    ∀ c ∈ (powerPart exponent ++ rest).head?, isDigit c = false ∧ c ≠ '.' := by
  cases exponent with
  | none => exact fun c first => ⟨(stop c first).1, (stop c first).2.1⟩
  | some e =>
    obtain ⟨ds, -, -, -, written⟩ := toList_renderExponent e
    rw [powerPart, Option.map_some, Option.getD_some, written]
    rintro c ⟨⟩
    decide

theorem pointPart_stops (fraction : List Nat)
    (stop : ∀ c ∈ rest.head?, isDigit c = false ∧ c ≠ '.') :
    ∀ c ∈ (pointPart fraction ++ rest).head?, isDigit c = false := by
  unfold pointPart
  split
  · exact fun c first => (stop c first).1
  · rintro c ⟨⟩
    decide

theorem exponentPart_powerPart (strict : Bool) (exponent : Option Int) (stop : Stops rest) :
    exponentPart strict (powerPart exponent ++ rest) = .ok (exponent, rest) := by
  cases exponent with
  | some e => exact exponentPart_render strict e fun c first => (stop c first).1
  | none =>
    change exponentPart strict rest = _
    cases rest with
    | nil => rfl
    | cons c rest =>
      obtain ⟨-, -, small, capital⟩ := stop c rfl
      simp [exponentPart, small, capital]

/-- The digits of a fraction are read one by one, whatever numbers they were written for. -/
theorem fractionPart_pointPart (strict : Bool) (fraction : List Nat)
    (stop : ∀ c ∈ rest.head?, isDigit c = false ∧ c ≠ '.') :
    fractionPart strict (pointPart fraction ++ rest) =
      .ok ((fraction.flatMap (Nat.toDigits 10)).map digitValue, rest) := by
  cases fraction with
  | nil =>
    change fractionPart strict rest = .ok ([], rest)
    cases rest with
    | nil => rfl
    | cons c rest =>
      have other := (stop c rfl).2
      unfold fractionPart
      split
      · next eq => exact absurd (List.cons.inj eq).1 other
      · rfl
  | cons d fraction =>
    have all : ∀ c ∈ (d :: fraction).flatMap (Nat.toDigits 10), isDigit c = true := by
      intro c mem
      obtain ⟨d, -, mem⟩ := List.mem_flatMap.1 mem
      exact isDigit_of_mem mem
    have some : (d :: fraction).flatMap (Nat.toDigits 10) ≠ [] := by
      simp [Nat.toDigits_ne_nil]
    obtain ⟨c, cs, eq⟩ := List.exists_cons_of_ne_nil some
    rw [pointPart, if_neg (List.cons_ne_nil d fraction), List.cons_append, fractionPart,
      digits_append all fun c first => (stop c first).1, eq]
    rfl

/-- A number whose parts have been read. A strict reading refuses what binary64 cannot hold. -/
def checked (strict : Bool) (n : Number) : Reader Number :=
  if strict && n.double?.isNone then refuse .malformed else pure n

theorem toList_render (n : Number) :
    n.render.toList = (if n.negative then ['-'] else []) ++
      (Nat.toDigits 10 n.whole ++ (pointPart n.fraction ++ powerPart n.exponent)) := by
  have point : ".".toList = ['.'] := rfl
  have minus : "-".toList = ['-'] := rfl
  obtain ⟨negative, whole, fraction, exponent⟩ := n
  unfold Number.render pointPart powerPart
  cases negative <;> cases exponent <;> cases fraction <;>
    simp [String.toList_join, List.flatMap_map, point, minus]

/-- The parts behind an optional sign, in front of which no other sign can stand. -/
theorem number_signed (strict negative : Bool) (first : cs.head? ≠ some '-') :
    number strict ((if negative then ['-'] else []) ++ cs) =
      (wholePart strict >>= fun whole => fractionPart strict >>= fun fraction =>
        exponentPart strict >>= fun exponent =>
          checked strict ⟨negative, whole, fraction, exponent⟩) cs := by
  cases negative
  · cases cs with
    | nil => rfl
    | cons c cs =>
      have other : c ≠ '-' := fun eq => first (eq ▸ rfl)
      unfold number
      refine bind_ok ?_
      split
      · next eq => exact absurd (List.cons.inj eq).1 other
      · rfl
  · rfl

/-- A written number is read part by part. -/
theorem number_render (strict : Bool) (n : Number) (stop : Stops rest) :
    number strict (n.render.toList ++ rest) =
      checked strict { n with fraction := (n.fraction.flatMap (Nat.toDigits 10)).map digitValue }
        rest := by
  have unsigned : (Nat.toDigits 10 n.whole ++ (pointPart n.fraction ++
      (powerPart n.exponent ++ rest))).head? ≠ some '-' := by
    rw [List.head?_append_of_ne_nil _ Nat.toDigits_ne_nil]
    intro first
    exact absurd (isDigit_of_mem (List.mem_of_mem_head? first)) (by decide)
  have behind := powerPart_stops n.exponent stop
  rw [toList_render]
  simp only [List.append_assoc]
  rw [number_signed strict n.negative unsigned,
    bind_ok (wholePart_toDigits strict n.whole (pointPart_stops n.fraction behind)),
    bind_ok (fractionPart_pointPart strict n.fraction behind),
    bind_ok (exponentPart_powerPart strict n.exponent stop)]

/-! ## Words in binary64 -/

theorem le_foldl_digits (ds : List Nat) (n : Nat) : n ≤ ds.foldl (fun n d => 10 * n + d) n := by
  induction ds generalizing n with
  | nil => exact Nat.le_refl n
  | cons d ds ih => exact Nat.le_trans (by omega) (ih (10 * n + d))

/-- Digits that together fit a word are all taken into the significand. -/
theorem foldl_push {push : Nat × Int × Bool → Nat → Nat × Int × Bool}
    (takes : ∀ sig d, 10 * sig + d < 2 ^ 64 → push (sig, 0, false) d = (10 * sig + d, 0, false))
    (ds : List Nat) (sig : Nat) (few : ds.foldl (fun n d => 10 * n + d) sig < 2 ^ 64) :
    ds.foldl push (sig, 0, false) = (ds.foldl (fun n d => 10 * n + d) sig, 0, false) := by
  -- What the digits come to only grows, so the limit holds after each of them.
  induction ds generalizing sig with
  | nil => rfl
  | cons d ds ih =>
    rw [List.foldl_cons, takes sig d (Nat.lt_of_le_of_lt (le_foldl_digits ds _) few)]
    exact ih _ few

theorem significand_ofNat (few : n < 2 ^ 64) : (Number.ofNat n).significand = (n, 0) := by
  have value := ofDigits_toDigits n
  unfold ofDigits at value
  simp only [Number.significand, Number.ofNat, List.foldl_nil, Option.getD_none]
  rw [foldl_push ?_ _ 0 (by rwa [value]), value]
  · rfl
  · intro sig d few
    have fits : ¬ sig * 10 + d ≥ Nat.pow 2 64 := by
      have : Nat.pow 2 64 = 2 ^ 64 := rfl
      omega
    simp only [Bool.false_or, decide_eq_false fits, Bool.false_eq_true, if_false]
    rw [Nat.mul_comm]

/-- A word is read as itself: binary64 holds it, though not exactly. -/
theorem number_toDigits (strict : Bool) (few : n < 2 ^ 64) (stop : Stops rest) :
    number strict (Nat.toDigits 10 n ++ rest) = .ok (.ofNat n, rest) := by
  have held : (Number.ofNat n).double?.isNone = false := by
    have some := Binary.ofScaled_word few
    rw [Number.double?, significand_ofNat few]
    exact Option.isNone_eq_false_iff.2 some
  have read := number_render strict (.ofNat n) stop
  rw [toList_render] at read
  change number strict ([] ++ (Nat.toDigits 10 n ++ ([] ++ [])) ++ rest) =
    checked strict (.ofNat n) rest at read
  rw [List.nil_append, List.append_nil, List.append_nil] at read
  rw [read, checked, held, Bool.and_false]
  rfl

/-! ## Values of a wanted type -/

theorem toList_text (s : String) : (Value.text s).render.toList =
    '"' :: (s.toList.flatMap (fun c => (escapeChar c).toList) ++ ['"']) := by
  rw [Value.render, toList_quote]

theorem toList_ofNat (n : Nat) : (Value.ofNat n).render.toList = Nat.toDigits 10 n := by
  rw [Value.ofNat, Value.render, toList_render]
  change [] ++ (Nat.toDigits 10 n ++ ([] ++ [])) = Nat.toDigits 10 n
  rw [List.nil_append, List.append_nil, List.append_nil]

theorem reads_string (s : String) : Reads string (Value.text s).render.toList s := by
  intro rest _
  rw [toList_text, List.cons_append, List.append_assoc, string, peek_cons (by decide)]
  exact textBody_quoted true s rest

theorem reads_flag (b : Bool) : Reads flag (Value.bool b).render.toList b := by
  intro rest _
  cases b
  · have written : (Value.bool false).render.toList = ['f', 'a', 'l', 's', 'e'] := by
      rw [Value.render]; rfl
    rw [written]
    rfl
  · have written : (Value.bool true).render.toList = ['t', 'r', 'u', 'e'] := by
      rw [Value.render]; rfl
    rw [written]
    rfl

theorem toList_null : Value.null.render.toList = ['n', 'u', 'l', 'l'] := by
  rw [Value.render]
  rfl

/-- A text that may be missing is read from null or from the text. -/
theorem reads_nullable (t : Option String) :
    Reads (nullable string) (Value.ofText? t).render.toList t := by
  intro rest stop
  cases t with
  | none =>
    rw [Value.ofText?, toList_null]
    rfl
  | some s =>
    have read := reads_string s rest stop
    rw [toList_text, List.cons_append] at read
    rw [Value.ofText?, toList_text, List.cons_append, nullable, peek_cons (by decide)]
    exact bind_ok read

theorem isBlank_of_isDigit (digit : isDigit c = true) : isBlank c = false := by
  refine Bool.eq_false_iff.2 fun blank => ?_
  simp only [isBlank, Bool.or_eq_true, beq_iff_eq] at blank
  obtain ((rfl | rfl) | rfl) | rfl := blank <;> exact absurd digit (by decide)

/-- A natural number below a limit of at most 2 to the 64 is read. -/
theorem reads_natural {limit : Nat} (few : n < limit) (word : limit ≤ 2 ^ 64) :
    Reads (natural limit) (Value.ofNat n).render.toList n := by
  intro rest stop
  have read := number_toDigits true (Nat.lt_of_lt_of_le few word) stop
  obtain ⟨c, cs, eq⟩ := List.exists_cons_of_ne_nil (Nat.toDigits_ne_nil (b := 10) (n := n))
  have digit : isDigit c = true := isDigit_of_mem (eq ▸ List.mem_cons_self)
  rw [toList_ofNat]
  rw [eq, List.cons_append] at read ⊢
  have any : anyNumber (c :: (cs ++ rest)) = .ok (.ofNat n, rest) := by
    rw [anyNumber, peek_cons (isBlank_of_isDigit digit)]
    dsimp only
    rw [digit, Bool.or_true, if_pos rfl, read]
  have natural? : (Number.ofNat n).natural? = some n := rfl
  rw [natural, bind_ok any, natural?]
  dsimp only
  rw [if_pos few]
  rfl

end Json
end ScriptHost
