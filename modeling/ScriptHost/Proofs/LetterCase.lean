import Mathlib.Data.Nat.Bitwise
import ScriptHost.Proofs.Trimming
import ScriptHost.Text.Case

/-!
# What changes of letter case leave alone

A change of case sends each character to some that need no further change. It neither makes nor
removes white space or a mark that separates the parts of a tag, and nothing vanishes in it.

## Main definitions

* `Text.bits` — a set of code points as the bits of a number.
* `Text.Settles` — a table whose images need no further mapping.
* `Text.Alike`, `Text.Recased` — a character and what it may become, and the same for several.
* `Text.Lowered`, `Text.Uppered` — characters that a change of case leaves as they are.

## Main statements

* `Text.settles_lower`, `Text.settles_upper` — the tables settle.
* `Text.recased_lowerChars`, `Text.lowerChars_of_lowered`, `Text.lowered_lowerChars` — the lower
  case, and that it is reached at once; likewise for the upper case.

## Design notes

A table is checked as a whole: the points it covers and the points it maps to are two numbers that
have no bit in common. This is computed in one step for some thousand characters, where looking each
of them up in the table would take very long.
-/

namespace ScriptHost
namespace Text

variable {runs : List Run} {also kept image ms ns : List Nat} {r : Run} {n m : Nat}
variable {c d : Char} {before behind cs ds : List Char}

/-! ## Sets of code points -/

/-- A set of code points, as the bits of a number. -/
def bits (ns : List Nat) : Nat := ns.foldr (fun n set => set ||| 2 ^ n) 0

theorem testBit_bits : (bits ns).testBit n = true ↔ n ∈ ns := by
  induction ns with
  | nil => simp [bits]
  | cons m ns ih =>
    rw [bits, List.foldr_cons, ← bits, Nat.testBit_or, Nat.testBit_two_pow, Bool.or_eq_true, ih,
      decide_eq_true_iff, List.mem_cons, or_comm, eq_comm]

/-- Sets without a common bit have no common point. -/
theorem not_mem_of_bits (apart : bits ms &&& bits ns = 0) (mem : n ∈ ms) : n ∉ ns := by
  intro mem'
  have both : (bits ms &&& bits ns).testBit n = true := by
    rw [Nat.testBit_and, testBit_bits.2 mem, testBit_bits.2 mem', Bool.true_and]
  rw [apart, Nat.zero_testBit] at both
  exact Bool.false_ne_true both

/-! ## Tables -/

/-- The code points of a run. -/
def Run.points (r : Run) : List Nat :=
  (List.range ((r.last - r.first) / r.step + 1)).map fun k => r.first + r.step * k

/-- The code points that those of a run are mapped to. -/
def Run.targets (r : Run) : List Nat :=
  match r.image with
  | [target] => (List.range ((r.last - r.first) / r.step + 1)).map fun k => target + r.step * k
  | image => image

/-- A point of a run stands some steps behind the first one. -/
theorem Run.covers_steps (h : r.covers n = true) :
    ∃ k < (r.last - r.first) / r.step + 1, n - r.first = r.step * k ∧ n = r.first + r.step * k := by
  simp only [Run.covers, Bool.and_eq_true, decide_eq_true_eq, beq_iff_eq] at h
  obtain ⟨⟨first, last⟩, exact⟩ := h
  have steps := Nat.mul_div_cancel' (Nat.dvd_of_mod_eq_zero exact)
  have few : (n - r.first) / r.step ≤ (r.last - r.first) / r.step :=
    Nat.div_le_div_right (Nat.sub_le_sub_right last _)
  exact ⟨(n - r.first) / r.step, Nat.lt_succ_of_le few, steps.symm, by omega⟩

theorem Run.mem_points (h : r.covers n = true) : n ∈ r.points := by
  obtain ⟨k, few, -, rfl⟩ := Run.covers_steps h
  exact List.mem_map.2 ⟨k, List.mem_range.2 few, rfl⟩

theorem Run.mem_targets (h : r.covers n = true) (found : r.image? n = some image)
    (mem : m ∈ image) : m ∈ r.targets := by
  obtain ⟨k, few, steps, -⟩ := Run.covers_steps h
  rw [Run.image?, if_pos h] at found
  unfold Run.targets
  rcases several : r.image with _ | ⟨target, _ | ⟨second, rest⟩⟩ <;>
    simp only [several, Option.some.injEq] at found ⊢ <;> subst found
  · exact mem
  · -- A single image moves along with the point.
    obtain rfl := List.mem_singleton.1 mem
    rw [steps]
    exact List.mem_map.2 ⟨k, List.mem_range.2 few, rfl⟩
  · exact mem

/-- The code points that a table covers. -/
def points (runs : List Run) : List Nat := runs.flatMap Run.points

/-- The white space and the marks that separate the parts of a tag. -/
def gaps : List Nat :=
  [0x2D, 0x2E, 0x40, 0x5F, 0x09, 0x0A, 0x0B, 0x0C, 0x0D, 0x20, 0x85, 0xA0, 0x1680, 0x2000, 0x2001,
   0x2002, 0x2003, 0x2004, 0x2005, 0x2006, 0x2007, 0x2008, 0x2009, 0x200A, 0x2028, 0x2029, 0x202F,
   0x205F, 0x3000]

/-- A table whose images need no further mapping. -/
structure Settles (runs : List Run) (also kept : List Nat) : Prop where
  /-- Its images, and what else the mapping yields, are not covered, not kept from it and no gaps.
  A number that is no character counts as 0. -/
  apart : bits (0 :: (also ++ runs.flatMap Run.targets)) &&& bits (kept ++ gaps ++ points runs) = 0
  gapless : bits (points runs) &&& bits gaps = 0
  images : ∀ r ∈ runs, r.image ≠ []

instance : Decidable (Settles runs also kept) :=
  decidable_of_iff (_ ∧ _ ∧ _) ⟨fun h => ⟨h.1, h.2.1, h.2.2⟩, fun h => ⟨h.1, h.2, h.3⟩⟩

/-- A table leaves a character as it is, or has it and sends it to the images of a run. -/
theorem mapThrough_cases (runs : List Run) (c : Char) :
    mapThrough runs c = [c] ∨ c.toNat ∈ points runs ∧ ∃ r ∈ runs, ∃ image,
      r.image? c.toNat = some image ∧ (∀ m ∈ image, m ∈ r.targets) ∧
        mapThrough runs c = image.map Char.ofNat := by
  unfold mapThrough
  cases found : runs.findSome? (·.image? c.toNat) with
  | none => exact .inl rfl
  | some image =>
    obtain ⟨r, mem, found⟩ := List.exists_of_findSome?_eq_some found
    have covers : r.covers c.toNat = true := by
      by_contra out
      rw [Run.image?, if_neg out] at found
      cases found
    exact .inr ⟨List.mem_flatMap.2 ⟨r, mem, Run.mem_points covers⟩, r, mem, image, found,
      fun m => Run.mem_targets covers found, rfl⟩

/-- What a table does not have it leaves as it is. -/
theorem mapThrough_of_not_mem (out : c.toNat ∉ points runs) : mapThrough runs c = [c] :=
  (mapThrough_cases runs c).resolve_right fun h => out h.1

theorem toNat_ofNat (m : Nat) : (Char.ofNat m).toNat = m ∨ (Char.ofNat m).toNat = 0 := by
  by_cases valid : m.isValidChar
  · left
    rw [Char.ofNat, dif_pos valid]
    rfl
  · right
    rw [Char.ofNat, dif_neg valid]
    rfl

/-! ## Characters -/

/-- What a character may become: one that is a gap comes from nothing else, and stays. -/
def Alike (c d : Char) : Prop := c.toNat ∈ gaps ∨ d.toNat ∈ gaps → d = c

instance : Decidable (Alike c d) := inferInstanceAs (Decidable (_ → _))

theorem mem_gaps_of_isBlank (blank : isBlank c = true) : c.toNat ∈ gaps := by
  simp only [isBlank, Bool.or_eq_true, Bool.and_eq_true, decide_eq_true_eq, beq_iff_eq] at blank
  simp only [gaps, List.mem_cons, List.not_mem_nil, or_false]
  omega

theorem Alike.isBlank_eq (h : Alike c d) : isBlank d = isBlank c := by
  by_cases gap : c.toNat ∈ gaps ∨ d.toNat ∈ gaps
  · rw [h gap]
  · have full : isBlank c = false := by
      simpa using mt mem_gaps_of_isBlank fun mem => gap (.inl mem)
    have full' : isBlank d = false := by
      simpa using mt mem_gaps_of_isBlank fun mem => gap (.inr mem)
    rw [full, full']

/-- What a table makes of a character rests: it is the character itself or no longer covered. -/
theorem Settles.rests (h : Settles runs also kept) (mem : d ∈ mapThrough runs c) :
    d = c ∧ mapThrough runs c = [c] ∨ d.toNat ∉ kept ++ gaps ++ points runs := by
  obtain same | ⟨-, r, within, image, -, targets, same⟩ := mapThrough_cases runs c
  · rw [same] at mem
    exact .inl ⟨List.mem_singleton.1 mem, same⟩
  · rw [same] at mem
    obtain ⟨m, from_, rfl⟩ := List.mem_map.1 mem
    refine .inr (not_mem_of_bits h.apart ?_)
    obtain eq | eq := toNat_ofNat m <;> rw [eq]
    · have target : m ∈ runs.flatMap Run.targets := List.mem_flatMap.2 ⟨r, within, targets m from_⟩
      exact List.mem_cons_of_mem _ (List.mem_append_right _ target)
    · exact List.mem_cons_self

theorem Settles.alike (h : Settles runs also kept) (mem : d ∈ mapThrough runs c) : Alike c d := by
  obtain same | ⟨covered, -⟩ := mapThrough_cases runs c
  · rw [same] at mem
    exact fun _ => List.mem_singleton.1 mem
  · intro gap
    -- Neither what the table covers nor what rests is a gap.
    have full := not_mem_of_bits h.gapless covered
    obtain ⟨same, -⟩ | out := h.rests mem
    · exact same
    · exact absurd (List.mem_append_right _ (gap.resolve_left full)) fun mem =>
        out (List.mem_append_left _ mem)

theorem Settles.ne_nil (h : Settles runs also kept) : mapThrough runs c ≠ [] := by
  obtain same | ⟨-, r, within, image, found, -, same⟩ := mapThrough_cases runs c
  · rw [same]
    exact List.cons_ne_nil _ _
  · rw [same]
    intro none
    obtain rfl := List.map_eq_nil_iff.1 none
    refine h.images r within ?_
    unfold Run.image? at found
    split at found
    · split at found <;> simp_all
    · cases found

/-! ## The tables of letter case -/

theorem settles_lower :
    Settles lowerRuns [0x3C2, 0x3C3] (0x3A3 :: (List.range 26).map (0x41 + ·)) := by
  simp only [lowerRuns, readRuns, lowerTable, List.map_cons, List.map_nil]
  -- The lines are written out first: to decode a text is slow in a proof.
  repeat rw [String.toList_ofList]
  decide +kernel

theorem settles_upper : Settles upperRuns [] ((List.range 26).map (0x61 + ·)) := by
  simp only [upperRuns, readRuns, upperTable, List.map_cons, List.map_nil]
  repeat rw [String.toList_ofList]
  decide +kernel

/-- Characters that have no other lower case, wherever they stand. -/
def Lowered (cs : List Char) : Prop := ∀ c ∈ cs, ∀ before behind, lowerAt before c behind = [c]

/-- Characters that have no other upper case. -/
def Uppered (cs : List Char) : Prop := ∀ c ∈ cs, upperChar c = [c]

/-- The lower case of a character: of ASCII, a final or inner sigma, or from the table. -/
theorem lowerAt_cases (before : List Char) (c : Char) (behind : List Char) :
    c.toNat < 128 ∧ lowerAt before c behind = [c.toLower] ∨
      c = 'Σ' ∧ (lowerAt before c behind = ['ς'] ∨ lowerAt before c behind = ['σ']) ∨
      128 ≤ c.toNat ∧ c ≠ 'Σ' ∧ lowerAt before c behind = mapThrough lowerRuns c := by
  unfold lowerAt
  by_cases low : c.toNat < 128
  · exact .inl ⟨low, if_pos low⟩
  · rw [if_neg low]
    by_cases sigma : c = 'Σ'
    · rw [if_pos sigma]
      split
      · exact .inr (.inl ⟨sigma, .inl rfl⟩)
      · exact .inr (.inl ⟨sigma, .inr rfl⟩)
    · exact .inr (.inr ⟨Nat.le_of_not_lt low, sigma, if_neg sigma⟩)

theorem lowerAt_alike (mem : d ∈ lowerAt before c behind) : Alike c d := by
  obtain ⟨low, eq⟩ | ⟨rfl, eq | eq⟩ | ⟨-, -, eq⟩ := lowerAt_cases before c behind <;> rw [eq] at mem
  · obtain rfl := List.mem_singleton.1 mem
    exact of_ascii (p := fun c => Alike c c.toLower) (by decide) low
  · obtain rfl := List.mem_singleton.1 mem
    decide
  · obtain rfl := List.mem_singleton.1 mem
    decide
  · exact settles_lower.alike mem

theorem lowerAt_ne_nil : lowerAt before c behind ≠ [] := by
  obtain ⟨-, eq⟩ | ⟨-, eq | eq⟩ | ⟨-, -, eq⟩ := lowerAt_cases before c behind <;> rw [eq]
  · exact List.cons_ne_nil _ _
  · exact List.cons_ne_nil _ _
  · exact List.cons_ne_nil _ _
  · exact settles_lower.ne_nil

/-- What the table has nothing for, and is no capital of ASCII nor a sigma, is in lower case. -/
theorem lowerAt_of_not_mem
    (out : d.toNat ∉ (0x3A3 :: (List.range 26).map (0x41 + ·)) ++ gaps ++ points lowerRuns)
    (before behind : List Char) : lowerAt before d behind = [d] := by
  simp only [List.mem_append, List.mem_cons, not_or] at out
  obtain ⟨⟨⟨sigma, capital⟩, -⟩, uncovered⟩ := out
  obtain ⟨low, eq⟩ | ⟨rfl, -⟩ | ⟨-, -, eq⟩ := lowerAt_cases before d behind
  · have same := of_ascii (p := fun d => d.toNat ∉ (List.range 26).map (0x41 + ·) → d.toLower = d)
      (by decide) low
    rw [eq, same capital]
  · exact absurd rfl sigma
  · rw [eq, mapThrough_of_not_mem uncovered]

theorem lowered_lowerAt (before : List Char) (c : Char) (behind : List Char) :
    Lowered (lowerAt before c behind) := by
  intro d mem before' behind'
  obtain ⟨low, eq⟩ | ⟨-, eq | eq⟩ | ⟨high, sigma, eq⟩ := lowerAt_cases before c behind <;>
    rw [eq] at mem
  · obtain rfl := List.mem_singleton.1 mem
    obtain ⟨low, once⟩ := of_ascii
      (p := fun c => c.toLower.toNat < 128 ∧ c.toLower.toLower = c.toLower) (by decide) low
    rw [lowerAt, if_pos low, once]
  · obtain rfl := List.mem_singleton.1 mem
    exact lowerAt_of_not_mem (not_mem_of_bits settles_lower.apart (by decide)) _ _
  · obtain rfl := List.mem_singleton.1 mem
    exact lowerAt_of_not_mem (not_mem_of_bits settles_lower.apart (by decide)) _ _
  · obtain ⟨rfl, same⟩ | out := settles_lower.rests mem
    · rw [lowerAt, if_neg (Nat.not_lt.2 high), if_neg sigma, same]
    · exact lowerAt_of_not_mem out _ _

/-- The upper case of a character: of ASCII or from the table. -/
theorem upperChar_cases (c : Char) :
    c.toNat < 128 ∧ upperChar c = [c.toUpper] ∨
      128 ≤ c.toNat ∧ upperChar c = mapThrough upperRuns c := by
  by_cases low : c.toNat < 128
  · exact .inl ⟨low, if_pos low⟩
  · exact .inr ⟨Nat.le_of_not_lt low, if_neg low⟩

theorem upperChar_alike (mem : d ∈ upperChar c) : Alike c d := by
  obtain ⟨low, eq⟩ | ⟨-, eq⟩ := upperChar_cases c <;> rw [eq] at mem
  · obtain rfl := List.mem_singleton.1 mem
    exact of_ascii (p := fun c => Alike c c.toUpper) (by decide) low
  · exact settles_upper.alike mem

theorem upperChar_ne_nil : upperChar c ≠ [] := by
  obtain ⟨-, eq⟩ | ⟨-, eq⟩ := upperChar_cases c <;> rw [eq]
  · exact List.cons_ne_nil _ _
  · exact settles_upper.ne_nil

theorem upperChar_of_not_mem
    (out : d.toNat ∉ (List.range 26).map (0x61 + ·) ++ gaps ++ points upperRuns) :
    upperChar d = [d] := by
  simp only [List.mem_append, not_or] at out
  obtain ⟨⟨small, -⟩, uncovered⟩ := out
  obtain ⟨low, eq⟩ | ⟨-, eq⟩ := upperChar_cases d
  · have same := of_ascii (p := fun d => d.toNat ∉ (List.range 26).map (0x61 + ·) → d.toUpper = d)
      (by decide) low
    rw [eq, same small]
  · rw [eq, mapThrough_of_not_mem uncovered]

theorem uppered_upperChar (c : Char) : Uppered (upperChar c) := by
  intro d mem
  obtain ⟨low, eq⟩ | ⟨high, eq⟩ := upperChar_cases c <;> rw [eq] at mem
  · obtain rfl := List.mem_singleton.1 mem
    obtain ⟨low, once⟩ := of_ascii
      (p := fun c => c.toUpper.toNat < 128 ∧ c.toUpper.toUpper = c.toUpper) (by decide) low
    rw [upperChar, if_pos low, once]
  · obtain ⟨rfl, same⟩ | out := settles_upper.rests mem
    · rw [eq, same]
    · exact upperChar_of_not_mem out

/-! ## Texts -/

/-- Characters of which each has become some that are like it. -/
inductive Recased : List Char → List Char → Prop
  | nil : Recased [] []
  | cons {c : Char} {block cs ds : List Char} (some : block ≠ []) (alike : ∀ d ∈ block, Alike c d)
      (rest : Recased cs ds) : Recased (c :: cs) (block ++ ds)

theorem recased_lowerChars (before cs : List Char) : Recased cs (lowerChars before cs) := by
  induction cs generalizing before with
  | nil => exact .nil
  | cons c cs ih => exact .cons lowerAt_ne_nil (fun d => lowerAt_alike) (ih _)

theorem recased_upper (cs : List Char) : Recased cs (cs.flatMap upperChar) := by
  induction cs with
  | nil => exact .nil
  | cons c cs ih => exact .cons upperChar_ne_nil (fun d => upperChar_alike) ih

/-- Nothing vanishes in a change of case. -/
theorem Recased.eq_nil_iff (h : Recased cs ds) : ds = [] ↔ cs = [] := by
  cases h with
  | nil => exact Iff.rfl
  | cons some => simp [some]

/-- No gap comes from anything else. -/
theorem Recased.mem_of_gap (h : Recased cs ds) (gap : d.toNat ∈ gaps) (mem : d ∈ ds) : d ∈ cs := by
  induction h with
  | nil => exact mem
  | cons some alike rest ih =>
    obtain mem | mem := List.mem_append.1 mem
    · exact alike d mem (.inr gap) ▸ List.mem_cons_self
    · exact List.mem_cons_of_mem _ (ih mem)

/-- The white space at the beginning stays what it is. -/
theorem Recased.head_blank (h : Recased cs ds) :
    ds.head?.map isBlank = cs.head?.map isBlank := by
  cases h with
  | nil => rfl
  | @cons c block cs ds some alike rest =>
    obtain ⟨d, block, rfl⟩ := List.exists_cons_of_ne_nil some
    exact congrArg Option.some (alike d List.mem_cons_self).isBlank_eq

/-- The white space at the end stays what it is. -/
theorem Recased.last_blank (h : Recased cs ds) :
    ds.getLast?.map isBlank = cs.getLast?.map isBlank := by
  induction h with
  | nil => rfl
  | @cons c block cs ds some alike rest ih =>
    by_cases none : cs = []
    · obtain rfl := none
      obtain rfl := rest.eq_nil_iff.2 rfl
      have last := alike _ (List.getLast_mem some)
      rw [List.append_nil, List.getLast?_eq_getLast_of_ne_nil some]
      exact congrArg Option.some last.isBlank_eq
    · have none' : ds ≠ [] := mt rest.eq_nil_iff.1 none
      rw [List.getLast?_append_of_ne_nil _ none', ih, List.getLast?_cons_of_ne_nil none]

/-- What is in lower case stays as it is. -/
theorem lowerChars_of_lowered (h : Lowered cs) (before : List Char) :
    lowerChars before cs = cs := by
  induction cs generalizing before with
  | nil => rfl
  | cons c cs ih =>
    rw [lowerChars, h c List.mem_cons_self, ih fun d mem => h d (List.mem_cons_of_mem _ mem)]
    rfl

theorem lowered_lowerChars (before cs : List Char) : Lowered (lowerChars before cs) := by
  induction cs generalizing before with
  | nil => exact nofun
  | cons c cs ih =>
    intro d mem
    obtain mem | mem := List.mem_append.1 mem
    · exact lowered_lowerAt before c cs d mem
    · exact ih _ d mem

/-- What is in upper case stays as it is. -/
theorem flatMap_upperChar_of_uppered (h : Uppered cs) : cs.flatMap upperChar = cs := by
  rw [List.flatMap_congr h, List.flatMap_singleton']

theorem uppered_flatMap (cs : List Char) : Uppered (cs.flatMap upperChar) := by
  intro d mem
  obtain ⟨c, -, mem⟩ := List.mem_flatMap.1 mem
  exact uppered_upperChar c d mem

end Text
end ScriptHost
