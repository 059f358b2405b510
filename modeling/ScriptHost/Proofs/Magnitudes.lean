import Mathlib.Algebra.Group.Nat.Defs
import Mathlib.Data.Nat.Log
import ScriptHost.Number.Binary

/-!
# Magnitudes of words

A natural number below 2 to the 64 is far from what binary64 cannot hold, so rounding it gives a
magnitude, and so does the product with a power of ten that it is read with.

## Main definitions

* `Binary.Format.place` — the exponent at which a ratio is rounded.

## Main statements

* `Binary.Format.round_eq` — what rounding makes of a ratio.
* `Binary.ofScaled_word` — a word is held.
-/

namespace ScriptHost
namespace Binary

variable {num den n : Nat}

/-- The exponent at which a ratio is rounded, before the mantissa becomes too long by that. -/
def Format.place (f : Format) (num den : Nat) : Int :=
  max f.lowest (floorLog num den - (f.precision - 1))

theorem divideToEven_le (num den : Nat) : divideToEven num den ≤ num + 1 := by
  have quotient := Nat.div_le_self num den
  unfold divideToEven
  dsimp only
  split <;> omega

theorem floorLog_le (num den : Nat) : floorLog num den ≤ Nat.log2 num := by
  unfold floorLog
  dsimp only
  split <;> omega

theorem le_floorLog_one (num : Nat) : -1 ≤ floorLog num 1 := by
  have one : Nat.log2 1 = 0 := by decide
  unfold floorLog
  dsimp only
  split <;> omega

/-- Rounding gives a mantissa and an exponent within bounds, unless that exponent is too large. -/
theorem Format.round_eq (f : Format) (pos : num ≠ 0) (den : Nat) :
    ∃ m e, f.round num den = (if e > f.highest then none else some ⟨m, e⟩) ∧
      e ≤ f.place num den + 1 ∧ m ≤ num * 2 ^ (-f.place num den).toNat + 1 := by
  have rounded := divideToEven_le (num * Nat.pow 2 (-f.place num den).toNat)
    (den * Nat.pow 2 (f.place num den).toNat)
  unfold Format.round
  rw [if_neg pos]
  dsimp only
  rw [← Format.place]
  by_cases full : divideToEven (num * Nat.pow 2 (-f.place num den).toNat)
      (den * Nat.pow 2 (f.place num den).toNat) = Nat.pow 2 f.precision
  · rw [if_pos full]
    exact ⟨_, _, rfl, Int.le_refl _, Nat.le_trans (Nat.div_le_self _ 2) rounded⟩
  · rw [if_neg full]
    exact ⟨_, _, rfl, Int.le_add_one (Int.le_refl _), rounded⟩

/-- A ratio whose numerator has at most 256 bits is held. -/
theorem round_isSome (few : num < 2 ^ 256) (den : Nat) :
    (binary64.round num den).isSome = true := by
  by_cases pos : num = 0
  · rw [Format.round, if_pos pos]
    rfl
  · obtain ⟨m, e, eq, small, -⟩ := binary64.round_eq pos den
    have bits : Nat.log2 num < 256 := (Nat.log2_lt pos).2 few
    have log := floorLog_le num den
    have low : ¬ e > binary64.highest := by
      simp only [Format.place, binary64] at small ⊢
      omega
    rw [eq, if_neg low]
    rfl

/-- A word is rounded to a magnitude of which the numerator is small. -/
theorem round_word (few : n < 2 ^ 64) :
    ∃ f, binary64.round n 1 = some f ∧ f.numerator ≤ 2 ^ 200 := by
  by_cases pos : n = 0
  · refine ⟨⟨0, binary64.lowest⟩, if_pos pos, ?_⟩
    rw [Magnitude.numerator, Nat.zero_mul]
    exact Nat.zero_le _
  · obtain ⟨m, e, eq, small, mantissa⟩ := binary64.round_eq pos 1
    have bits : Nat.log2 n < 64 := (Nat.log2_lt pos).2 few
    have high := floorLog_le n 1
    have low := le_floorLog_one n
    -- The logarithm is from -1 to 63, and the mantissa has 53 bits.
    have place : -53 ≤ binary64.place n 1 ∧ binary64.place n 1 ≤ 11 := by
      simp only [Format.place, binary64]
      omega
    have held : ¬ e > binary64.highest := by
      have highest : binary64.highest = 971 := rfl
      omega
    refine ⟨⟨m, e⟩, by rw [eq, if_neg held], ?_⟩
    have power : 2 ^ (-binary64.place n 1).toNat ≤ 2 ^ 53 :=
      Nat.pow_le_pow_right (by decide) (by omega)
    have exponent : 2 ^ e.toNat ≤ 2 ^ 12 := Nat.pow_le_pow_right (by decide) (by omega)
    calc m * 2 ^ e.toNat ≤ (2 ^ 64 * 2 ^ 53 + 1) * 2 ^ 12 := by
          refine Nat.mul_le_mul (Nat.le_trans mantissa ?_) exponent
          exact Nat.succ_le_succ (Nat.mul_le_mul few.le power)
      _ ≤ 2 ^ 200 := by decide

/-- A word times the zeroth power of ten is held. -/
theorem ofScaled_word (few : n < 2 ^ 64) : (ofScaled n 0).isSome = true := by
  obtain ⟨f, eq, small⟩ := round_word few
  -- One is held with its full mantissa, so it brings 52 bits into the product.
  have one : (powerOfTen 0).numerator = 2 ^ 52 := by decide +kernel
  have product : f.numerator * (powerOfTen 0).numerator < 2 ^ 256 := by
    rw [one]
    calc f.numerator * 2 ^ 52 ≤ 2 ^ 200 * 2 ^ 52 := Nat.mul_le_mul_right _ small
      _ < 2 ^ 256 := by rw [← Nat.pow_add]; exact Nat.pow_lt_pow_right (by decide) (by decide)
  have held : (times f (powerOfTen 0)).isSome = true := round_isSome product _
  unfold ofScaled
  rw [eq, Option.bind_eq_bind, Option.bind_some]
  split
  · rfl
  · rw [if_neg (by decide), if_pos (by decide)]
    exact held

end Binary
end ScriptHost
