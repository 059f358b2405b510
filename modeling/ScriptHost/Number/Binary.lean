/-!
# Binary floating point magnitudes

A finite magnitude is a mantissa times a power of two. This module rounds ratios of natural numbers
to the nearest magnitude of a binary format, and reads a decimal significand through binary64.

## Main definitions

* `Binary.Format` — precision and exponent range of a format; `binary32` and `binary64`.
* `Binary.Magnitude` — a mantissa and an exponent of two.
* `Binary.Format.round` — the nearest magnitude to a ratio, ties to the even mantissa.
* `Binary.ofScaled` — a significand of at most 64 bits times a power of ten, in binary64.

## Design notes

All arithmetic is exact on natural numbers; only `round` loses anything. `ofScaled` rounds the
significand first and then multiplies or divides once by a rounded power of ten, as far as tables of
powers reach (10^308), so its last bit may differ from that of the decimal value itself.
-/

namespace ScriptHost
namespace Binary

/-- A binary format: bits of precision, and the exponents that the last place can have. -/
structure Format where
  precision : Nat
  lowest : Int
  highest : Int
deriving DecidableEq, Repr

/-- The format of 32 bits. -/
def binary32 : Format := ⟨24, -149, 104⟩

/-- The format of 64 bits. -/
def binary64 : Format := ⟨53, -1074, 971⟩

/-- The magnitude `mantissa * 2 ^ exponent`. -/
structure Magnitude where
  mantissa : Nat
  exponent : Int
deriving DecidableEq, Repr, Inhabited

namespace Magnitude

/-- The numerator of a magnitude as a ratio. -/
def numerator (m : Magnitude) : Nat := m.mantissa * Nat.pow 2 m.exponent.toNat

/-- The denominator of a magnitude as a ratio. -/
def denominator (m : Magnitude) : Nat := Nat.pow 2 (-m.exponent).toNat

end Magnitude

/-- The quotient rounded to the nearest natural number, a tie to the even one. -/
def divideToEven (num den : Nat) : Nat :=
  let q := num / den
  let twice := 2 * (num % den)
  if twice > den || (twice == den && q % 2 == 1) then q + 1 else q

/-- The exponent `e` with `2 ^ e ≤ num / den < 2 ^ (e + 1)`, for a positive ratio. -/
def floorLog (num den : Nat) : Int :=
  let guess : Int := (Nat.log2 num : Int) - Nat.log2 den
  if num * Nat.pow 2 (-guess).toNat < den * Nat.pow 2 guess.toNat then guess - 1 else guess

/-- The nearest magnitude of a format to a ratio, ties to even; nothing if it is too large. -/
def Format.round (f : Format) (num den : Nat) : Option Magnitude :=
  if num = 0 then some ⟨0, f.lowest⟩
  else
    let e := max f.lowest (floorLog num den - (f.precision - 1))
    let m := divideToEven (num * Nat.pow 2 (-e).toNat) (den * Nat.pow 2 e.toNat)
    let (m, e) := if m = Nat.pow 2 f.precision then (m / 2, e + 1) else (m, e)
    if e > f.highest then none else some ⟨m, e⟩

/-- A power of ten in binary64. -/
def powerOfTen (k : Nat) : Magnitude := (binary64.round (Nat.pow 10 k) 1).getD ⟨0, 0⟩

/-- The binary64 product of two magnitudes. -/
def times (a b : Magnitude) : Option Magnitude :=
  binary64.round (a.numerator * b.numerator) (a.denominator * b.denominator)

/-- The binary64 quotient of two magnitudes. -/
def dividedBy (a b : Magnitude) : Option Magnitude :=
  binary64.round (a.numerator * b.denominator) (a.denominator * b.numerator)

/-- A significand times a power of ten in binary64, or nothing if it is too large. -/
def ofScaled (sig : Nat) (scale : Int) : Option Magnitude := do
  let f ← binary64.round sig 1
  if f.mantissa = 0 then some f
  else if scale > 308 then none
  else if scale ≥ 0 then times f (powerOfTen scale.toNat)
  else if scale ≥ -308 then dividedBy f (powerOfTen (-scale).toNat)
  else
    let f ← dividedBy f (powerOfTen 308)
    if scale ≥ -616 then dividedBy f (powerOfTen (-(scale + 308)).toNat)
    else some ⟨0, binary64.lowest⟩

end Binary
end ScriptHost
