import ScriptHost.Number.Binary

/-!
# Numbers of 32 bits and their decimal text

`Single` is a binary32 number. Its text has the fewest digits that read back to the same number, the
nearest of those if there are several.

## Main definitions

* `Single` — not a number, an infinity, or a signed finite magnitude.
* `Single.shortest` — the digits and the power of ten of the shortest decimal.
* `Single.plain` — positional text, without an exponent.
* `Single.parse?` — the number that a decimal text denotes, correctly rounded.

## Design notes

A decimal reads back to a magnitude `m * 2 ^ e` if it lies between the midpoints to its neighbours,
the midpoints themselves counting when `m` is even. For each power of ten, from coarse to fine,
`shortest` looks at the two multiples next to the value; the first power with a hit wins.
-/

namespace ScriptHost

/-- A binary32 number. -/
inductive Single where
  | nan
  | infinite (negative : Bool)
  | finite (negative : Bool) (magnitude : Binary.Magnitude)
deriving DecidableEq, Repr, Inhabited

namespace Single

open Binary

/-- The nearest number to a signed ratio. -/
def ofRatio (negative : Bool) (num den : Nat) : Single :=
  match binary32.round num den with
  | some m => .finite negative m
  | none => .infinite negative

/-- The number one. -/
def one : Single := ofRatio false 1 1

/-- Finite and greater than zero. -/
def isPositive : Single → Bool
  | .finite false m => m.mantissa ≠ 0
  | _ => false

/-- A decimal `digits * 10 ^ power`. -/
structure Decimal where
  digits : Nat
  power : Int
deriving DecidableEq, Repr, Inhabited

namespace Decimal

/-- The numerator of a decimal as a ratio. -/
def numerator (d : Decimal) : Nat := d.digits * Nat.pow 10 d.power.toNat

/-- The denominator of a decimal as a ratio. -/
def denominator (d : Decimal) : Nat := Nat.pow 10 (-d.power).toNat

/-- The digits without trailing zeros, at most `count` of which are taken off. -/
def trim : Nat → Decimal → Decimal
  | 0, d => d
  | count + 1, d =>
    if d.digits ≠ 0 && d.digits % 10 = 0 then trim count ⟨d.digits / 10, d.power + 1⟩ else d

end Decimal

/-- Whether a decimal rounds to the magnitude `m`. -/
def readsAs (m : Magnitude) (d : Decimal) : Bool :=
  binary32.round d.numerator d.denominator == some m

/-- The distance between a decimal and a magnitude, over the product of their denominators. -/
def distance (m : Magnitude) (d : Decimal) : Nat :=
  let x := d.numerator * m.denominator
  let y := m.numerator * d.denominator
  (x - y) + (y - x)

/-- The better of the two multiples of `10 ^ power` next to a magnitude, if one reads back: the
nearer, and of two equally near ones the even. -/
def onGrid (m : Magnitude) (power : Int) : Option Decimal :=
  let below := m.numerator * Nat.pow 10 (-power).toNat / (m.denominator * Nat.pow 10 power.toNat)
  let low : Decimal := ⟨below, power⟩
  let high : Decimal := ⟨below + 1, power⟩
  match readsAs m low, readsAs m high with
  | true, true =>
    let dl := distance m low
    let dh := distance m high
    if dl < dh || (dl = dh && below % 2 = 0) then some low else some high
  | true, false => some low
  | false, true => some high
  | false, false => none

/-- The shortest decimal that reads back to a magnitude; nine digits always do. -/
def shortest (m : Magnitude) : Decimal :=
  if m.mantissa = 0 then ⟨0, 0⟩
  else
    -- an upper bound of the power of ten of the leading digit
    let top : Int := floorLog m.numerator m.denominator * 30103 / 100000 + 2
    let powers := (List.range 12).map fun k => top - Int.ofNat k
    ((powers.findSome? (onGrid m)).getD ⟨0, 0⟩).trim 12

/-- The decimal digits of a natural number. -/
def digitsOf (n : Nat) : String := toString n

/-- Positional text of a decimal: no exponent, no trailing point. -/
def Decimal.plain (d : Decimal) : String :=
  if d.power ≥ 0 then digitsOf (d.digits * Nat.pow 10 d.power.toNat)
  else
    let places := (-d.power).toNat
    let digits := digitsOf d.digits
    let padded := "".pushn '0' (places + 1 - digits.length) ++ digits
    (padded.take (padded.length - places)).toString ++ "."
      ++ (padded.drop (padded.length - places)).toString

/-- The text of a number without an exponent. -/
def plain : Single → String
  | .nan => "NaN"
  | .infinite negative => if negative then "-inf" else "inf"
  | .finite negative m => (if negative then "-" else "") ++ (shortest m).plain

/-! ## Reading -/

/-- A decimal digit's value. -/
def digit? (c : Char) : Option Nat :=
  if '0' ≤ c && c ≤ '9' then some (c.toNat - '0'.toNat) else none

/-- The number that a list of digits writes, if all of them are digits. -/
def natural? (cs : List Char) : Option Nat :=
  cs.foldlM (fun n c => (digit? c).map (10 * n + ·)) 0

/-- A signed list of digits, at least one. -/
def integer? : List Char → Option Int
  | '-' :: cs => if cs.isEmpty then none else (natural? cs).map fun n => -(n : Int)
  | '+' :: cs => if cs.isEmpty then none else (natural? cs).map Int.ofNat
  | cs => if cs.isEmpty then none else (natural? cs).map Int.ofNat

/-- The number nearest to `digits * 10 ^ power`; powers beyond the range of the format count as
infinite or as zero without being computed. -/
def ofDecimal (negative : Bool) (d : Decimal) : Single :=
  let size : Int := (digitsOf d.digits).length + d.power
  if d.digits = 0 || size < -60 then ofRatio negative 0 1
  else if size > 60 then .infinite negative
  else ofRatio negative d.numerator d.denominator

/-- An unsigned decimal text: digits with at most one point and at least one digit, then perhaps an
exponent. -/
def parseUnsigned? (negative : Bool) (cs : List Char) : Option Single := do
  let isMark := fun c : Char => c == 'e' || c == 'E'
  let body := cs.takeWhile (!isMark ·)
  let exponent ← match cs.dropWhile (!isMark ·) with
    | [] => some 0
    | _ :: rest => integer? rest
  let whole := body.takeWhile (· != '.')
  let fraction := (body.dropWhile (· != '.')).drop 1
  if whole.isEmpty && fraction.isEmpty then none
  let digits ← natural? (whole ++ fraction)
  some (ofDecimal negative ⟨digits, exponent - fraction.length⟩)

/-- The number that a text denotes: a decimal, an infinity or not a number, with an optional sign;
names in any ASCII case. -/
def parse? (s : String) : Option Single :=
  let (negative, cs) := match s.toList with
    | '-' :: cs => (true, cs)
    | '+' :: cs => (false, cs)
    | cs => (false, cs)
  match String.ofList (cs.map Char.toLower) with
  | "inf" => some (.infinite negative)
  | "infinity" => some (.infinite negative)
  | "nan" => some .nan
  | _ => parseUnsigned? negative cs

end Single
end ScriptHost
