/-!
# Characters in ASCII letters

A short text of any characters is written with the letters, digits and hyphens that host names
admit: first its own ASCII characters, then, behind a hyphen, where the other ones are to be
inserted.

## Main definitions

* `Punycode.encode?` — the written form.
* `Punycode.decode?` — the text that a written form stands for.

## Design notes

Insertions come in the order of the code points, and for one code point in the order of places. What
is written is the number of states (code point, place) passed over since the last one, in digits of
base 36 with the lowest first. A digit below the threshold of its position is the last of a number;
thresholds follow the sizes seen so far. Texts beyond a fixed length are refused.
-/

namespace ScriptHost
namespace Text
namespace Punycode

/-- The letter or figure of a digit. -/
def digit (n : Nat) : Char := if n < 26 then Char.ofNat (97 + n) else Char.ofNat (22 + n)

/-- The value of a digit. -/
def value? (c : Char) : Option Nat :=
  if 'a' ≤ c ∧ c ≤ 'z' then some (c.toNat - 97)
  else if 'A' ≤ c ∧ c ≤ 'Z' then some (c.toNat - 65)
  else if '0' ≤ c ∧ c ≤ '9' then some (c.toNat - 22)
  else none

/-- The threshold of a digit: its position above the bias, from 1 to 26. -/
def threshold (bias position : Nat) : Nat := max 1 (min 26 (position - bias))

theorem threshold_pos (bias position : Nat) : 1 ≤ threshold bias position := by
  unfold threshold; omega

/-- A number brought below 456 by dividing by 35, with 36 for each division. -/
def scale (n : Nat) (acc : Nat) : Nat × Nat :=
  if 455 < n then scale (n / 35) (acc + 36) else (n, acc)
termination_by n

/-- The bias behind an insertion that passed over a number of states and made a text so long. -/
def bias (passed length : Nat) (isFirst : Bool) : Nat :=
  let damped := if isFirst then passed / 700 else passed / 2
  let (n, acc) := scale (damped + damped / length) 0
  acc + 36 * n / (n + 38)

/-- The digits of a number from a position on. -/
def writeNumber (bias position n : Nat) : List Char :=
  let t := threshold bias position
  if n < t then [digit n]
  else digit (t + (n - t) % (36 - t)) :: writeNumber bias (position + 36) ((n - t) / (36 - t))
termination_by n
decreasing_by
  have := threshold_pos bias position
  exact Nat.lt_of_le_of_lt (Nat.div_le_self _ _) (by omega)

/-- An encoder at work: what is written, the states passed over since, and the insertions made. -/
structure Encoder where
  written : List Char
  passed : Nat
  bias : Nat
  length : Nat
  basic : Nat

namespace Encoder

/-- Passes a character of the text while a code point is inserted. -/
def pass (point : Nat) (e : Encoder) (c : Char) : Encoder :=
  if c.toNat < point then { e with passed := e.passed + 1 }
  else if c.toNat = point then
    { e with
      written := e.written ++ writeNumber e.bias 36 e.passed
      passed := 0
      bias := Punycode.bias e.passed (e.length + 1) (e.length == e.basic)
      length := e.length + 1 }
  else e

/-- Inserts code points in ascending order, from a first one that is still open. -/
def insert (e : Encoder) (text : List Char) (start : Nat) : List Nat → Encoder
  | [] => e
  | point :: rest =>
    let e := { e with passed := e.passed + (point - start) * (e.length + 1) }
    let e := text.foldl (pass point) e
    { e with passed := e.passed + 1 }.insert text (point + 1) rest

end Encoder

/-- Adds a number to ascending ones unless it is there. -/
def addPoint (n : Nat) : List Nat → List Nat
  | [] => [n]
  | m :: rest => if n < m then n :: m :: rest else if n = m then m :: rest else m :: addPoint n rest

/-- The code points beyond ASCII in ascending order. -/
def pointsOf (text : List Char) : List Nat :=
  (text.filterMap fun c => if 128 ≤ c.toNat then some c.toNat else none).foldr addPoint []

/-- The written form of a text. -/
def encode? (text : List Char) : Option (List Char) :=
  if 1000 < text.length then none
  else
    let basic := text.filter (·.toNat < 128)
    let start := if basic.isEmpty then [] else basic ++ ['-']
    let e : Encoder := ⟨start, 0, 72, basic.length, basic.length⟩
    some (e.insert text 128 (pointsOf text)).written

/-- Reads a number from a position on, adding it to another; also what follows it. -/
def readNumber? (bias : Nat) : List Char → Nat → Nat → Nat → Option (Nat × List Char)
  | [], _, _, _ => none
  | c :: rest, position, weight, n => do
    let d ← value? c
    let t := threshold bias position
    if d < t then some (n + d * weight, rest)
    else if weight * (36 - t) < Nat.pow 2 32 then
      readNumber? bias rest (position + 36) (weight * (36 - t)) (n + d * weight)
    else none

theorem length_lt_of_readNumber? {bias : Nat} {cs : List Char} {position weight n m : Nat}
    {rest : List Char} (h : readNumber? bias cs position weight n = some (m, rest)) :
    rest.length < cs.length := by
  induction cs generalizing position weight n with
  | nil => simp [readNumber?] at h
  | cons c cs ih =>
    rw [readNumber?] at h
    cases hd : value? c with
    | none => simp [hd] at h
    | some d =>
      simp only [hd, Option.bind_eq_bind, Option.bind_some] at h
      split at h
      · simp only [Option.some.injEq, Prod.mk.injEq] at h
        simp [← h.2]
      · split at h
        · exact Nat.lt_trans (ih h) (by simp)
        · simp at h

/-- Makes the insertions that digits write, behind a text that has some already. -/
def insertAll? (bias point place : Nat) (text : List Char) (cs : List Char) : Option (List Char) :=
  if cs.isEmpty then some text
  else
    match _h : readNumber? bias cs 36 1 place with
    | none => none
    | some (n, rest) =>
      let length := text.length + 1
      let point := point + n / length
      if point.isValidChar then
        insertAll? (Punycode.bias (n - place) length (place == 0)) point (n % length + 1)
          (text.insertIdx (n % length) (Char.ofNat point)) rest
      else none
termination_by cs.length
decreasing_by exact length_lt_of_readNumber? ‹_›

/-- Splits a written form at its last hyphen, unless that is in front. -/
def splitForm (cs : List Char) : List Char × List Char :=
  match cs.reverse.span (· != '-') with
  | (_, []) | (_, [_]) => ([], cs)
  | (digits, _ :: basic) => (basic.reverse, digits.reverse)

/-- The text that a written form of ASCII characters stands for. -/
def decode? (form : List Char) : Option (List Char) :=
  if 2000 < form.length then none
  else
    let (basic, digits) := splitForm form
    if basic.all (·.toNat < 128) then insertAll? 72 128 0 basic digits else none

end Punycode
end Text
end ScriptHost
