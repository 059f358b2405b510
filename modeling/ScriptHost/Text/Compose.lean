import ScriptHost.Text.CodeRange
import ScriptHost.Text.Compose.Table

/-!
# Composition

The canonical composed form of texts: a letter with marks becomes one character wherever there is
one, and marks that do not touch each other stand in a fixed order.

## Main definitions

* `Text.isMark`, `Text.markClass` — combining marks, and the class that orders them.
* `Text.decompose` — what a character stands for.
* `Text.order` — marks behind each letter in the order of their classes.
* `Text.compose` — the composed form.

## Design notes

A composed character is known by all that it stands for, so taking one more mark is a look-up of the
parts taken so far with that mark behind them. Syllables of Hangul are computed.
-/

namespace ScriptHost
namespace Text

/-- The composed characters. -/
def composedRuns : List Run := readRuns composedTable

/-- The runs of combining marks. -/
def markRuns : List Run := readRuns markTable

/-- The classes of marks. -/
def markClassRuns : List (Nat × List Run) :=
  markClassTable.map fun (k, table) => (k, readRuns table)

/-- Whether a code point is a combining mark. -/
def isMark (n : Nat) : Bool := 0x300 ≤ n && covered markRuns n

/-- The class that orders a code point among marks; zero if it keeps its place. -/
def markClass (n : Nat) : Nat :=
  if n < 0x300 then 0
  else match markClassRuns.find? fun (_, runs) => covered runs n with
    | some (k, _) => k
    | none => 0

/-- The letters of a syllable of Hangul. -/
def lettersOfSyllable? (n : Nat) : Option (List Nat) :=
  if 0xAC00 ≤ n ∧ n ≤ 0xD7A3 then
    let index := n - 0xAC00
    let base := [0x1100 + index / 588, 0x1161 + index % 588 / 28]
    some (if index % 28 = 0 then base else base ++ [0x11A7 + index % 28])
  else none

/-- The syllable of Hangul that two or three letters make. -/
def syllableOfLetters? : List Nat → Option Nat
  | lead :: vowel :: tail =>
    if 0x1100 ≤ lead ∧ lead ≤ 0x1112 ∧ 0x1161 ≤ vowel ∧ vowel ≤ 0x1175 then
      let base := 0xAC00 + (lead - 0x1100) * 588 + (vowel - 0x1161) * 28
      match tail with
      | [] => some base
      | [last] => if 0x11A8 ≤ last ∧ last ≤ 0x11C2 then some (base + (last - 0x11A7)) else none
      | _ => none
    else none
  | _ => none

/-- What a code point stands for. -/
def decompose (n : Nat) : List Nat :=
  if n < 0xC0 then [n]
  else match composedRuns.find? (·.first == n) with
    | some run => run.image
    | none => (lettersOfSyllable? n).getD [n]

/-- The character that stands for a letter and marks. -/
def composed? (parts : List Nat) : Option Nat :=
  match composedRuns.find? (·.image == parts) with
  | some run => some run.first
  | none => syllableOfLetters? parts

/-- Puts a code point before ordered ones, behind the marks of lower class. -/
def place (n : Nat) : List Nat → List Nat
  | [] => [n]
  | m :: rest =>
    if 0 < markClass m ∧ markClass m < markClass n then m :: place n rest else n :: m :: rest

/-- Code points with the marks behind each letter in the order of their classes. -/
def order (ns : List Nat) : List Nat := ns.foldr place []

/-- A letter with the marks it has taken, and those it could not take, latest first. -/
structure Cluster where
  parts : List Nat
  marks : List Nat
deriving Repr, Inhabited

namespace Cluster

/-- The code points of a cluster. -/
def points (g : Cluster) : List Nat :=
  (match composed? g.parts with
    | some n => [n]
    | none => g.parts) ++ g.marks.reverse

/-- A cluster with one more code point; none if that begins the next cluster. A mark is kept away
from the letter by one of its own class or a higher one. -/
def take? (g : Cluster) (n : Nat) : Option Cluster :=
  let kept := match g.marks with
    | [] => false
    | m :: _ => markClass n ≤ markClass m
  if !kept && (composed? (g.parts ++ [n])).isSome then some { g with parts := g.parts ++ [n] }
  else if markClass n = 0 then none
  else some { g with marks := n :: g.marks }

end Cluster

/-- Composes ordered code points behind an open cluster. -/
def gather (g : Cluster) : List Nat → List Nat
  | [] => g.points
  | n :: rest =>
    match g.take? n with
    | some g => gather g rest
    | none => g.points ++ gather ⟨[n], []⟩ rest

/-- The composed form of characters. -/
def compose (cs : List Char) : List Char :=
  match order (cs.flatMap fun c => decompose c.toNat) with
  | [] => []
  | n :: rest => (gather ⟨[n], []⟩ rest).map Char.ofNat

end Text
end ScriptHost
