import ScriptHost.Url.Percent

/-!
# Addresses of eight groups

## Main definitions

* `Inet6.groups?` — groups between colons.
* `Inet6.read?` — the eight groups that a text writes, one run of zeros being left out between two
  colons.
* `Inet6.text` — the normal form, with the first of the longest runs of zeros left out.

## Design notes

The last two groups may be written as four decimal bytes. A run that is left out stands for at least
one group when read, and for at least two when written.
-/

namespace ScriptHost
namespace Url
namespace Inet6

/-- The group that one to four hexadecimal digits write. -/
def group? (cs : List Char) : Option Nat :=
  if cs.isEmpty || 4 < cs.length then none
  else cs.foldlM (fun n c => (Percent.hexValue? c).map (n * 16 + ·)) 0

/-- The byte that decimal digits write, without a zero in front. -/
def byte? (cs : List Char) : Option Nat :=
  if cs.isEmpty || 3 < cs.length || !cs.all Char.isDigit || (cs.head? == some '0' && 1 < cs.length)
  then none
  else
    let n := cs.foldl (fun n c => n * 10 + (c.toNat - 48)) 0
    if n < 256 then some n else none

/-- The two groups that four bytes between dots write. -/
def dotted? (cs : List Char) : Option (List Nat) :=
  match (cs.splitOn '.').mapM byte? with
  | some [a, b, c, d] => some [a * 256 + b, c * 256 + d]
  | _ => none

/-- The groups of pieces between colons, of which the last may be four bytes where that is allowed.
-/
def piecesGroups? (mayEndDotted : Bool) : List (List Char) → Option (List Nat)
  | [] => some []
  | [last] =>
    match group? last with
    | some g => some [g]
    | none => if mayEndDotted then dotted? last else none
  | piece :: rest => do
    let g ← group? piece
    return g :: (← piecesGroups? mayEndDotted rest)

/-- The groups between colons, none for the empty text. -/
def groups? (mayEndDotted : Bool) (cs : List Char) : Option (List Nat) :=
  if cs.isEmpty then some [] else piecesGroups? mayEndDotted (cs.splitOn ':')

/-- Splits a text at its first pair of colons. -/
def splitGap : List Char → Option (List Char × List Char)
  | ':' :: ':' :: rest => some ([], rest)
  | c :: rest => (splitGap rest).map fun (front, back) => (c :: front, back)
  | [] => none

/-- The eight groups that a text writes. -/
def read? (cs : List Char) : Option (List Nat) := do
  match splitGap cs with
  | none =>
    let gs ← groups? true cs
    if gs.length = 8 then some gs else none
  | some (front, back) =>
    let front ← groups? false front
    let back ← groups? true back
    if front.length + back.length < 8 then
      some (front ++ List.replicate (8 - front.length - back.length) 0 ++ back)
    else none

/-- The length of the run of zeros that groups begin with. -/
def zeros (gs : List Nat) : Nat := (gs.takeWhile (· == 0)).length

/-- The length of the longest run of zeros. -/
def longest : List Nat → Nat
  | [] => 0
  | g :: rest => max (zeros (g :: rest)) (longest rest)

/-- A group in hexadecimal digits. -/
def groupText (g : Nat) : String := String.ofList (Nat.toDigits 16 g)

/-- Groups between colons. -/
def groupsText (gs : List Nat) : String := ":".intercalate (gs.map groupText)

/-- The groups in front of the first run of zeros of a length, and those behind it. -/
def splitRun (length : Nat) : List Nat → List Nat × List Nat
  | [] => ([], [])
  | g :: rest =>
    if zeros (g :: rest) = length then ([], (g :: rest).drop length)
    else
      let (front, back) := splitRun length rest
      (g :: front, back)

/-- An address in brackets. -/
def text (gs : List Nat) : String :=
  let run := longest gs
  if run < 2 then "[" ++ groupsText gs ++ "]"
  else
    let (front, back) := splitRun run gs
    "[" ++ groupsText front ++ "::" ++ groupsText back ++ "]"

end Inet6
end Url
end ScriptHost
