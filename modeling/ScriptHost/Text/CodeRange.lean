/-!
# Tables of code points

Properties and mappings of characters are written as lines of hexadecimal entries separated by
spaces, and turned into lists of runs.

## Main definitions

* `Text.Run` — the code points from a first to a last one in steps, and what they map to.
* `Text.Run.image?` — where a run sends a code point.
* `Text.covered`, `Text.mapThrough` — whether a table has a code point, and what it sends one to.
* `Text.readRuns` — the runs that the lines of a table write.

## Design notes

An entry is `first-last/step>image`; the last point, the step and the image may be left out. An
image of one code point moves along with the run, one of several, joined by `+`, is the same for all
of it, and one written `-` is empty.
-/

namespace ScriptHost
namespace Text

/-- A run of code points and its image. -/
structure Run where
  first : Nat
  last : Nat
  step : Nat
  image : List Nat
deriving Repr, Inhabited

namespace Run

/-- Whether a code point belongs to a run. -/
def covers (r : Run) (n : Nat) : Bool :=
  r.first ≤ n && n ≤ r.last && (n - r.first) % r.step == 0

/-- Where a run sends a code point, if it covers it. -/
def image? (r : Run) (n : Nat) : Option (List Nat) :=
  if r.covers n then
    match r.image with
    | [target] => some [target + (n - r.first)]
    | image => some image
  else none

end Run

/-- Whether a table has a code point. -/
def covered (runs : List Run) (n : Nat) : Bool := runs.any (·.covers n)

/-- What a table sends a character to; itself if the table does not have it. -/
def mapThrough (runs : List Run) (c : Char) : List Char :=
  match runs.findSome? (·.image? c.toNat) with
  | some image => image.map Char.ofNat
  | none => [c]

/-- The number that hexadecimal digits write. -/
def readHex (digits : List Char) : Nat :=
  digits.foldl (fun n c =>
    n * 16 + (if c.isDigit then c.toNat - '0'.toNat else c.toNat - 'A'.toNat + 10)) 0

/-- A list of code points joined by `+`. -/
def readImage (image : List Char) : List Nat :=
  if image == ['-'] then [] else (image.splitOn '+').map readHex

/-- One entry of a table. -/
def readRun (entry : List Char) : Run :=
  let (points, image) := match entry.splitOn '>' with
    | [points, image] => (points, readImage image)
    | _ => (entry, [])
  let (range, step) := match points.splitOn '/' with
    | [range, step] => (range, readHex step)
    | _ => (points, 1)
  match range.splitOn '-' with
  | [first, last] => ⟨readHex first, readHex last, step, image⟩
  | _ => ⟨readHex range, readHex range, step, image⟩

/-- The runs of a table, line by line. -/
def readRuns (table : List String) : List Run :=
  (table.map String.toList).flatMap fun line => (line.splitOn ' ').map readRun

end Text
end ScriptHost
