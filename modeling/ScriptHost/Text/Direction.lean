import ScriptHost.Text.CodeRange
import ScriptHost.Text.Direction.Table

/-!
# Direction

A label in which letters of both directions meet could be shown in several ways. A name that has any
letter written from right to left may only have labels that keep a rule which excludes that.

## Main definitions

* `Text.Direction` — the direction classes; `Text.direction` — that of a character.
* `Text.Direction.turns` — the classes that make the rule apply.
* `Text.keepsDirection` — the rule, for the characters of one label.

## Design notes

The first character fixes the direction of a label. No letter of the other direction may follow, the
label ends with a letter or a number, marks apart, and a label from right to left does not mix the
two kinds of numbers.
-/

namespace ScriptHost
namespace Text

/-- How a character takes part in the direction of a text. -/
inductive Direction where
  | leftToRight
  | rightToLeft
  | arabic
  | arabicNumber
  | europeanNumber
  | europeanSeparator
  | europeanTerminator
  | commonSeparator
  | nonspacing
  | boundary
  | neutral
deriving DecidableEq, Repr, Inhabited

namespace Direction

/-- The tables of all classes but the first. -/
def table : List (Direction × List Run) :=
  [(.rightToLeft, readRuns rightTable), (.arabic, readRuns arabicTable),
   (.arabicNumber, readRuns arabicNumberTable), (.europeanNumber, readRuns europeanNumberTable),
   (.europeanSeparator, readRuns europeanSeparatorTable),
   (.europeanTerminator, readRuns europeanTerminatorTable),
   (.commonSeparator, readRuns commonSeparatorTable), (.nonspacing, readRuns nonspacingTable),
   (.boundary, readRuns boundaryTable), (.neutral, readRuns neutralTable)]

/-- Whether a class makes the rule apply to a whole name. -/
def turns : Direction → Bool
  | .rightToLeft | .arabic | .arabicNumber => true
  | _ => false

/-- Whether a label from left to right may end with a class. -/
def endsLeftToRight : Direction → Bool
  | .leftToRight | .europeanNumber => true
  | _ => false

/-- Whether a label from right to left may end with a class. -/
def endsRightToLeft : Direction → Bool
  | .rightToLeft | .arabic | .europeanNumber | .arabicNumber => true
  | _ => false

/-- The rule, for the classes of one label. -/
def keepsRule (ds : List Direction) : Bool :=
  let last := (ds.reverse.dropWhile (· == .nonspacing)).head?
  match ds with
  | [] => true
  | .leftToRight :: _ => ds.all (!·.turns) && last.any endsLeftToRight
  | .rightToLeft :: _ | .arabic :: _ =>
    !ds.contains .leftToRight && last.any endsRightToLeft &&
      !(ds.contains .europeanNumber && ds.contains .arabicNumber)
  | _ => false

end Direction

/-- The direction class of a character. -/
def direction (c : Char) : Direction :=
  match Direction.table.find? fun (_, runs) => covered runs c.toNat with
  | some (d, _) => d
  | none => .leftToRight

/-- Whether the characters of a label keep the rule of direction. -/
def keepsDirection (label : List Char) : Bool := Direction.keepsRule (label.map direction)

end Text
end ScriptHost
