import ScriptHost.Text.Compose
import ScriptHost.Text.Joining.Table

/-!
# Joiners

Two invisible characters ask for a letter to be joined to its neighbour or kept from it. They are
meaningful behind a mark that binds consonants, and the one that separates also between letters that
would join without it.

## Main definitions

* `Text.joinersFit` — whether every joiner among characters is meaningful.
-/

namespace ScriptHost
namespace Text

/-- Letters that join on both sides. -/
def joinsBothRuns : List Run := readRuns joinsBothTable

/-- Letters that join on the left only. -/
def joinsLeftRuns : List Run := readRuns joinsLeftTable

/-- Letters that join on the right only. -/
def joinsRightRuns : List Run := readRuns joinsRightTable

/-- Characters that letters join across. -/
def seenThroughRuns : List Run := readRuns seenThroughTable

/-- The first of characters that letters do not join across. -/
def nextJoining? (cs : List Char) : Option Nat :=
  (cs.dropWhile fun c => covered seenThroughRuns c.toNat).head?.map Char.toNat

/-- Whether a character is meaningful between those before it, nearest first, and those behind it,
if it is a joiner. -/
def joinerFits (before : List Char) (c : Char) (behind : List Char) : Bool :=
  let bound := before.head?.any fun d => markClass d.toNat == 9
  if c = '\u200D' then bound
  else if c = '\u200C' then
    bound ||
      ((nextJoining? before).any fun n => covered joinsLeftRuns n || covered joinsBothRuns n) &&
      ((nextJoining? behind).any fun n => covered joinsRightRuns n || covered joinsBothRuns n)
  else true

/-- Whether every joiner fits among characters that follow others, nearest first. -/
def joinersFitAfter (before : List Char) : List Char → Bool
  | [] => true
  | c :: rest => joinerFits before c rest && joinersFitAfter (c :: before) rest

/-- Whether every joiner among characters is meaningful. -/
def joinersFit (cs : List Char) : Bool := joinersFitAfter [] cs

end Text
end ScriptHost
