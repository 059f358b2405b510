import ScriptHost.Text.CodeRange
import ScriptHost.Text.Case.Table

/-!
# Letter case

The full case mappings of Unicode for whole texts, independent of language. A letter may become
several, and a capital sigma at the end of a word becomes a final one.

## Main definitions

* `Text.uppercase`, `Text.lowercase` — the mappings on texts.
* `Text.upperChar` — the upper case of one character; `Text.lowerAt` — the lower case of one
  between its neighbours.

## Design notes

Letters of ASCII are mapped directly and only other characters are looked up. A word ends behind a
sigma if a letter with case comes before it and none after it, where ignorable characters such as
accents and apostrophes do not count.
-/

namespace ScriptHost
namespace Text

/-- The runs of the lower case table. -/
def lowerRuns : List Run := readRuns lowerTable

/-- The runs of the upper case table. -/
def upperRuns : List Run := readRuns upperTable

/-- The runs of letters with case. -/
def casedRuns : List Run := readRuns casedTable

/-- The runs of characters that a word is looked through. -/
def ignorableRuns : List Run := readRuns ignorableTable

/-- The upper case of a character. -/
def upperChar (c : Char) : List Char :=
  if c.toNat < 128 then [c.toUpper] else mapThrough upperRuns c

/-- Whether characters, read away from a sigma, show a letter with case behind ignorable ones. -/
def showsCased (cs : List Char) : Bool :=
  match (cs.dropWhile fun c => covered ignorableRuns c.toNat).head? with
  | some c => covered casedRuns c.toNat
  | none => false

/-- The lower case of a character between those before it, nearest first, and those behind it. -/
def lowerAt (before : List Char) (c : Char) (behind : List Char) : List Char :=
  if c.toNat < 128 then [c.toLower]
  else if c = 'Σ' then
    if showsCased before && !showsCased behind then ['ς'] else ['σ']
  else mapThrough lowerRuns c

/-- The lower case of characters behind those before them, nearest first. -/
def lowerChars (before : List Char) : List Char → List Char
  | [] => []
  | c :: rest => lowerAt before c rest ++ lowerChars (c :: before) rest

/-- A text in upper case. -/
def uppercase (s : String) : String := String.ofList (s.toList.flatMap upperChar)

/-- A text in lower case. -/
def lowercase (s : String) : String := String.ofList (lowerChars [] s.toList)

end Text
end ScriptHost
