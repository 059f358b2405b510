import ScriptHost.Text.Compose
import ScriptHost.Text.Direction
import ScriptHost.Text.Joining
import ScriptHost.Text.Punycode
import ScriptHost.Url.DomainName.Table

/-!
# Domain names

A name of any characters is brought into the form of ASCII letters that the name system knows. Each
label between dots is normalized, checked, and encoded if it is not ASCII already.

## Main definitions

* `DomainName.isForbidden` — ASCII characters that no name has.
* `DomainName.normalize?` — characters replaced, unless one is refused, and composed.
* `DomainName.label?` — the characters that a normalized label shows, if it is a label.
* `DomainName.toAscii?` — the ASCII form of a whole name.

## Design notes

A label that begins with `xn--` is an encoded one and has to encode a normalized text beyond ASCII.
Empty labels, hyphens at any place and labels of any length are let through; what a connection makes
of them is not decided here. A name of ASCII characters without encoded labels is only brought into
lower case, so the tables are not needed for it.
-/

namespace ScriptHost
namespace Url
namespace DomainName

/-- The characters that are replaced. -/
def replacementRuns : List Text.Run := Text.readRuns replacementTable

/-- The characters that are refused. -/
def refusedRuns : List Text.Run := Text.readRuns refusedTable

/-- An ASCII character that no name has. -/
def isForbidden (c : Char) : Bool :=
  c.toNat ≤ 32 || c.toNat == 127 ||
    ['%', '#', '/', ':', '<', '>', '?', '@', '[', '\\', ']', '^', '|'].contains c

/-- What a character of a name is replaced by. -/
def replace? (c : Char) : Option (List Char) :=
  if c.toNat < 128 then some [c.toLower]
  else if Text.covered refusedRuns c.toNat then none
  else some (Text.mapThrough replacementRuns c)

/-- Characters replaced and composed. -/
def normalize? (cs : List Char) : Option (List Char) :=
  (cs.mapM replace?).map fun replaced => Text.compose replaced.flatten

/-- What an encoded label begins with. -/
def mark : List Char := ['x', 'n', '-', '-']

/-- Whether all characters are ASCII. -/
def isAscii (cs : List Char) : Bool := cs.all (·.toNat < 128)

/-- The text of an encoded label, without its mark. -/
def decoded? (form : List Char) : Option (List Char) := do
  let text ← Text.Punycode.decode? form
  if !isAscii text && normalize? text == some text then some text else none

/-- The characters that a normalized label shows. -/
def label? (label : List Char) : Option (List Char) := do
  let shown ← if mark.isPrefixOf label then decoded? (label.drop mark.length) else some label
  let startsWithMark := shown.head?.any fun c => Text.isMark c.toNat
  if startsWithMark || shown.any isForbidden || !Text.joinersFit shown then none else some shown

/-- The ASCII form of a label that shows characters. -/
def ascii? (shown : List Char) : Option (List Char) :=
  if isAscii shown then some shown else (Text.Punycode.encode? shown).map (mark ++ ·)

/-- The ASCII form of a name by way of the tables. -/
def encode? (name : List Char) : Option (List Char) := do
  let labels ← ((← normalize? name).splitOn '.').mapM label?
  let turns := labels.any (·.any fun c => (Text.direction c).turns)
  if turns && !labels.all Text.keepsDirection then none
  else return ['.'].intercalate (← labels.mapM ascii?)

/-- Whether a name is ASCII and has no encoded labels. -/
def isPlain (name : List Char) : Bool :=
  isAscii name && !(name.splitOn '.').any fun label => mark.isPrefixOf (label.map Char.toLower)

/-- The ASCII form of a name. -/
def toAscii? (name : List Char) : Option (List Char) :=
  if isPlain name then
    if name.any isForbidden then none else some (name.map Char.toLower)
  else encode? name

end DomainName
end Url
end ScriptHost
