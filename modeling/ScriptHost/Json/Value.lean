/-!
# JSON values and their compact text

`Json.Value` is the value type for everything that scripts, events and requests hand to each other.
A number keeps the parts of its written form, so that writing a value that was read gives the same
number again, whatever its size.

## Main definitions

* `Json.Number` — sign, whole part, fraction digits and exponent of a written number.
* `Json.Value` — null, truth values, numbers, texts, arrays and objects in member order.
* `Json.Value.render` — the text without any space, members in the order they have.
* `Json.quote` — a text between quotation marks.

## Design notes

The whole part of a number has no leading zero, so a natural number loses nothing. The fraction is a
list of digits because its zeros count. Characters beyond ASCII and the character 0x7F are written
as they are; only the quotation mark, the backslash and the controls below the space are escaped.
-/

namespace ScriptHost
namespace Json

/-- The parts of a written number. -/
structure Number where
  negative : Bool
  whole : Nat
  /-- The digits behind the point; no point is written if there are none. -/
  fraction : List Nat
  exponent : Option Int
deriving DecidableEq, Repr, Inhabited

namespace Number

/-- A natural number as a JSON number. -/
def ofNat (n : Nat) : Number := ⟨false, n, [], none⟩

/-- Written with neither a point nor an exponent. -/
def isIntegral (n : Number) : Bool := n.fraction.isEmpty && n.exponent.isNone

/-- The natural number that is written, if one is: no sign, no point, no exponent. -/
def natural? (n : Number) : Option Nat :=
  if n.isIntegral && !n.negative then some n.whole else none

/-- The exponent has its sign and at least two digits. -/
def renderExponent (e : Int) : String :=
  let digits := toString e.natAbs
  let padded := if digits.length < 2 then "0" ++ digits else digits
  (if e < 0 then "e-" else "e+") ++ padded

/-- The text of a number. -/
def render (n : Number) : String :=
  (if n.negative then "-" else "") ++ toString n.whole
    ++ (if n.fraction.isEmpty then "" else "." ++ String.join (n.fraction.map toString))
    ++ (match n.exponent with | none => "" | some e => renderExponent e)

end Number

/-- A JSON value; an object keeps the order of its members. -/
inductive Value where
  | null
  | bool (b : Bool)
  | number (n : Number)
  | text (s : String)
  | array (items : List Value)
  | object (members : List (String × Value))
deriving Repr, Inhabited

/-- Four hexadecimal digits in lower case. -/
def hexUnit (n : Nat) : String :=
  let digit := fun k => (Nat.digitChar (n / Nat.pow 16 k % 16)).toString
  digit 3 ++ digit 2 ++ digit 1 ++ digit 0

/-- How one character is written inside quotation marks. -/
def escapeChar (c : Char) : String :=
  if c = '"' then "\\\""
  else if c = '\\' then "\\\\"
  else if c = '\x08' then "\\b"
  else if c = '\x0c' then "\\f"
  else if c = '\n' then "\\n"
  else if c = '\r' then "\\r"
  else if c = '\t' then "\\t"
  else if c.toNat < 0x20 then "\\u" ++ hexUnit c.toNat
  else c.toString

/-- A text between quotation marks, with its special characters escaped. -/
def quote (s : String) : String :=
  "\"" ++ String.join (s.toList.map escapeChar) ++ "\""

mutual

/-- The compact text of a value. -/
def Value.render : Value → String
  | .null => "null"
  | .bool true => "true"
  | .bool false => "false"
  | .number n => n.render
  | .text s => quote s
  | .array items => "[" ++ ",".intercalate (renderItems items) ++ "]"
  | .object members => "\x7b" ++ ",".intercalate (renderMembers members) ++ "\x7d"

/-- The texts of the items of an array. -/
def renderItems : List Value → List String
  | [] => []
  | v :: rest => v.render :: renderItems rest

/-- The texts of the members of an object. -/
def renderMembers : List (String × Value) → List String
  | [] => []
  | (name, v) :: rest => (quote name ++ ":" ++ v.render) :: renderMembers rest

end

namespace Value

/-- A natural number as a value. -/
def ofNat (n : Nat) : Value := .number (.ofNat n)

/-- A text, or null where there is none. -/
def ofText? : Option String → Value
  | none => .null
  | some s => .text s

/-- The last member of that name, if the value is an object that has one. -/
def member? (v : Value) (name : String) : Option Value :=
  match v with
  | .object members => (members.reverse.find? (·.1 == name)).map (·.2)
  | _ => none

end Value

end Json
end ScriptHost
