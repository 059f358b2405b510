/-!
# Percent escapes

Characters that an address cannot hold are written as the bytes of their UTF-8 form, each as a
percent sign and two hexadecimal digits.

## Main definitions

* `Percent.hexValue?`, `Percent.hexDigit` — digits and their values.
* `Percent.encode` — escapes the characters that a set has, and all beyond ASCII.
* `Percent.decode?` — undoes every escape, if the bytes are a text.
* `Percent.controls` and the sets behind it — what is escaped in the parts of an address.
-/

namespace ScriptHost
namespace Url
namespace Percent

/-- The value of a hexadecimal digit of either case. -/
def hexValue? (c : Char) : Option Nat :=
  if '0' ≤ c ∧ c ≤ '9' then some (c.toNat - 48)
  else if 'A' ≤ c ∧ c ≤ 'F' then some (c.toNat - 55)
  else if 'a' ≤ c ∧ c ≤ 'f' then some (c.toNat - 87)
  else none

/-- The hexadecimal digit of a value below 16, in upper case. -/
def hexDigit (n : Nat) : Char := if n < 10 then Char.ofNat (48 + n) else Char.ofNat (55 + n)

/-- A byte as an escape. -/
def escape (b : UInt8) : List Char := ['%', hexDigit (b.toNat / 16), hexDigit (b.toNat % 16)]

/-- A character, escaped if a set has it or it is beyond ASCII. -/
def encodeChar (escaped : Char → Bool) (c : Char) : List Char :=
  if 128 ≤ c.toNat || escaped c then (String.utf8EncodeChar c).flatMap escape else [c]

/-- Characters with those escaped that a set has, and all beyond ASCII. -/
def encode (escaped : Char → Bool) (cs : List Char) : List Char := cs.flatMap (encodeChar escaped)

/-- The bytes of characters in which escapes are undone. A percent sign without two digits behind it
stands for itself. -/
def bytes : List Char → List UInt8
  | [] => []
  | c :: rest =>
    if c = '%' then
      match rest with
      | high :: low :: behind =>
        match hexValue? high, hexValue? low with
        | some h, some l => UInt8.ofNat (h * 16 + l) :: bytes behind
        | _, _ => 37 :: bytes (high :: low :: behind)
      | rest => 37 :: bytes rest
    else String.utf8EncodeChar c ++ bytes rest
termination_by cs => cs.length

/-- Characters with all escapes undone, if that makes a text. -/
def decode? (cs : List Char) : Option (List Char) :=
  if cs.contains '%' then (String.fromUTF8? ⟨(bytes cs).toArray⟩).map String.toList else some cs

/-- Control characters. -/
def controls (c : Char) : Bool := c.toNat < 32 || c.toNat == 127

/-- What is escaped in a query. -/
def inQuery (c : Char) : Bool := controls c || [' ', '"', '#', '<', '>'].contains c

/-- What is escaped in the query of a scheme of the web. -/
def inWebQuery (c : Char) : Bool := inQuery c || c == '\''

/-- What is escaped in a fragment. -/
def inFragment (c : Char) : Bool := controls c || [' ', '"', '<', '>', '`'].contains c

/-- What is escaped in a path. -/
def inPath (c : Char) : Bool := inFragment c || ['#', '?', '{', '}'].contains c

/-- What is escaped in a user name and a password. -/
def inUser (c : Char) : Bool :=
  inPath c || ['/', ':', ';', '=', '@', '[', '\\', ']', '^', '|'].contains c

end Percent
end Url
end ScriptHost
