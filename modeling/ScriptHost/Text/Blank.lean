/-!
# White space

## Main definitions

* `Text.isBlank` — the characters with the Unicode property White_Space.
* `Text.trim` — a text without white space at its ends.
* `Text.isAllBlank` — nothing but white space, or nothing at all.
-/

namespace ScriptHost
namespace Text

/-- The characters with the property White_Space. -/
def isBlank (c : Char) : Bool :=
  let n := c.toNat
  (0x09 ≤ n && n ≤ 0x0D) || n == 0x20 || n == 0x85 || n == 0xA0 || n == 0x1680
    || (0x2000 ≤ n && n ≤ 0x200A) || n == 0x2028 || n == 0x2029 || n == 0x202F || n == 0x205F
    || n == 0x3000

/-- Characters without white space at either end. -/
def trimChars (cs : List Char) : List Char :=
  ((cs.dropWhile isBlank).reverse.dropWhile isBlank).reverse

/-- A text without white space at either end. -/
def trim (s : String) : String := String.ofList (trimChars s.toList)

/-- Whether a text holds nothing but white space. -/
def isAllBlank (s : String) : Bool := s.toList.all isBlank

end Text
end ScriptHost
