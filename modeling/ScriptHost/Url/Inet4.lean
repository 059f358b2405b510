import ScriptHost.Url.Percent

/-!
# Addresses of four bytes

## Main definitions

* `Inet4.Number` — what a part of a dotted text writes; `Inet4.number?` reads one.
* `Inet4.endsInNumber` — whether a name has to be read as an address.
* `Inet4.read?`, `Inet4.text` — the address that a dotted text writes, and its normal form.

## Design notes

A part is decimal, octal behind a zero, or hexadecimal behind `0x`. Up to four parts are given; the
last one fills all bytes that the ones before it leave.
-/

namespace ScriptHost
namespace Url
namespace Inet4

/-- The value of digits in a base; none if a digit is not below it. -/
def digits? (base : Nat) (cs : List Char) : Option Nat :=
  cs.foldlM (fun n c => do
    let d ← Percent.hexValue? c
    if d < base then some (n * base + d) else none) 0

/-- The number that a part writes. A mark for the base without digits behind it is zero. -/
def number? : List Char → Option Nat
  | [] => none
  | '0' :: 'x' :: rest | '0' :: 'X' :: rest => digits? 16 rest
  | '0' :: rest => digits? 8 rest
  | cs => digits? 10 cs

/-- The parts between dots; an empty one at the end does not count. -/
def parts (name : List Char) : List (List Char) :=
  let all := name.splitOn '.'
  if all.getLast? = some [] then all.dropLast else all

/-- Whether the last part of a name is a number, so that the name is an address or nothing. -/
def endsInNumber (name : List Char) : Bool :=
  match (parts name).getLast? with
  | some last => !last.isEmpty && (last.all Char.isDigit || (number? last).isSome)
  | none => false

/-- The value of the last part behind bytes, as long as it fits into what they leave. -/
def join? : List Nat → Option Nat
  | [] => none
  | ns =>
    let bytes := ns.dropLast
    let last := ns.getLastD 0
    if 4 ≤ bytes.length || bytes.any (255 < ·) || Nat.pow 256 (4 - bytes.length) ≤ last then none
    else some (bytes.foldl (· * 256 + ·) 0 * Nat.pow 256 (4 - bytes.length) + last)

/-- The address that a dotted text writes. -/
def read? (name : List Char) : Option Nat := do join? (← (parts name).mapM number?)

/-- An address as four decimal bytes. -/
def text (n : Nat) : String :=
  ".".intercalate ([n / 16777216 % 256, n / 65536 % 256, n / 256 % 256, n % 256].map toString)

end Inet4
end Url
end ScriptHost
