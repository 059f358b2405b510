import ScriptHost.Json.Value
import ScriptHost.Number.Binary

/-!
# Reading JSON text

A reader takes a value off the front of a text, from left to right, and stops at the first fault.
Faults are told apart by cause: the text ends too early, it breaks the grammar, or it is well formed
but not what is wanted. Which of two faults is reported depends only on which comes first.

## Main definitions

* `Json.Fault` — the three causes.
* `Json.Reader` — a reader of values of some type.
* `Json.value` — any JSON value; `Json.skip` passes over one without looking into its texts.
* `Json.document` — a reader applied to a whole text, with only blanks behind the value.
* `Json.string`, `Json.natural`, `Json.flag`, `Json.null`, `Json.nullable` — values of a wanted
  type.

## Design notes

Values nest, so `value` takes a bound on the depth and the length of what it reads; `document` uses
the length of the text, which no reading can exceed. A strict reading decodes every text and refuses
a number too large for binary64. A lax one, used to pass over a member nobody asked for, does
neither, and it counts a number that breaks off at the end of the text as malformed.
-/

namespace ScriptHost
namespace Json

/-- Why a text could not be read. -/
inductive Fault where
  /-- The text ends inside a value. -/
  | truncated
  /-- The text breaks the grammar. -/
  | malformed
  /-- A well-formed value of the wrong kind, out of range, missing or given twice. -/
  | mismatched
deriving DecidableEq, Repr, Inhabited

/-- A reader takes a value off the front of a text. -/
abbrev Reader (α : Type) := StateT (List Char) (Except Fault) α

/-- Refuses for a cause. -/
def refuse {α : Type} (fault : Fault) : Reader α := fun _ => .error fault

/-- The blanks of the grammar: space, tab, line feed and carriage return. -/
def isBlank (c : Char) : Bool := c == ' ' || c == '\n' || c == '\t' || c == '\r'

/-- A decimal digit. -/
def isDigit (c : Char) : Bool := '0' ≤ c && c ≤ '9'

/-- The first character behind any blanks, which stays in place. -/
def peek? : Reader (Option Char) := fun cs =>
  let rest := cs.dropWhile isBlank
  .ok (rest.head?, rest)

/-- Passes over one character. -/
def advance : Reader Unit := fun cs => .ok ((), cs.tail)

/-- The next character, blanks included; the text must not end here. -/
def next : Reader Char
  | [] => .error .truncated
  | c :: rest => .ok (c, rest)

/-- The rest of a word whose first letter has been read. -/
def word : List Char → Reader Unit
  | [] => pure ()
  | c :: cs => do
    let found ← next
    if found = c then word cs else refuse .malformed

/-- The value of a decimal digit. -/
def digitValue (c : Char) : Nat := c.toNat - '0'.toNat

/-- As many decimal digits as follow. -/
def digits : Reader (List Nat) := fun cs =>
  .ok ((cs.takeWhile isDigit).map digitValue, cs.dropWhile isDigit)

/-- The number that a list of decimal digits writes. -/
def ofDigits (ds : List Nat) : Nat := ds.foldl (fun n d => 10 * n + d) 0

/-! ## Numbers -/

/-- The fault of a number that goes on with no digit where one is needed. -/
def missingDigit {α : Type} (strict : Bool) : Reader α := fun cs =>
  if strict && cs.isEmpty then .error .truncated else .error .malformed

/-- The digits behind a point, at least one. -/
def fractionPart (strict : Bool) : Reader (List Nat) := fun cs =>
  match cs with
  | '.' :: rest =>
    match digits rest with
    | .ok ([], rest) => missingDigit strict rest
    | result => result
  | _ => .ok ([], cs)

/-- An exponent, if one follows. -/
def exponentPart (strict : Bool) : Reader (Option Int) := fun cs =>
  let signed (negative : Bool) (rest : List Char) : Except Fault (Option Int × List Char) :=
    match digits rest with
    | .ok ([], rest) => missingDigit strict rest
    | .ok (ds, rest) =>
      .ok (some (if negative then -(ofDigits ds : Int) else ofDigits ds), rest)
    | .error fault => .error fault
  match cs with
  | c :: rest =>
    if c = 'e' || c = 'E' then
      match rest with
      | '-' :: rest => signed true rest
      | '+' :: rest => signed false rest
      | _ => signed false rest
    else .ok (none, cs)
  | [] => .ok (none, [])

/-- The whole part of a number: a single zero, or digits that start with no zero. -/
def wholePart (strict : Bool) : Reader Nat := fun cs =>
  match digits cs with
  | .ok ([], rest) => missingDigit strict rest
  | .ok ([0], rest) => .ok (0, rest)
  | .ok (0 :: _, _) => .error .malformed
  | .ok (ds, rest) => .ok (ofDigits ds, rest)
  | .error fault => .error fault

/-- The binary64 significand that a number is read through: as many leading digits as fit 64 bits,
with the power of ten that the digits left out and the point account for. -/
def Number.significand (n : Number) : Nat × Int :=
  let push (state : Nat × Int × Bool) (d : Nat) (behindPoint : Bool) : Nat × Int × Bool :=
    let (sig, scale, full) := state
    if full || sig * 10 + d ≥ Nat.pow 2 64 then
      (sig, if behindPoint then scale else scale + 1, true)
    else (sig * 10 + d, if behindPoint then scale - 1 else scale, false)
  let wholeDigits := (Nat.toDigits 10 n.whole).map digitValue
  let afterWhole := wholeDigits.foldl (fun st d => push st d false) (0, 0, false)
  let (sig, scale, _) := n.fraction.foldl (fun st d => push st d true)
    (afterWhole.1, afterWhole.2.1, false)
  (sig, scale + n.exponent.getD 0)

/-- The magnitude of a number in binary64, or nothing if it is too large. -/
def Number.double? (n : Number) : Option Binary.Magnitude :=
  let (sig, scale) := n.significand
  Binary.ofScaled sig scale

/-- A number, its sign included. A strict reading refuses what binary64 cannot hold. -/
def number (strict : Bool) : Reader Number := do
  let negative ← fun cs =>
    match cs with
    | '-' :: rest => .ok (true, rest)
    | _ => .ok (false, cs)
  let whole ← wholePart strict
  let fraction ← fractionPart strict
  let exponent ← exponentPart strict
  let n : Number := ⟨negative, whole, fraction, exponent⟩
  if strict && n.double?.isNone then refuse .malformed else pure n

/-! ## Texts -/

/-- The value of a hexadecimal digit. -/
def hexValue? (c : Char) : Option Nat :=
  if isDigit c then some (digitValue c)
  else if 'a' ≤ c && c ≤ 'f' then some (c.toNat - 'a'.toNat + 10)
  else if 'A' ≤ c && c ≤ 'F' then some (c.toNat - 'A'.toNat + 10)
  else none

/-- Four hexadecimal digits. They are looked for in four bytes, so that a text with fewer bytes left
is truncated whatever they are. -/
def codeUnit : Reader Nat := fun cs =>
  match cs with
  | a :: b :: c :: d :: rest =>
    match hexValue? a, hexValue? b, hexValue? c, hexValue? d with
    | some a, some b, some c, some d => .ok (((a * 16 + b) * 16 + c) * 16 + d, rest)
    | _, _, _, _ => .error .malformed
  | _ => if (String.ofList cs).utf8ByteSize < 4 then .error .truncated else .error .malformed

/-- The second half of a surrogate pair, escape included. -/
def trailingUnit : Reader Nat := do
  let slash ← next
  if slash ≠ '\\' then refuse .malformed
  let mark ← next
  if mark ≠ 'u' then refuse .malformed
  let unit ← codeUnit
  if 0xDC00 ≤ unit && unit ≤ 0xDFFF then pure unit else refuse .malformed

/-- A character given by its code. A strict reading wants surrogates in pairs. -/
def unicodeEscape (strict : Bool) : Reader Char := do
  let unit ← codeUnit
  if !strict then pure (Char.ofNat unit)
  else if 0xDC00 ≤ unit && unit ≤ 0xDFFF then refuse .malformed
  else if 0xD800 ≤ unit && unit ≤ 0xDBFF then
    let low ← trailingUnit
    pure (Char.ofNat (0x10000 + (unit - 0xD800) * 0x400 + (low - 0xDC00)))
  else pure (Char.ofNat unit)

/-- The character that an escape stands for; the backslash has been read. -/
def escape (strict : Bool) : Reader Char := do
  let c ← next
  match c with
  | '"' => pure '"'
  | '\\' => pure '\\'
  | '/' => pure '/'
  | 'b' => pure '\x08'
  | 'f' => pure '\x0c'
  | 'n' => pure '\n'
  | 'r' => pure '\r'
  | 't' => pure '\t'
  | 'u' => unicodeEscape strict
  | _ => refuse .malformed

/-- The characters up to the closing quotation mark, within a bound on their number. -/
def textChars (strict : Bool) : Nat → Reader (List Char)
  | 0 => refuse .truncated
  | bound + 1 => do
    let c ← next
    if c = '"' then pure []
    else if c = '\\' then
      let c ← escape strict
      let rest ← textChars strict bound
      pure (c :: rest)
    else if c.toNat < 0x20 then refuse .malformed
    else
      let rest ← textChars strict bound
      pure (c :: rest)

/-- A text whose opening quotation mark has been read. -/
def textBody (strict : Bool) : Reader String := fun cs =>
  match textChars strict (cs.length + 1) cs with
  | .ok (chars, rest) => .ok (String.ofList chars, rest)
  | .error fault => .error fault

/-! ## Any value -/

/-- A colon, behind any blanks. -/
def colon : Reader Unit := do
  match ← peek? with
  | some ':' => advance
  | some _ => refuse .malformed
  | none => refuse .truncated

/-- The name of a member; its opening quotation mark has to come next. -/
def memberName (strict : Bool) : Reader String := do
  match ← peek? with
  | some '"' =>
    advance
    textBody strict
  | some _ => refuse .malformed
  | none => refuse .truncated

mutual

/-- Any value, within a bound. -/
def valueWithin (strict : Bool) : Nat → Reader Value
  | 0 => refuse .truncated
  | bound + 1 => do
    match ← peek? with
    | none => refuse .truncated
    | some 'n' =>
      advance
      word ['u', 'l', 'l']
      pure .null
    | some 't' =>
      advance
      word ['r', 'u', 'e']
      pure (.bool true)
    | some 'f' =>
      advance
      word ['a', 'l', 's', 'e']
      pure (.bool false)
    | some '"' =>
      advance
      let s ← textBody strict
      pure (.text s)
    | some '[' =>
      advance
      match ← peek? with
      | some ']' =>
        advance
        pure (.array [])
      | none => refuse .truncated
      | some _ =>
        let items ← itemsWithin strict bound
        pure (.array items)
    | some '\x7b' =>
      advance
      match ← peek? with
      | some '\x7d' =>
        advance
        pure (.object [])
      | _ =>
        let members ← membersWithin strict bound
        pure (.object members)
    | some c =>
      if c = '-' || isDigit c then
        let n ← number strict
        pure (.number n)
      else refuse .malformed

/-- The items of an array, at least one, up to its closing bracket. -/
def itemsWithin (strict : Bool) : Nat → Reader (List Value)
  | 0 => refuse .truncated
  | bound + 1 => do
    let v ← valueWithin strict bound
    match ← peek? with
    | some ',' =>
      advance
      let rest ← itemsWithin strict bound
      pure (v :: rest)
    | some ']' =>
      advance
      pure [v]
    | some _ => refuse .malformed
    | none => refuse .truncated

/-- The members of an object, at least one, up to its closing brace. -/
def membersWithin (strict : Bool) : Nat → Reader (List (String × Value))
  | 0 => refuse .truncated
  | bound + 1 => do
    let name ← memberName strict
    colon
    let v ← valueWithin strict bound
    match ← peek? with
    | some ',' =>
      advance
      let rest ← membersWithin strict bound
      pure ((name, v) :: rest)
    | some '\x7d' =>
      advance
      pure [(name, v)]
    | some _ => refuse .malformed
    | none => refuse .truncated

end

/-- Any value, every text in it decoded. -/
def value : Reader Value := fun cs => valueWithin true (2 * cs.length + 1) cs

/-- Passes over any value. -/
def skip : Reader Unit := fun cs =>
  match valueWithin false (2 * cs.length + 1) cs with
  | .ok (_, rest) => .ok ((), rest)
  | .error fault => .error fault

/-- A reader applied to a whole text: only blanks may follow the value. -/
def document {α : Type} (reader : Reader α) (s : String) : Except Fault α := do
  let (a, rest) ← reader s.toList
  if (rest.dropWhile isBlank).isEmpty then .ok a else .error .malformed

/-! ## Values of a wanted type -/

/-- Refuses a value of the wrong type. A null, a truth value, a number or a text is read first, so
that a fault inside it is found; an array or an object is refused at its bracket. -/
def mismatch {α : Type} : Reader α := do
  match ← peek? with
  | some 'n' =>
    advance
    word ['u', 'l', 'l']
    refuse .mismatched
  | some 't' =>
    advance
    word ['r', 'u', 'e']
    refuse .mismatched
  | some 'f' =>
    advance
    word ['a', 'l', 's', 'e']
    refuse .mismatched
  | some '"' =>
    advance
    let _ ← textBody true
    refuse .mismatched
  | some '[' => refuse .mismatched
  | some '\x7b' => refuse .mismatched
  | some c =>
    if c = '-' || isDigit c then
      let _ ← number true
      refuse .mismatched
    else refuse .malformed
  | none => refuse .truncated

/-- A text. -/
def string : Reader String := do
  match ← peek? with
  | some '"' =>
    advance
    textBody true
  | _ => mismatch

/-- A truth value. -/
def flag : Reader Bool := do
  match ← peek? with
  | some 't' =>
    advance
    word ['r', 'u', 'e']
    pure true
  | some 'f' =>
    advance
    word ['a', 'l', 's', 'e']
    pure false
  | _ => mismatch

/-- Any number. -/
def anyNumber : Reader Number := do
  match ← peek? with
  | some c => if c = '-' || isDigit c then number true else mismatch
  | none => refuse .truncated

/-- A natural number below a limit. -/
def natural (limit : Nat) : Reader Nat := do
  let n ← anyNumber
  match n.natural? with
  | some k => if k < limit then pure k else refuse .mismatched
  | none => refuse .mismatched

/-- Null and nothing else. -/
def null : Reader Unit := do
  match ← peek? with
  | some 'n' =>
    advance
    word ['u', 'l', 'l']
  | _ => mismatch

/-- Null, or a value. -/
def nullable {α : Type} (reader : Reader α) : Reader (Option α) := do
  match ← peek? with
  | some 'n' =>
    advance
    word ['u', 'l', 'l']
    pure none
  | _ =>
    let a ← reader
    pure (some a)

end Json
end ScriptHost
