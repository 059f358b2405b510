import ScriptHost.Json.Reader

/-!
# Records in JSON text

A record is written as an object of its fields in a fixed order. It is read from such an object with
its members in any order, or from an array of the fields in order.

## Main definitions

* `Json.Field` — how one field is read into a draft of the record.
* `Json.Shape` — the fields of a record, what an absent field means, and when a draft is complete.
* `Json.record` — a record of some shape.
* `Json.choice` — one of several named values.

## Design notes

A draft holds what has been read so far. Members that are no fields are passed over; a second member
for a field is refused as soon as its name is read, before its value. In an array every field needs
its place, unless the shape gives absent fields a default.
-/

namespace ScriptHost
namespace Json

/-- One field of a record with drafts of type `δ`. -/
structure Field (δ : Type) where
  name : String
  /-- Whether the draft has the field already. -/
  isSet : δ → Bool
  /-- Reads the value of the field and puts it into a draft. -/
  read : Reader (δ → δ)

/-- What is needed to read a record `α` through drafts of type `δ`. -/
structure Shape (δ α : Type) where
  fields : List (Field δ)
  blank : δ
  /-- Whether an array may end before the last field. -/
  openEnded : Bool
  /-- The record, if the draft has every field that has no default. -/
  finish : δ → Option α

section
variable {δ α : Type}

/-- The record a draft has become. -/
def Shape.complete (shape : Shape δ α) (draft : δ) : Reader α :=
  match shape.finish draft with
  | some a => pure a
  | none => refuse .mismatched

/-- One member whose name has been read. -/
def readMember (fields : List (Field δ)) (name : String) (draft : δ) : Reader δ :=
  match fields.find? (·.name == name) with
  | none => do
    colon
    skip
    pure draft
  | some field => do
    if field.isSet draft then refuse .mismatched
    colon
    let update ← field.read
    pure (update draft)

/-- The members up to the closing brace, at least one, within a bound on their number. -/
def readMembers (fields : List (Field δ)) : Nat → δ → Reader δ
  | 0, _ => refuse .truncated
  | bound + 1, draft => do
    let name ← memberName true
    let draft ← readMember fields name draft
    match ← peek? with
    | some ',' =>
      advance
      readMembers fields bound draft
    | some '\x7d' => pure draft
    | some _ => refuse .malformed
    | none => refuse .truncated

/-- A record written as an object whose opening brace has been read. -/
def Shape.readObject (shape : Shape δ α) : Reader α := do
  let draft ← match ← peek? with
    | some '\x7d' => pure shape.blank
    | _ => fun cs => readMembers shape.fields (cs.length + 1) shape.blank cs
  let a ← shape.complete draft
  advance
  pure a

/-- The end of an array that has all the fields. -/
def closeArray : Reader Unit := do
  match ← peek? with
  | some ']' => advance
  | some _ => refuse .malformed
  | none => refuse .truncated

/-- The fields that are left, each in its place, up to the closing bracket. -/
def Shape.readPlaces (shape : Shape δ α) : List (Field δ) → Bool → δ → Reader α
  | [], _, draft => do
    let a ← shape.complete draft
    closeArray
    pure a
  | field :: rest, first, draft => do
    match ← peek? with
    | none => refuse .truncated
    | some ']' =>
      if shape.openEnded then
        let a ← shape.complete draft
        advance
        pure a
      else refuse .mismatched
    | some c =>
      if !first then
        if c ≠ ',' then refuse .malformed
        advance
        match ← peek? with
        | some ']' => refuse .malformed
        | some _ => pure ()
        | none => refuse .truncated
      let update ← field.read
      shape.readPlaces rest false (update draft)

/-- A record, as an object or as an array. -/
def record (shape : Shape δ α) : Reader α := do
  match ← peek? with
  | some '\x7b' =>
    advance
    shape.readObject
  | some '[' =>
    advance
    shape.readPlaces shape.fields true shape.blank
  | _ => mismatch

end

/-- One of several named values: its name as a text, or an object whose only member has that name
and is null. -/
def choice {α : Type} (named : String → Option α) : Reader α := do
  let chosen (name : String) : Reader α :=
    match named name with
    | some a => pure a
    | none => refuse .mismatched
  match ← peek? with
  | some '"' =>
    let name ← string
    chosen name
  | some '\x7b' =>
    advance
    let name ← string
    let a ← chosen name
    colon
    null
    match ← peek? with
    | some '\x7d' =>
      advance
      pure a
    | some _ => refuse .malformed
    | none => refuse .truncated
  | some _ => refuse .malformed
  | none => refuse .truncated

end Json
end ScriptHost
