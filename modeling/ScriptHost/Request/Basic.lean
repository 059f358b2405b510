import ScriptHost.Failure
import ScriptHost.Text.Blank

/-!
# Requests

A script describes a request; it is checked and brought into normal form before a transport sees it,
and its outcome comes back as a completion that is delivered to one of two callbacks.

## Main definitions

* `Request` — what a script asks for.
* `Request.prepareWith` — the checks and the normal form, over a way to read addresses.
* `Prepared` — what a transport receives.
* `Completion` — what comes back, with the arguments it gives to a callback.
* `Call` — a request together with its callbacks; `Call.delivery` says which of them is invoked.

## Design notes

The address is read by a function that is passed in, so that what is said about preparation does not
depend on how addresses look. Methods are compared in upper case of ASCII; a blank one is `GET`.
-/

namespace ScriptHost

/-- What is known of an address that names a host. -/
structure Address where
  /-- The address in normal form. -/
  text : String
  scheme : String
  host : String
deriving DecidableEq, Repr, Inhabited

/-- A request as a script describes it. -/
structure Request where
  target : String
  payload : Option String
  method : String
  /-- Whether the engine is asked to process the payload of the answer. -/
  processData : Bool
deriving DecidableEq, Repr, Inhabited

/-- A request that passed all checks. -/
structure Prepared where
  url : String
  scheme : String
  host : String
  method : String
  payload : Option String
deriving DecidableEq, Repr, Inhabited

namespace Request

/-- A request for a target. -/
def get (target : String) : Request := ⟨target, none, "GET", false⟩

/-- A request that sends a payload to a target. -/
def post (target payload : String) : Request := ⟨target, some payload, "POST", false⟩

/-- The methods that a request may have. -/
def methods : List String := ["GET", "POST", "PUT", "DELETE", "PATCH", "HEAD", "OPTIONS"]

/-- A character with ASCII letters in upper case. -/
def upperAscii (c : Char) : Char := if 'a' ≤ c && c ≤ 'z' then Char.ofNat (c.toNat - 32) else c

/-- A method in normal form: no white space around it, ASCII letters in upper case, blank as `GET`.
-/
def normalMethod (method : String) : String :=
  let trimmed := Text.trimChars method.toList
  if trimmed.isEmpty then "GET" else String.ofList (trimmed.map upperAscii)

/-- The first reason to refuse a request, or its normal form. Resolving a target tells why it cannot
be read, or what is known of the address, or that it names no host. -/
def prepareWith (resolve : String → Except String (Option Address)) (r : Request) :
    Except Failure Prepared := do
  let target := Text.trim r.target
  let noHost := Failure.malformedRequest ("'" ++ target ++ "' has no host")
  let address ← match resolve target with
    | .ok (some address) => if address.host.isEmpty then throw noHost else pure address
    | .ok none => throw noHost
    | .error why => throw (.malformedRequest ("'" ++ target ++ "': " ++ why))
  let method := normalMethod r.method
  if !methods.contains method then
    throw (.malformedRequest ("unsupported method '" ++ method ++ "'"))
  pure ⟨address.text, address.scheme, address.host, method, r.payload⟩

/-- The JSON form of a request. -/
def toJson (r : Request) : Json.Value :=
  .object
    [("target", .text r.target), ("payload", .ofText? r.payload), ("method", .text r.method),
     ("process_data", .bool r.processData)]

/-- A request of which some fields have been read. -/
structure Draft where
  target : Option String
  payload : Option (Option String)
  method : Option String
  processData : Option Bool

/-- How a request is read: an absent payload is none. -/
def shape : Json.Shape Draft Request where
  fields :=
    [⟨"target", (·.target.isSome),
      do let s ← Json.string; pure fun d => { d with target := some s }⟩,
     ⟨"payload", (·.payload.isSome),
      do let s ← Json.nullable Json.string; pure fun d => { d with payload := some s }⟩,
     ⟨"method", (·.method.isSome),
      do let s ← Json.string; pure fun d => { d with method := some s }⟩,
     ⟨"process_data", (·.processData.isSome),
      do let b ← Json.flag; pure fun d => { d with processData := some b }⟩]
  blank := ⟨none, none, none, none⟩
  openEnded := false
  finish d := do some ⟨← d.target, d.payload.getD none, ← d.method, ← d.processData⟩

/-- Reads a request. -/
def reader : Json.Reader Request := Json.record shape

end Request

/-- What comes back for a request. -/
structure Completion where
  payload : Option String
  status : UInt16
  success : Bool
deriving DecidableEq, Repr, Inhabited

namespace Completion

/-- The completion of a request that reached no transport or made it fail. -/
def clientFailure : Completion := ⟨none, 500, false⟩

/-- What a callback is invoked with: payload, status and whether to process the payload. -/
def arguments (c : Completion) (processData : Bool) : List Json.Value :=
  [.ofText? c.payload, .ofNat c.status.toNat, .bool processData]

/-- The JSON form of a completion. -/
def toJson (c : Completion) : Json.Value :=
  .object
    [("payload", .ofText? c.payload), ("status", .ofNat c.status.toNat),
     ("success", .bool c.success)]

/-- A completion of which some fields have been read. -/
structure Draft where
  payload : Option (Option String)
  status : Option UInt16
  success : Option Bool

/-- How a completion is read: an absent payload is none. -/
def shape : Json.Shape Draft Completion where
  fields :=
    [⟨"payload", (·.payload.isSome),
      do let s ← Json.nullable Json.string; pure fun d => { d with payload := some s }⟩,
     ⟨"status", (·.status.isSome),
      do
        let n ← Json.natural (Nat.pow 2 16)
        pure fun d => { d with status := some (UInt16.ofNat n) }⟩,
     ⟨"success", (·.success.isSome),
      do let b ← Json.flag; pure fun d => { d with success := some b }⟩]
  blank := ⟨none, none, none⟩
  openEnded := false
  finish d := do some ⟨d.payload.getD none, ← d.status, ← d.success⟩

/-- Reads a completion. -/
def reader : Json.Reader Completion := Json.record shape

end Completion

/-- A request on its way, with the callbacks that wait for it. -/
structure Call where
  id : Nat
  request : Request
  onSuccess : UInt64
  onError : UInt64
  receiver : UInt64
deriving DecidableEq, Repr, Inhabited

namespace Call

/-- The pair that is invoked on success. -/
def successPair (c : Call) : Pair := ⟨c.onSuccess, c.receiver⟩

/-- The pair that is invoked otherwise. -/
def errorPair (c : Call) : Pair := ⟨c.onError, c.receiver⟩

/-- The pair that a completion invokes, and with what; no completion counts as a client failure. -/
def delivery (c : Call) (completion : Option Completion) : Pair × List Json.Value :=
  let completion := completion.getD .clientFailure
  (if completion.success then c.successPair else c.errorPair,
   completion.arguments c.request.processData)

end Call
end ScriptHost
