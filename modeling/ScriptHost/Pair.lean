import ScriptHost.Json.Record

/-!
# Handle pairs

The engine names a callable and the receiver it is called with by opaque words. A pair of both is
what is registered, invoked and disposed of.

## Main definitions

* `Pair` — a callback word and a receiver word.
* `Pair.label` — how a pair is named in messages.
* `Pair.le` — callbacks first, then receivers.
* `Pair.reader`, `Pair.toJson` — the JSON form.
-/

namespace ScriptHost

/-- A callback together with its receiver. -/
structure Pair where
  callback : UInt64
  receiver : UInt64
deriving DecidableEq, Repr, Inhabited

namespace Pair

/-- How a pair is named in messages. -/
def label (p : Pair) : String := s!"cb#{p.callback}/this#{p.receiver}"

/-- The order of pairs: by callback, then by receiver. -/
def le (p q : Pair) : Bool :=
  p.callback < q.callback || (p.callback == q.callback && p.receiver ≤ q.receiver)

/-- Pairs in ascending order. -/
def sort (pairs : List Pair) : List Pair := pairs.mergeSort le

/-- The JSON form of a pair. -/
def toJson (p : Pair) : Json.Value :=
  .object [("callback", .ofNat p.callback.toNat), ("receiver", .ofNat p.receiver.toNat)]

/-- A pair of which some fields have been read. -/
structure Draft where
  callback : Option UInt64
  receiver : Option UInt64

/-- A word of 64 bits. -/
def word : Json.Reader UInt64 := do
  let n ← Json.natural (Nat.pow 2 64)
  pure (UInt64.ofNat n)

/-- How a pair is read. -/
def shape : Json.Shape Draft Pair where
  fields :=
    [⟨"callback", (·.callback.isSome),
      do let w ← word; pure fun d => { d with callback := some w }⟩,
     ⟨"receiver", (·.receiver.isSome),
      do let w ← word; pure fun d => { d with receiver := some w }⟩]
  blank := ⟨none, none⟩
  openEnded := false
  finish d := do some ⟨← d.callback, ← d.receiver⟩

/-- Reads a pair. -/
def reader : Json.Reader Pair := Json.record shape

end Pair
end ScriptHost
