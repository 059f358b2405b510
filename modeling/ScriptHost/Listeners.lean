import ScriptHost.Pair

/-!
# Event listeners

## Main definitions

* `Listeners` — the pairs listening for each event, events in the order they were first listened to.
* `Listeners.on`, `Listeners.off` — adding one, and removing all those of an event.
* `Listeners.of`, `Listeners.all` — the pairs of one event and of all, in order.
* `Listeners.count` — how many there are.
-/

namespace ScriptHost

/-- The pairs listening for each event. -/
structure Listeners where
  entries : List (String × List Pair)
deriving DecidableEq, Repr, Inhabited

namespace Listeners

/-- Nobody listens. -/
def empty : Listeners := ⟨[]⟩

/-- Adds a pair behind those of the same event, in place. -/
def insert (event : String) (p : Pair) : List (String × List Pair) → List (String × List Pair)
  | [] => [(event, [p])]
  | (name, pairs) :: rest =>
    if name = event then (name, pairs ++ [p]) :: rest else (name, pairs) :: insert event p rest

/-- A pair listens for an event. -/
def on (l : Listeners) (event : String) (p : Pair) : Listeners := ⟨insert event p l.entries⟩

/-- The pairs that listen for an event. -/
def of (l : Listeners) (event : String) : List Pair := (l.entries.lookup event).getD []

/-- Nobody listens for an event any more. -/
def off (l : Listeners) (event : String) : Listeners := ⟨l.entries.filter (·.1 ≠ event)⟩

/-- Every pair, event by event. -/
def all (l : Listeners) : List Pair := l.entries.flatMap (·.2)

/-- How many pairs listen. -/
def count (l : Listeners) : Nat := l.all.length

end Listeners
end ScriptHost
