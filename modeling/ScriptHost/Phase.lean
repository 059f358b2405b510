/-!
# The life of a session

## Main definitions

* `Phase` — the stages that a session passes through.
* `Phase.isLive` — whether work is still accepted.
-/

namespace ScriptHost

/-- The stages of a session, in the order it can reach them. -/
inductive Phase where
  | created
  | initializing
  | ready
  | paused
  | shuttingDown
  | terminated
deriving DecidableEq, Repr, Inhabited

namespace Phase

/-- Every phase, in order. -/
def all : List Phase := [created, initializing, ready, paused, shuttingDown, terminated]

/-- Whether a session in this phase accepts work. -/
def isLive : Phase → Bool
  | created | initializing | ready | paused => true
  | shuttingDown | terminated => false

/-- The name of a phase. -/
def name : Phase → String
  | created => "Created"
  | initializing => "Initializing"
  | ready => "Ready"
  | paused => "Paused"
  | shuttingDown => "ShuttingDown"
  | terminated => "Terminated"

end Phase
end ScriptHost
