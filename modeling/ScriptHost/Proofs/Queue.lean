import Mathlib.Data.List.Basic
import ScriptHost.Proofs.Operations

/-!
# The messages in a queue

What waits in a queue, in whatever lane: posting and arming add a message, taking one removes it,
and the passing of time moves messages from one lane to another.

## Main definitions

* `Lanes.messages` — the messages that wait.

## Main statements

* `Lanes.messages_next`, `Lanes.messages_arm`, `Lanes.messages_deliverDue`, … — what the operations
  on a queue do to them.
-/

namespace ScriptHost
namespace Lanes

variable {μ : Type} {l : Lanes μ}

/-- The messages that wait, in whatever lane. -/
def messages (l : Lanes μ) : List μ := l.urgent ++ l.ordinary ++ l.alarms.map (·.message)

theorem insertAlarm_perm (a : Alarm μ) (alarms : List (Alarm μ)) :
    (insertAlarm a alarms).Perm (a :: alarms) := by
  induction alarms with
  | nil => rfl
  | cons b rest ih =>
    unfold insertAlarm
    split
    · exact (ih.cons b).trans (.swap ..)
    · rfl

theorem messages_post (l : Lanes μ) (m : μ) :
    ({ l with ordinary := l.ordinary ++ [m] } : Lanes μ).messages.Perm (m :: l.messages) := by
  simp only [messages, List.append_assoc, List.singleton_append]
  exact (List.perm_middle.append_left l.urgent).trans List.perm_middle

theorem messages_postUrgent (l : Lanes μ) (m : μ) :
    ({ l with urgent := l.urgent ++ [m] } : Lanes μ).messages.Perm (m :: l.messages) := by
  simp only [messages, List.append_assoc, List.singleton_append]
  exact List.perm_middle

theorem messages_arm (l : Lanes μ) (a : Alarm μ) (ticket : Nat) :
    ({ l with alarms := insertAlarm a l.alarms, nextTicket := ticket } : Lanes μ).messages.Perm
      (a.message :: l.messages) := by
  have armed := ((insertAlarm_perm a l.alarms).map (·.message)).append_left (l.urgent ++ l.ordinary)
  exact armed.trans List.perm_middle

theorem messages_alarms {alarms : List (Alarm μ)} (sub : alarms.Sublist l.alarms) :
    ({ l with alarms := alarms } : Lanes μ).messages.Sublist l.messages :=
  (sub.map _).append_left _

theorem messages_next {m : μ} {rest : Lanes μ} (h : l.next? = some (m, rest)) :
    l.messages.Perm (m :: rest.messages) := by
  rcases next?_cases h with ⟨urgent, heq, rfl⟩ | ⟨empty, ordinary, heq, rfl⟩
  · simp [messages, heq]
  · simp [messages, heq, empty]

theorem messages_deliverDue (l : Lanes μ) (clock : Nat) :
    (l.deliverDue clock).messages.Perm l.messages := by
  have split : (l.alarms.takeWhile (·.due ≤ clock)).map (·.message) ++
      (l.alarms.dropWhile (·.due ≤ clock)).map (·.message) = l.alarms.map (·.message) := by
    rw [← List.map_append, List.takeWhile_append_dropWhile]
  simp only [messages, deliverDue, List.append_assoc]
  rw [split]

end Lanes
end ScriptHost
