import InferenceReconciler.Lifecycle
import InferenceReconciler.Timestamp

/-!
# Conditions

One aspect of the state of an object, with the time since which it has its value.
-/

namespace InferenceReconciler

structure Condition where
  type : String
  status : ConditionStatus
  reason : String
  message : String
  lastTransitionTime : Timestamp
  deriving DecidableEq, Inhabited

namespace Condition

/-- Equal in all but the time. -/
def sameState (a b : Condition) : Bool :=
  a.type = b.type && a.status = b.status && a.reason = b.reason && a.message = b.message

@[simp] theorem sameState_self (c : Condition) : c.sameState c = true := by
  simp [sameState]

instance : Wire Condition where
  read? j := do
    let m ← j.fields? ["type", "status", "reason", "message", "lastTransitionTime"]
    return {
      type := ← m.required "type"
      status := ← m.required "status"
      reason := ← m.required "reason"
      message := ← m.required "message"
      lastTransitionTime := ← m.required "lastTransitionTime" }
  write c := .record [
    field "lastTransitionTime" c.lastTransitionTime,
    field "message" c.message,
    field "reason" c.reason,
    field "status" c.status,
    field "type" c.type]

end Condition

end InferenceReconciler
