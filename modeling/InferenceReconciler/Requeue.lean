import InferenceReconciler.Fault
import InferenceReconciler.Lifecycle
import InferenceReconciler.Policy

/-!
# Requeueing

When the next pass over a service is due. A service at rest is looked at now and then,
one on its way more often, and one with a fault that no waiting can mend only after it
was changed.
-/

namespace InferenceReconciler

inductive Requeue where
  | onChange
  | after (seconds : Nat)
  deriving DecidableEq, Repr, Inhabited

namespace Requeue

def ofPhase (policy : Policy) : ServicePhase → Requeue
  | .running | .failed => .after policy.requeueSeconds
  | .pending | .starting | .degraded => .after policy.progressRequeueSeconds

/-- Seconds to the next pass after a fault that may be gone by then. -/
def faultSeconds : Nat := 30

def ofFault (f : Fault) : Requeue := if f.isRetryable then .after faultSeconds else .onChange

@[simp] theorem ofFault_invalid (message : String) : ofFault (.invalid message) = .onChange := rfl

end Requeue

end InferenceReconciler
