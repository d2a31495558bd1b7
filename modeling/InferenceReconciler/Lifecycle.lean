import InferenceReconciler.WireForm

/-!
# Lifecycle words

The closed sets of words in specifications and statuses: how far an object has come,
the phase of a service, where an object lives and the value of a condition.
-/

namespace InferenceReconciler

inductive LifecycleStatus where
  | pending
  | ready
  | degraded
  | failed
  | notAvailable
  | progressing
  deriving DecidableEq, Repr, Inhabited

namespace LifecycleStatus

def text : LifecycleStatus → String
  | pending => "Pending"
  | ready => "Ready"
  | degraded => "Degraded"
  | failed => "Failed"
  | notAvailable => "NotAvailable"
  | progressing => "Progressing"

/-- A word nobody knows is work in progress, so a newer controller that writes a new
word stops no older one. -/
def ofText (s : String) : LifecycleStatus :=
  if s = "Pending" then pending
  else if s = "Ready" then ready
  else if s = "Degraded" then degraded
  else if s = "Failed" then failed
  else if s = "NotAvailable" then notAvailable
  else progressing

theorem ofText_text (s : LifecycleStatus) : ofText s.text = s := by
  cases s <;> decide

def isReady (s : LifecycleStatus) : Bool := s = ready

/-- The place in the order of health by which objects are chosen; lower is better. An
impaired object still serves, so it stands right behind a ready one. -/
def rank : LifecycleStatus → Nat
  | ready => 0
  | degraded => 1
  | progressing => 2
  | pending => 2
  | notAvailable => 3
  | failed => 4

def known : List LifecycleStatus := [pending, ready, degraded, failed, notAvailable]

/-- The case of a name in an object that is read; every other name falls to the last case. -/
def ofCaseName (s : String) : LifecycleStatus :=
  (known.find? fun w => w.text = s).getD progressing

instance : Wire LifecycleStatus where
  read? j := j.caseName?.map ofCaseName
  write s := .str s.text

end LifecycleStatus

inductive ServicePhase where
  | pending
  | starting
  | running
  | degraded
  | failed
  deriving DecidableEq, Repr, Inhabited

namespace ServicePhase

def text : ServicePhase → String
  | pending => "Pending"
  | starting => "Starting"
  | running => "Running"
  | degraded => "Degraded"
  | failed => "Failed"

def ofText? (s : String) : Option ServicePhase :=
  [pending, starting, running, degraded, failed].find? fun p => p.text = s

theorem ofText?_text (p : ServicePhase) : ofText? p.text = some p := by
  cases p <;> decide

instance : Wire ServicePhase where
  read? j := j.caseName?.bind ofText?
  write p := .str p.text

end ServicePhase

/-- Whether an object lives in the namespace of the service or in the whole cluster. -/
inductive ResourceScope where
  | namespaced
  | cluster
  deriving DecidableEq, Repr, Inhabited

namespace ResourceScope

def text : ResourceScope → String
  | namespaced => "Namespace"
  | cluster => "Cluster"

def ofText? (s : String) : Option ResourceScope :=
  [namespaced, cluster].find? fun c => c.text = s

theorem ofText?_text (c : ResourceScope) : ofText? c.text = some c := by
  cases c <;> decide

instance : Wire ResourceScope where
  read? j := j.caseName?.bind ofText?
  write c := .str c.text

end ResourceScope

inductive ConditionStatus where
  | holds
  | fails
  | unknown
  deriving DecidableEq, Repr, Inhabited

namespace ConditionStatus

def text : ConditionStatus → String
  | holds => "True"
  | fails => "False"
  | unknown => "Unknown"

def ofText? (s : String) : Option ConditionStatus :=
  [holds, fails, unknown].find? fun c => c.text = s

theorem ofText?_text (c : ConditionStatus) : ofText? c.text = some c := by
  cases c <;> decide

instance : Wire ConditionStatus where
  read? j := j.caseName?.bind ofText?
  write c := .str c.text

end ConditionStatus

end InferenceReconciler
