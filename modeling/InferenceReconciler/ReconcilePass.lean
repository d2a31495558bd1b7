import InferenceReconciler.Requeue
import InferenceReconciler.ServicePlan

/-!
# Reconcile passes

One pass over a service: read everything, decide, write the plan, and write the status
only if it says anything new. The cluster enters as a function from what is asked to what
is answered, so a pass is a value: how it ended and what it did in order.
-/

namespace InferenceReconciler

inductive EventType where
  | normal
  | warning
  deriving DecidableEq, Repr, Inhabited

/-- What is recorded about a service for its user to see. -/
structure Event where
  type : EventType
  reason : String
  action : String
  /-- Left out where the cluster has the words. -/
  note : Option String
  deriving DecidableEq, Repr, Inhabited

namespace Event

def applyFailed (f : Fault) : Event := ⟨.warning, "ApplyFailed", "Apply", f.message?⟩

def cachesDeleted (names : List String) : Event :=
  let list := ", ".intercalate names
  ⟨.normal, "CacheRetry", "Delete", some s!"deleted failed model caches for retry: {list}"⟩

def phaseChanged (before : String) (after : ServicePhase) : Event :=
  let note := some s!"{before} -> {after.text}"
  match after with
  | .running => ⟨.normal, "ServiceRunning", "Reconcile", note⟩
  | .failed | .degraded => ⟨.warning, "ServiceUnhealthy", "Reconcile", note⟩
  | .pending | .starting => ⟨.normal, "PhaseChanged", "Reconcile", note⟩

end Event

/-- What a pass does to the cluster. -/
inductive Effect where
  | read (r : Read)
  | apply (p : Plan)
  | publish (e : Event)
  | writeStatus (s : ServiceStatus)
  deriving Inhabited

/-- The cluster as it answers one pass. -/
structure ClusterClient where
  answers : Answers
  apply : Plan → Except Fault Unit
  writeStatus : ServiceStatus → Except Fault Unit

structure Pass where
  result : Except Fault Requeue
  effects : List Effect

namespace Pass

def ended (result : Except Fault Requeue) : Pass := ⟨result, []⟩

def after (effects : List Effect) (p : Pass) : Pass := { p with effects := effects ++ p.effects }

@[simp] theorem result_after (effects : List Effect) (p : Pass) :
    (p.after effects).result = p.result := rfl

@[simp] theorem effects_after (effects : List Effect) (p : Pass) :
    (p.after effects).effects = effects ++ p.effects := rfl

end Pass

section

variable (client : ClusterClient) (now : Timestamp) (policy : Policy) (service : ServiceObject)

def phaseEvents (prior : Option ServiceStatus) (next : ServiceStatus) : List Event :=
  let before := phaseText prior
  if before = next.status.text then [] else [.phaseChanged before next.status]

def writeStatusPass (projected : ProjectedStatus) : Pass :=
  let next := projected.status
  let requeue := Requeue.ofPhase policy next.status
  if statusChanged service.status next then
    match client.writeStatus next with
    | .error f => ⟨.error f, [.writeStatus next]⟩
    | .ok () =>
      ⟨.ok requeue, .writeStatus next :: (phaseEvents service.status next).map .publish⟩
  else .ended (.ok requeue)

def planEvents (plan : Plan) : List Event :=
  if plan.deletes.isEmpty then [] else [.cachesDeleted (plan.deletes.map (·.name))]

/-- The plan is written, if there is anything in it, and then the status. -/
def applyPass (o : Observation) (plan : Plan) : Pass :=
  let rest := writeStatusPass client policy service (o.project now service)
  if plan.isEmpty then rest
  else
    match client.apply plan with
    | .error f => ⟨.error f, [.apply plan, .publish (.applyFailed f)]⟩
    | .ok () => rest.after (.apply plan :: (planEvents plan).map .publish)

def decidePass : Pass :=
  match Snapshot.ofAnswers client.answers with
  | .error f => .ended (.error f)
  | .ok snapshot =>
    let o := observe service snapshot policy
    match o.plan service policy with
    | .error f => .ended (.error f)
    | .ok plan => applyPass client now policy service o plan

/-- One pass. A service outside any namespace and one that is being deleted are left
alone. -/
def reconcile : Pass :=
  if service.metadata.namespace.isNone || service.metadata.deletionTimestamp.isSome then
    .ended (.ok .onChange)
  else (decidePass client now policy service).after (Read.all.map .read)

end

end InferenceReconciler
