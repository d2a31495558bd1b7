import InferenceReconciler.ClusterStore
import InferenceReconciler.ReconcilePass

/-!
# A cluster in memory

The world around the reconciler, reduced to what a pass can see: stored objects, the
service itself, and calls that fail for a while. Nothing that a pass plans becomes an
object before the cluster is told to make it so.
-/

namespace InferenceReconciler

/-- The calls that can fail. -/
inductive Call where
  | read (r : Read)
  | apply
  | writeStatus
  deriving DecidableEq, Repr, Inhabited

structure SimulatedCluster where
  service : ServiceObject
  store : ClusterStore
  /-- The calls that fail, the latest first. -/
  failing : List (Call × Fault)
  /-- What the last pass has written, if it wrote anything. -/
  planned : Option Plan

namespace SimulatedCluster

def fault? (c : SimulatedCluster) (call : Call) : Option Fault := c.failing.lookup call

def fail (call : Call) (f : Fault) (c : SimulatedCluster) : SimulatedCluster :=
  { c with failing := (call, f) :: c.failing }

def heal (call : Call) (c : SimulatedCluster) : SimulatedCluster :=
  { c with failing := c.failing.filter fun e => e.1 ≠ call }

/-- The service replaced; the status is the cluster's unless the new object brings one. -/
def replaceService (new : ServiceObject) (c : SimulatedCluster) : SimulatedCluster :=
  { c with service := { new with status := new.status <|> c.service.status } }

def unreadableObject (r : Read) : Fault := .unreadable r.kind.text "bad object"

def client (c : SimulatedCluster) : ClusterClient where
  answers := .ofObjects
    (fun r => match c.fault? (.read r) with
      | some f => .error f
      | none => .ok (c.store.select (r.query (.of c.service))))
    unreadableObject
  apply _ := match c.fault? .apply with
    | some f => .error f
    | none => .ok ()
  writeStatus _ := match c.fault? .writeStatus with
    | some f => .error f
    | none => .ok ()

def appliedPlan? (c : SimulatedCluster) (p : Pass) : Option Plan :=
  if (c.fault? .apply).isSome then none
  else p.effects.findSome? fun
    | .apply plan => some plan
    | _ => none

def writtenStatus? (c : SimulatedCluster) (p : Pass) : Option ServiceStatus :=
  if (c.fault? .writeStatus).isSome then none
  else p.effects.findSome? fun
    | .writeStatus s => some s
    | _ => none

def pass (now : Timestamp) (policy : Policy) (c : SimulatedCluster) : Pass :=
  reconcile c.client now policy c.service

/-- The cluster after a pass: it knows the status that was written and the plan. -/
def afterPass (p : Pass) (c : SimulatedCluster) : SimulatedCluster :=
  { c with
    service := { c.service with status := c.writtenStatus? p <|> c.service.status }
    planned := c.appliedPlan? p }

def realized (status : Option Json) (p : PlannedObject) : StoredObject :=
  let metadata := ((p.body.member? "metadata").getD (.obj [])).set "uid" (.str s!"uid-{p.name}")
  let body := p.body.set "metadata" metadata
  ⟨p.kind, match status with
    | some s => body.set "status" s
    | none => body⟩

def wholeObjects (p : Plan) : List PlannedObject :=
  (p.shared ++ p.owned).filter fun o => o.mode = .wholeObject

/-- The cluster after the planned objects came into being and the deleted ones went;
`status` gives the objects of a kind a status. -/
def realize (status : ResourceKind → Option Json) (p : Plan) (c : SimulatedCluster) :
    SimulatedCluster :=
  let store := (wholeObjects p).foldl (fun s o => ClusterStore.put (realized (status o.kind) o) s)
    c.store
  { c with store := p.deletes.foldl (fun s d => ClusterStore.delete d.kind d.name s) store }

end SimulatedCluster

end InferenceReconciler
