import InferenceReconciler.ClusterStore
import InferenceReconciler.RequestClient

/-!
# A server over stored objects

It answers reads from the objects it holds, accepts every write without a change to
them, and refuses what it was told to refuse.
-/

namespace InferenceReconciler

structure RecordedServer where
  store : ClusterStore
  /-- Methods on plurals that are refused, each with a code. -/
  refused : List ((String × String) × Nat)

namespace RecordedServer

/-- The objects that a request can see. -/
def visible (s : RecordedServer) (r : Request) : List Json :=
  match ResourceKind.all.find? fun k => k.plural = r.address.plural with
  | some kind => s.store.select ⟨kind, r.address.namespace, r.address.name, r.label⟩
  | none => []

def answer (s : RecordedServer) : ApiServer := fun r =>
  match s.refused.lookup (r.method.text, r.address.plural) with
  | some code => .error ⟨some code, false⟩
  | none =>
    match r.method, r.address.name with
    | .get, none => .ok (.obj [("items", .arr (s.visible r))])
    | .get, some _ | .delete, _ =>
      match s.visible r with
      | object :: _ => .ok object
      | [] => .error ⟨some 404, true⟩
    | .patch, _ | .post, _ => .ok (.obj [])

end RecordedServer

end InferenceReconciler
