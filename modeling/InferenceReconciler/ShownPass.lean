import InferenceReconciler.ReconcilePass
import InferenceReconciler.ShownDecision

/-!
# Passes as records

What a pass writes and when the next one is due, as JSON records.
-/

namespace InferenceReconciler

def Requeue.shown : Requeue → Json
  | onChange => .str "await_change"
  | after seconds => .obj [("requeueSecs", .ofNat seconds)]

def ApiResource.shown (r : ApiResource) : Json := .obj [
  ("apiVersion", .str r.apiVersion),
  ("group", .str r.group),
  ("kind", .str r.kind),
  ("plural", .str r.plural),
  ("version", .str r.version)]

def ApplyMode.text : ApplyMode → String
  | wholeObject => "ServerSide"
  | mergePatch => "Merge"

def PlannedObject.shown (p : PlannedObject) : Json := .obj [
  ("body", p.body),
  ("kind", .str p.kind.text),
  ("mode", .str p.mode.text),
  ("name", .str p.name),
  ("resource", p.kind.resource.shown)]

def PlannedDelete.shown (d : PlannedDelete) : Json := .obj [
  ("kind", .str d.kind.text),
  ("name", .str d.name),
  ("resource", d.kind.resource.shown)]

def Plan.shown (p : Plan) : Json := .obj [
  ("delete", .arr (p.deletes.map PlannedDelete.shown)),
  ("empty", .bool p.isEmpty),
  ("owned", .arr (p.owned.map PlannedObject.shown)),
  ("unowned", .arr (p.shared.map PlannedObject.shown))]

def EventType.text : EventType → String
  | normal => "Normal"
  | warning => "Warning"

def serviceReference (s : ServiceObject) : Json := .obj [
  ("apiVersion", .str ResourceKind.service.apiVersion),
  ("kind", .str ResourceKind.service.text),
  ("name", shownOption s.metadata.name),
  ("namespace", shownOption s.metadata.namespace),
  ("uid", shownOption s.metadata.uid)]

def Event.shown (e : Event) (service : ServiceObject) : Json := .obj [
  ("action", .str e.action),
  ("note", shownOption e.note),
  ("on", serviceReference service),
  ("reason", .str e.reason),
  ("type", .str e.type.text)]

end InferenceReconciler
