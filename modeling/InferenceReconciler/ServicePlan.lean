import InferenceReconciler.ServiceObservation
import InferenceReconciler.StorageObjects

/-!
# Plans

What one pass writes. Records, derived templates and caches are shared and belong to
nobody, so they outlive the service they were made for. The volume, the runtime and the
route are owned by the service and go with it.
-/

namespace InferenceReconciler

inductive ApplyMode where
  /-- The whole object is sent. -/
  | wholeObject
  /-- Only the fields that change are sent. -/
  | mergePatch
  deriving DecidableEq, Repr, Inhabited

structure PlannedObject where
  kind : ResourceKind
  name : String
  mode : ApplyMode
  body : Json
  deriving Inhabited

structure PlannedDelete where
  kind : ResourceKind
  name : String
  deriving DecidableEq, Repr, Inhabited

structure Plan where
  /-- Shared objects, written before the owned ones. -/
  shared : List PlannedObject
  owned : List PlannedObject
  deletes : List PlannedDelete
  deriving Inhabited

namespace Plan

def empty : Plan := ⟨[], [], []⟩

def isEmpty (p : Plan) : Bool := p.shared.isEmpty && p.owned.isEmpty && p.deletes.isEmpty

@[simp] theorem isEmpty_empty : empty.isEmpty = true := rfl

end Plan

/-- An object as it is sent: with its kind and without a status. -/
def applyBody (kind : ResourceKind) (object : Json) : Json :=
  ((object.set "apiVersion" (.str kind.apiVersion)).set "kind" (.str kind.text)).erase "status"

def PlannedObject.whole (kind : ResourceKind) (name : String) (object : Json) : PlannedObject :=
  ⟨kind, name, .wholeObject, applyBody kind object⟩

def CustomObject.planned {σ τ : Type} [Wire σ] [Wire τ] (kind : ResourceKind)
    (o : CustomObject σ τ) : PlannedObject :=
  .whole kind o.displayName (o.write kind)

/-- The reference by which an object goes when its owner goes. -/
structure OwnerReference where
  name : String
  uid : String
  deriving DecidableEq, Repr, Inhabited

def OwnerReference.json (r : OwnerReference) : Json :=
  .record [
    field "apiVersion" ResourceKind.service.apiVersion,
    field "controller" true,
    field "kind" ResourceKind.service.text,
    field "name" r.name,
    field "uid" r.uid]

/-- A service is known as an owner by its name and its identifier. -/
def ownerReference (service : ServiceObject) : Except Fault OwnerReference :=
  match service.metadata.name, service.metadata.uid with
  | some name, some uid => .ok ⟨name, uid⟩
  | _, _ => .error (.internal "plan" "service has no uid")

def withOwner (r : OwnerReference) (body : Json) : Json :=
  match body.member? "metadata" with
  | some (.obj members) =>
    body.set "metadata" ((Json.obj members).set "ownerReferences" (.arr [r.json]))
  | _ => body

def ownedObject (service : ServiceObject) (kind : ResourceKind) (name : String) (object : Json) :
    Except Fault PlannedObject :=
  (ownerReference service).map fun r =>
    { PlannedObject.whole kind name object with body := withOwner r (applyBody kind object) }

namespace Observation

variable (o : Observation) (service : ServiceObject) (policy : Policy)

def cacheToCreate? : Option TemplateCacheObject :=
  (o.template.ready?.filter fun _ => o.caching.shouldCreateCache).map fun t =>
    templateCacheFor service t o.config.effective

def sharedObjects : List PlannedObject :=
  (o.model.toCreate.map (CustomObject.planned .model)).toList ++
    (o.template.toCreate?.map (CustomObject.planned .template)).toList ++
    ((o.cacheToCreate? service).map (CustomObject.planned .templateCache)).toList

def deletes : List PlannedDelete := o.caching.retryDeletes.map fun name => ⟨.modelCache, name⟩

/-- The temporary volume, if it is missing and its size is known. -/
def volumeToCreate? : Option (VolumeObservation × Nat) :=
  match o.caching.storage, o.caching.volume with
  | some .temporaryVolume, some v =>
    match v.sizeGi with
    | .ok size => if v.shouldCreate then some (v, size) else none
    | .error _ => none
  | _, _ => none

def plannedVolume : Except Fault (List PlannedObject) :=
  match o.volumeToCreate? with
  | none => .ok []
  | some (v, size) =>
    (ownedObject service .volumeClaim v.name
      (Wire.write (temporaryVolumeFor service v size o.config.effective))).map ([·])

/-- The model and the template of a runtime that can be built. -/
def runtimeParts? : Option (ModelRecord × TemplateRecord) :=
  match o.model.resolved, o.template.ready? with
  | some model, some template => if o.runtime.isOpen then some (model, template) else none
  | _, _ => none

/-- The runtime as a whole when the gate is open, and else the patch of the one there is. -/
def plannedRuntime : Except Fault (List PlannedObject) :=
  match o.runtimeParts?, o.runtime.existing with
  | some (model, template), _ => do
    let runtime ← runtimeFor service o.runtime.name model template o.caching o.config.effective
      policy
    return [← ownedObject service .inferenceService o.runtime.name (Wire.write runtime)]
  | none, some existing => do
    let patch ← mutableFieldsPatch service existing o.template.ready? policy
    return [⟨.inferenceService, o.runtime.name, .mergePatch, patch⟩]
  | none, none => .ok []

/-- The route, once there is or will be a runtime behind it. -/
def plannedRoute : Except Fault (List PlannedObject) :=
  match o.route.plannable?.filter fun _ => o.runtime.isOpen || o.runtime.exists with
  | none => .ok []
  | some (path, gateway) =>
    (ownedObject service .httpRoute o.route.name
      (Wire.write (routeFor service path gateway o.runtime.name o.config.effective))).map ([·])

/-- A service with a problem in its configuration is left alone. -/
def plan : Except Fault Plan :=
  if o.config.error.isSome then .ok .empty
  else do
    let volume ← o.plannedVolume service
    let runtime ← o.plannedRuntime service policy
    let route ← o.plannedRoute service
    return ⟨o.sharedObjects service, volume ++ runtime ++ route, o.deletes⟩

end Observation

end InferenceReconciler
