import InferenceReconciler.PodFields
import InferenceReconciler.RouteObject

/-!
# Runtimes

The inference service that serves a model: a predictor with its containers, and the
status in which the serving platform reports readiness and the last failure.
-/

namespace InferenceReconciler

namespace InferenceService

structure Predictor where
  minReplicas : Option Int32
  maxReplicas : Option Int32
  containers : List PodFields.Container
  volumes : List PodFields.Volume
  affinity : Option PodFields.Affinity
  imagePullSecrets : List PodFields.PullSecret
  serviceAccountName : Option String
  deriving DecidableEq, Inhabited

instance : Wire Predictor where
  read? j := do
    let m ← j.fields? ["minReplicas", "maxReplicas", "containers", "volumes", "affinity",
      "imagePullSecrets", "serviceAccountName"]
    return {
      minReplicas := ← m.optional "minReplicas"
      maxReplicas := ← m.optional "maxReplicas"
      containers := ← m.orElse "containers" []
      volumes := ← m.orElse "volumes" []
      affinity := ← m.optional "affinity"
      imagePullSecrets := ← m.orElse "imagePullSecrets" []
      serviceAccountName := ← m.optional "serviceAccountName" }
  write p := .record [
    optionalField "affinity" p.affinity,
    field "containers" p.containers,
    listField "imagePullSecrets" p.imagePullSecrets,
    optionalField "maxReplicas" p.maxReplicas,
    optionalField "minReplicas" p.minReplicas,
    optionalField "serviceAccountName" p.serviceAccountName,
    listField "volumes" p.volumes]

structure Spec where
  predictor : Predictor
  deriving DecidableEq, Inhabited

instance : Wire Spec where
  read? j := do
    let m ← j.fields? ["predictor"]
    return { predictor := ← m.required "predictor" }
  write s := .record [field "predictor" s.predictor]

/-- A condition the serving platform reports; its value is any text. -/
structure RuntimeCondition where
  type : String
  status : String
  reason : Option String
  message : Option String
  deriving DecidableEq, Repr, Inhabited

instance : Wire RuntimeCondition where
  read? j := do
    let m ← j.fields? ["type", "status", "reason", "message"]
    return {
      type := ← m.required "type"
      status := ← m.required "status"
      reason := ← m.optional "reason"
      message := ← m.optional "message" }
  write c := .record [
    optionalField "message" c.message,
    optionalField "reason" c.reason,
    field "status" c.status,
    field "type" c.type]

structure FailureInfo where
  reason : String
  message : String
  deriving DecidableEq, Repr, Inhabited

instance : Wire FailureInfo where
  read? j := do
    let m ← j.fields? ["reason", "message"]
    return { reason := ← m.orElse "reason" "", message := ← m.orElse "message" "" }
  write f := .record [field "message" f.message, field "reason" f.reason]

structure LoadStatus where
  lastFailureInfo : Option FailureInfo
  deriving DecidableEq, Repr, Inhabited

instance : Wire LoadStatus where
  read? j := do
    let m ← j.fields? ["lastFailureInfo"]
    return { lastFailureInfo := ← m.optional "lastFailureInfo" }
  write s := .record [optionalField "lastFailureInfo" s.lastFailureInfo]

structure Status where
  conditions : List RuntimeCondition
  url : Option String
  modelStatus : Option LoadStatus
  deriving DecidableEq, Repr, Inhabited

instance : Wire Status where
  read? j := do
    let m ← j.fields? ["conditions", "url", "modelStatus"]
    return {
      conditions := ← m.orElse "conditions" []
      url := ← m.optional "url"
      modelStatus := ← m.optional "modelStatus" }
  write s := .record [
    field "conditions" s.conditions,
    optionalField "modelStatus" s.modelStatus,
    optionalField "url" s.url]

end InferenceService

structure InferenceService where
  apiVersion : String
  kind : String
  metadata : PlainMetadata
  spec : InferenceService.Spec
  status : Option InferenceService.Status
  deriving DecidableEq, Inhabited

namespace InferenceService

def standardApiVersion : String := "serving.kserve.io/v1beta1"

def standardKind : String := "InferenceService"

def ofSpec (metadata : PlainMetadata) (spec : Spec) : InferenceService :=
  ⟨standardApiVersion, standardKind, metadata, spec, none⟩

/-- Whether the serving platform reports that the runtime is ready. -/
def isReady (s : InferenceService) : Bool :=
  s.status.any fun status =>
    status.conditions.any fun c => c.type = "Ready" && c.status = "True"

def lastFailure? (s : InferenceService) : Option FailureInfo :=
  (s.status.bind (·.modelStatus)).bind (·.lastFailureInfo)

instance : Wire InferenceService where
  read? j := do
    let m ← j.fields? ["apiVersion", "kind", "metadata", "spec", "status"]
    return {
      apiVersion := ← m.orElse "apiVersion" standardApiVersion
      kind := ← m.orElse "kind" standardKind
      metadata := ← m.required "metadata"
      spec := ← m.required "spec"
      status := ← m.optional "status" }
  write s := .record [
    field "apiVersion" s.apiVersion,
    field "kind" s.kind,
    field "metadata" s.metadata,
    field "spec" s.spec,
    optionalField "status" s.status]

end InferenceService

end InferenceReconciler
