import InferenceReconciler.CustomObject

/-!
# Volume claims, pods and nodes

The objects of the cluster's core, with the fields that are looked at or written.
-/

namespace InferenceReconciler

/-- Quantities of storage. -/
structure VolumeResources where
  limits : Option (Dict String)
  requests : Option (Dict String)
  deriving DecidableEq, Inhabited

instance : Wire VolumeResources where
  read? j := do
    let m ← j.members?
    return { limits := ← m.optional "limits", requests := ← m.optional "requests" }
  write r := .record [optionalField "limits" r.limits, optionalField "requests" r.requests]

structure VolumeClaimSpec where
  accessModes : Option (List String)
  resources : Option VolumeResources
  storageClassName : Option String
  deriving DecidableEq, Inhabited

instance : Wire VolumeClaimSpec where
  read? j := do
    let m ← j.members?
    return {
      accessModes := ← m.optional "accessModes"
      resources := ← m.optional "resources"
      storageClassName := ← m.optional "storageClassName" }
  write s := .record [
    optionalField "accessModes" s.accessModes,
    optionalField "resources" s.resources,
    optionalField "storageClassName" s.storageClassName]

structure VolumeClaimStatus where
  phase : Option String
  deriving DecidableEq, Repr, Inhabited

instance : Wire VolumeClaimStatus where
  read? j := do
    let m ← j.members?
    return { phase := ← m.optional "phase" }
  write s := .record [optionalField "phase" s.phase]

structure VolumeClaim where
  metadata : Metadata
  spec : Option VolumeClaimSpec
  status : Option VolumeClaimStatus
  deriving DecidableEq, Inhabited

namespace VolumeClaim

def isBound (c : VolumeClaim) : Bool :=
  (c.status.bind (·.phase)) = some "Bound"

instance : Wire VolumeClaim where
  read? j := do
    let m ← j.members?
    return {
      metadata := ← m.orDefault "metadata" .empty
      spec := ← m.optional "spec"
      status := ← m.optional "status" }
  write c := .record [
    field "apiVersion" ResourceKind.volumeClaim.apiVersion,
    field "kind" ResourceKind.volumeClaim.text,
    field "metadata" c.metadata,
    optionalField "spec" c.spec,
    optionalField "status" c.status]

end VolumeClaim

/-- Why a container has not started. -/
structure Waiting where
  reason : Option String
  message : Option String
  deriving DecidableEq, Repr, Inhabited

instance : Wire Waiting where
  read? j := do
    let m ← j.members?
    return { reason := ← m.optional "reason", message := ← m.optional "message" }
  write w := .record [optionalField "message" w.message, optionalField "reason" w.reason]

structure ContainerState where
  waiting : Option Waiting
  deriving DecidableEq, Repr, Inhabited

instance : Wire ContainerState where
  read? j := do
    let m ← j.members?
    return { waiting := ← m.optional "waiting" }
  write s := .record [optionalField "waiting" s.waiting]

structure ContainerStatus where
  image : String
  imageId : String
  name : String
  ready : Bool
  restartCount : Int32
  state : Option ContainerState
  deriving DecidableEq, Inhabited

instance : Wire ContainerStatus where
  read? j := do
    let m ← j.members?
    return {
      image := ← m.orDefault "image" ""
      imageId := ← m.orDefault "imageID" ""
      name := ← m.orDefault "name" ""
      ready := ← m.orDefault "ready" false
      restartCount := ← m.orDefault "restartCount" 0
      state := ← m.optional "state" }
  write s := .record [
    field "image" s.image,
    field "imageID" s.imageId,
    field "name" s.name,
    field "ready" s.ready,
    field "restartCount" s.restartCount,
    optionalField "state" s.state]

structure PodStatus where
  containerStatuses : Option (List ContainerStatus)
  initContainerStatuses : Option (List ContainerStatus)
  deriving DecidableEq, Inhabited

instance : Wire PodStatus where
  read? j := do
    let m ← j.members?
    return {
      containerStatuses := ← m.optional "containerStatuses"
      initContainerStatuses := ← m.optional "initContainerStatuses" }
  write s := .record [
    optionalField "containerStatuses" s.containerStatuses,
    optionalField "initContainerStatuses" s.initContainerStatuses]

structure Pod where
  metadata : Metadata
  status : Option PodStatus
  deriving DecidableEq, Inhabited

instance : Wire Pod where
  read? j := do
    let m ← j.members?
    return { metadata := ← m.orDefault "metadata" .empty, status := ← m.optional "status" }
  write p := .record [
    field "apiVersion" ResourceKind.pod.apiVersion,
    field "kind" ResourceKind.pod.text,
    field "metadata" p.metadata,
    optionalField "status" p.status]

structure Node where
  metadata : Metadata
  deriving DecidableEq, Inhabited

instance : Wire Node where
  read? j := do
    let m ← j.members?
    return { metadata := ← m.orDefault "metadata" .empty }
  write n := .record [
    field "apiVersion" ResourceKind.node.apiVersion,
    field "kind" ResourceKind.node.text,
    field "metadata" n.metadata]

end InferenceReconciler
