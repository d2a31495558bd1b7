import InferenceReconciler.ByteQuantity
import InferenceReconciler.CustomObject
import InferenceReconciler.GpuModel
import InferenceReconciler.PodFields
import InferenceReconciler.Policy
import InferenceReconciler.TemplateRecord

/-!
# Resources and placement of a runtime

How many GPUs a replica gets, the resources that go with them and the nodes that have
them. Explicit resources stand as they are but for the GPUs, which they must name on
both sides.
-/

namespace InferenceReconciler

def gpuResourceName (template : TemplateRecord) (policy : Policy) : String :=
  (filledIn? (template.spec.gpuSelector.bind (·.resourceName))).getD policy.gpuResourceName

/-- The count that was discovered, unless it is zero, else that of the specification. -/
def runtimeGpuCount (template : TemplateRecord) : UInt32 :=
  ((template.profile?.bind (·.gpuCount)).filter fun n => 0 < n).getD template.spec.gpuCount

def runtimeGpuModel? (template : TemplateRecord) : Option String :=
  filledIn? (template.spec.gpuModel? <|> template.profile?.bind (·.gpu))

def defaultResources (gpus : UInt32) (gpuResource : String) (policy : Policy) :
    Except Fault ResourceRequirements := do
  let n := gpus.toNat
  let cpu ← scaleQuantity policy.cpuPerGpu n
  let memory ← scaleQuantity policy.memoryRequestPerGpu n
  let memoryLimit ← scaleQuantity policy.memoryLimitPerGpu n
  return {
    requests := .ofList [("cpu", cpu), ("memory", memory), (gpuResource, toString n)]
    limits := .ofList [("memory", memoryLimit), (gpuResource, toString n)] }

/-- The service's own resources, else the template's; empty ones count as absent. -/
def explicitResources? (service : ServiceSpec) (template : TemplateSpec) :
    Option ResourceRequirements :=
  (service.resources.filter fun r => !r.isEmpty) <|>
    template.resources.filter fun r => !r.isEmpty

/-- The resources with so many GPUs on each side that does not name them. -/
def ResourceRequirements.withGpus (r : ResourceRequirements) (gpuResource : String)
    (gpus : UInt32) : ResourceRequirements where
  requests := r.requests.insertIfNew gpuResource (toString gpus.toNat)
  limits := r.limits.insertIfNew gpuResource (toString gpus.toNat)

def runtimeResources (service : ServiceSpec) (template : TemplateRecord) (policy : Policy) :
    Except Fault ResourceRequirements :=
  let gpuResource := gpuResourceName template policy
  let gpus := runtimeGpuCount template
  match explicitResources? service template.spec with
  | some r => .ok (r.withGpus gpuResource gpus)
  | none => defaultResources gpus gpuResource policy

/-- The resources as they stand in a container, an empty side left out. -/
def ResourceRequirements.inContainer (r : ResourceRequirements) : PodFields.Resources where
  limits := if r.limits.isEmpty then none else some r.limits
  requests := if r.requests.isEmpty then none else some r.requests

/-- The nodes with devices of the model, by device where they are known and by product
where they are not. -/
def gpuAffinity (model : String) : PodFields.Affinity :=
  match GpuModel.deviceIds model with
  | [] => .ofLabel GpuModel.productLabel [GpuModel.canonical model]
  | ids => .ofLabel GpuModel.deviceIdLabel ids

end InferenceReconciler
