import InferenceReconciler.Lifecycle

/-!
# Fields shared by specifications

The records that more than one kind of object holds: variables, resources, secrets,
weight sources, GPU requirements, overrides of a template, and references to an object
another one was resolved to.
-/

namespace InferenceReconciler

/-- An environment variable with a literal value. -/
structure EnvVar where
  name : String
  value : String
  deriving DecidableEq, Repr, Inhabited

instance : Wire EnvVar where
  read? j := do
    let m ← j.fields? ["name", "value"]
    return { name := ← m.required "name", value := ← m.orElse "value" "" }
  write v := .record [field "name" v.name, field "value" v.value]

/-- Requested resources and their limits, quantities as texts. -/
structure ResourceRequirements where
  requests : Dict String
  limits : Dict String
  deriving DecidableEq

namespace ResourceRequirements

instance : Inhabited ResourceRequirements := ⟨⟨{}, {}⟩⟩

def isEmpty (r : ResourceRequirements) : Bool := r.requests.isEmpty && r.limits.isEmpty

instance : Wire ResourceRequirements where
  read? j := do
    let m ← j.fields? ["requests", "limits"]
    return { requests := ← m.orElse "requests" {}, limits := ← m.orElse "limits" {} }
  write r := .record [dictField "limits" r.limits, dictField "requests" r.requests]

end ResourceRequirements

/-- A secret of the same namespace. -/
structure SecretReference where
  name : String
  deriving DecidableEq, Repr, Inhabited

instance : Wire SecretReference where
  read? j := do
    let m ← j.fields? ["name"]
    return { name := ← m.required "name" }
  write s := .record [field "name" s.name]

/-- One weight source of a model; its name is the directory it is mounted in. -/
structure ModelSource where
  name : String
  sourceUri : String
  size : Option String
  deriving DecidableEq, Repr, Inhabited

instance : Wire ModelSource where
  read? j := do
    let m ← j.fields? ["name", "sourceUri", "size"]
    return {
      name := ← m.required "name"
      sourceUri := ← m.required "sourceUri"
      size := ← m.optional "size" }
  write s := .record [
    field "name" s.name,
    optionalField "size" s.size,
    field "sourceUri" s.sourceUri]

structure GpuSelector where
  model : Option String
  /-- Devices for each replica. -/
  count : Option UInt32
  resourceName : Option String
  deriving DecidableEq, Inhabited

namespace GpuSelector

def isEmpty (g : GpuSelector) : Bool :=
  g.model.isNone && g.count.isNone && g.resourceName.isNone

instance : Wire GpuSelector where
  read? j := do
    let m ← j.fields? ["model", "count", "resourceName"]
    return {
      model := ← m.optional "model"
      count := ← m.optional "count"
      resourceName := ← m.optional "resourceName" }
  write g := .record [
    optionalField "count" g.count,
    optionalField "model" g.model,
    optionalField "resourceName" g.resourceName]

end GpuSelector

/-- What a service asks for on top of a template. -/
structure TemplateOverrides where
  metric : Option String
  precision : Option String
  gpuSelector : Option GpuSelector
  deriving DecidableEq, Inhabited

namespace TemplateOverrides

/-- Whether no field of it asks for anything. -/
def isEmpty (o : TemplateOverrides) : Bool :=
  o.metric.isNone && o.precision.isNone && o.gpuSelector.all GpuSelector.isEmpty

instance : Wire TemplateOverrides where
  read? j := do
    let m ← j.fields? ["metric", "precision", "gpuSelector"]
    return {
      metric := ← m.optional "metric"
      precision := ← m.optional "precision"
      gpuSelector := ← m.optional "gpuSelector" }
  write o := .record [
    optionalField "gpuSelector" o.gpuSelector,
    optionalField "metric" o.metric,
    optionalField "precision" o.precision]

end TemplateOverrides

/-- An object that a service was resolved to; one of the cluster has no namespace. -/
structure ResolvedReference where
  name : String
  «namespace» : Option String
  scope : ResourceScope
  uid : Option String
  deriving DecidableEq, Repr, Inhabited

instance : Wire ResolvedReference where
  read? j := do
    let m ← j.fields? ["name", "namespace", "scope", "uid"]
    return {
      name := ← m.required "name"
      «namespace» := ← m.optional "namespace"
      scope := ← m.required "scope"
      uid := ← m.optional "uid" }
  write r := .record [
    field "name" r.name,
    optionalField "namespace" r.namespace,
    field "scope" r.scope,
    optionalField "uid" r.uid]

end InferenceReconciler
