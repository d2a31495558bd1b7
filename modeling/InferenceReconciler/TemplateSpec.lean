import InferenceReconciler.SpecFields

/-!
# Serving templates

A tested serving profile of one model: GPUs, precision, metric, resources and
environment. The status holds the weight sources with the sizes that were discovered.
-/

namespace InferenceReconciler

structure TemplateCachingConfig where
  /-- Whether a shared cache is filled before any service asks. -/
  enabled : Bool
  env : List EnvVar
  deriving DecidableEq, Inhabited

instance : Wire TemplateCachingConfig where
  read? j := do
    let m ← j.fields? ["enabled", "env"]
    return { enabled := ← m.orElse "enabled" false, env := ← m.orElse "env" [] }
  write c := .record [field "enabled" c.enabled, listField "env" c.env]

/-- What a discovered profile says of itself. -/
structure ProfileMetadata where
  gpu : Option String
  gpuCount : Option UInt32
  metric : Option String
  precision : Option String
  /-- How far tuning has come. -/
  type : Option String
  deriving DecidableEq

namespace ProfileMetadata

def empty : ProfileMetadata := ⟨none, none, none, none, none⟩

instance : Inhabited ProfileMetadata := ⟨empty⟩

instance : Wire ProfileMetadata where
  read? j := do
    let m ← j.fields? ["gpu", "gpuCount", "metric", "precision", "type"]
    return {
      gpu := ← m.optional "gpu"
      gpuCount := ← m.optional "gpuCount"
      metric := ← m.optional "metric"
      precision := ← m.optional "precision"
      type := ← m.optional "type" }
  write p := .record [
    optionalField "gpu" p.gpu,
    optionalField "gpuCount" p.gpuCount,
    optionalField "metric" p.metric,
    optionalField "precision" p.precision,
    optionalField "type" p.type]

end ProfileMetadata

structure TemplateProfile where
  envVars : Dict String
  metadata : ProfileMetadata
  deriving DecidableEq

namespace TemplateProfile

instance : Inhabited TemplateProfile := ⟨⟨{}, .empty⟩⟩

instance : Wire TemplateProfile where
  read? j := do
    let m ← j.fields? ["envVars", "metadata"]
    return {
      envVars := ← m.orElse "envVars" {}
      metadata := ← m.orElse "metadata" .empty }
  write p := .record [dictField "envVars" p.envVars, field "metadata" p.metadata]

end TemplateProfile

structure TemplateStatus where
  status : LifecycleStatus
  modelSources : List ModelSource
  profile : Option TemplateProfile
  deriving DecidableEq, Inhabited

instance : Wire TemplateStatus where
  read? j := do
    let m ← j.fields? ["status", "modelSources", "profile"]
    return {
      status := ← m.orElse "status" .pending
      modelSources := ← m.orElse "modelSources" []
      profile := ← m.optional "profile" }
  write s := .record [
    listField "modelSources" s.modelSources,
    optionalField "profile" s.profile,
    field "status" s.status]

structure TemplateSpec where
  modelName : String
  metric : Option String
  precision : Option String
  gpuSelector : Option GpuSelector
  /-- Explicit resources stand in place of the defaults for each GPU. -/
  resources : Option ResourceRequirements
  env : List EnvVar
  /-- Weight sources known before discovery. -/
  modelSources : List ModelSource
  caching : Option TemplateCachingConfig
  imagePullSecrets : List SecretReference
  deriving DecidableEq

namespace TemplateSpec

def empty : TemplateSpec := ⟨"", none, none, none, none, [], [], none, []⟩

instance : Inhabited TemplateSpec := ⟨empty⟩

/-- GPUs for each replica, one unless the template says. -/
def gpuCount (s : TemplateSpec) : UInt32 := (s.gpuSelector.bind (·.count)).getD 1

def gpuModel? (s : TemplateSpec) : Option String := s.gpuSelector.bind (·.model)

instance : Wire TemplateSpec where
  read? j := do
    let m ← j.fields? ["modelName", "metric", "precision", "gpuSelector", "resources", "env",
      "modelSources", "caching", "imagePullSecrets"]
    return {
      modelName := ← m.required "modelName"
      metric := ← m.optional "metric"
      precision := ← m.optional "precision"
      gpuSelector := ← m.optional "gpuSelector"
      resources := ← m.optional "resources"
      env := ← m.orElse "env" []
      modelSources := ← m.orElse "modelSources" []
      caching := ← m.optional "caching"
      imagePullSecrets := ← m.orElse "imagePullSecrets" [] }
  write s := .record [
    optionalField "caching" s.caching,
    listField "env" s.env,
    optionalField "gpuSelector" s.gpuSelector,
    listField "imagePullSecrets" s.imagePullSecrets,
    optionalField "metric" s.metric,
    field "modelName" s.modelName,
    listField "modelSources" s.modelSources,
    optionalField "precision" s.precision,
    optionalField "resources" s.resources]

end TemplateSpec

end InferenceReconciler
