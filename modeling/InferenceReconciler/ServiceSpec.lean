import InferenceReconciler.RuntimeConfigSpec

/-!
# Services

What a service asks for: a model by record, by image or described in place, perhaps a
template, how its weights are cached and how it is exposed.
-/

namespace InferenceReconciler

/-- A model described in the service itself. -/
structure CustomModel where
  /-- A serving image that downloads the weights. -/
  baseImage : String
  modelSources : List ModelSource
  gpuSelector : Option GpuSelector
  deriving DecidableEq, Inhabited

instance : Wire CustomModel where
  read? j := do
    let m ← j.fields? ["baseImage", "modelSources", "gpuSelector"]
    return {
      baseImage := ← m.required "baseImage"
      modelSources := ← m.required "modelSources"
      gpuSelector := ← m.optional "gpuSelector" }
  write c := .record [
    field "baseImage" c.baseImage,
    optionalField "gpuSelector" c.gpuSelector,
    field "modelSources" c.modelSources]

/-- Which model a service runs; exactly one field of it is to be set. -/
structure ServiceModel where
  ref : Option String
  image : Option String
  custom : Option CustomModel
  deriving DecidableEq, Inhabited

instance : Wire ServiceModel where
  read? j := do
    let m ← j.fields? ["ref", "image", "custom"]
    return {
      ref := ← m.optional "ref"
      image := ← m.optional "image"
      custom := ← m.optional "custom" }
  write s := .record [
    optionalField "custom" s.custom,
    optionalField "image" s.image,
    optionalField "ref" s.ref]

structure ServiceCachingConfig where
  mode : Option String
  deriving DecidableEq, Repr, Inhabited

instance : Wire ServiceCachingConfig where
  read? j := do
    let m ← j.fields? ["mode"]
    return { mode := ← m.optional "mode" }
  write c := .record [optionalField "mode" c.mode]

structure ServiceSpec where
  model : ServiceModel
  /-- A named template; without one the best is chosen. -/
  templateName : Option String
  overrides : Option TemplateOverrides
  caching : Option ServiceCachingConfig
  /-- The older switch for caching. -/
  cacheModel : Option Bool
  replicas : Option Int32
  runtimeConfigName : Option String
  storage : Option StorageConfig
  routing : Option RoutingConfig
  resources : Option ResourceRequirements
  env : List EnvVar
  imagePullSecrets : List SecretReference
  serviceAccountName : Option String
  deriving DecidableEq, Inhabited

namespace ServiceSpec

def defaultConfigName : String := "default"

/-- The runtime configuration of the service; an empty name counts as none. -/
def configName (s : ServiceSpec) : String :=
  (s.runtimeConfigName.filter fun n => !n.isEmpty).getD defaultConfigName

/-- The overrides, if any field of them asks for anything. -/
def effectiveOverrides (s : ServiceSpec) : Option TemplateOverrides :=
  s.overrides.filter fun o => !o.isEmpty

instance : Wire ServiceSpec where
  read? j := do
    let m ← j.fields? ["model", "templateName", "overrides", "caching", "cacheModel", "replicas",
      "runtimeConfigName", "storage", "routing", "resources", "env", "imagePullSecrets",
      "serviceAccountName"]
    return {
      model := ← m.required "model"
      templateName := ← m.optional "templateName"
      overrides := ← m.optional "overrides"
      caching := ← m.optional "caching"
      cacheModel := ← m.optional "cacheModel"
      replicas := ← m.optional "replicas"
      runtimeConfigName := ← m.optional "runtimeConfigName"
      storage := ← m.optional "storage"
      routing := ← m.optional "routing"
      resources := ← m.optional "resources"
      env := ← m.orElse "env" []
      imagePullSecrets := ← m.orElse "imagePullSecrets" []
      serviceAccountName := ← m.optional "serviceAccountName" }
  write s := .record [
    optionalField "cacheModel" s.cacheModel,
    optionalField "caching" s.caching,
    listField "env" s.env,
    listField "imagePullSecrets" s.imagePullSecrets,
    field "model" s.model,
    optionalField "overrides" s.overrides,
    optionalField "replicas" s.replicas,
    optionalField "resources" s.resources,
    optionalField "routing" s.routing,
    optionalField "runtimeConfigName" s.runtimeConfigName,
    optionalField "serviceAccountName" s.serviceAccountName,
    optionalField "storage" s.storage,
    optionalField "templateName" s.templateName]

end ServiceSpec

end InferenceReconciler
