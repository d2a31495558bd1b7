import InferenceReconciler.SpecFields

/-!
# Models

The serving image of a model and the weight sources behind it. Records are shared: they
have no owner and outlive any service.
-/

namespace InferenceReconciler

structure ModelSpec where
  image : String
  /-- Empty when the image holds the weights. -/
  modelSources : List ModelSource
  runtimeConfigName : Option String
  imagePullSecrets : List SecretReference
  env : List EnvVar
  serviceAccountName : Option String
  deriving DecidableEq, Inhabited

namespace ModelSpec

def ofImage (image : String) : ModelSpec := ⟨image, [], none, [], [], none⟩

instance : Wire ModelSpec where
  read? j := do
    let m ← j.fields? ["image", "modelSources", "runtimeConfigName", "imagePullSecrets", "env",
      "serviceAccountName"]
    return {
      image := ← m.required "image"
      modelSources := ← m.orElse "modelSources" []
      runtimeConfigName := ← m.optional "runtimeConfigName"
      imagePullSecrets := ← m.orElse "imagePullSecrets" []
      env := ← m.orElse "env" []
      serviceAccountName := ← m.optional "serviceAccountName" }
  write s := .record [
    listField "env" s.env,
    field "image" s.image,
    listField "imagePullSecrets" s.imagePullSecrets,
    listField "modelSources" s.modelSources,
    optionalField "runtimeConfigName" s.runtimeConfigName,
    optionalField "serviceAccountName" s.serviceAccountName]

end ModelSpec

/-- The status of an object of which only its lifecycle is reported. -/
structure StatusReport where
  status : LifecycleStatus
  deriving DecidableEq, Repr, Inhabited

instance : Wire StatusReport where
  read? j := do
    let m ← j.fields? ["status"]
    return { status := ← m.orElse "status" .pending }
  write s := .record [field "status" s.status]

end InferenceReconciler
