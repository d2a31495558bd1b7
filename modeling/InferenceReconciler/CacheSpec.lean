import InferenceReconciler.SpecFields

/-!
# Weight caches

A template cache downloads every weight source of a template to shared volumes before a
service needs them; it stands for one model cache to each source.
-/

namespace InferenceReconciler

structure TemplateCacheSpec where
  templateName : String
  templateScope : ResourceScope
  storageClassName : Option String
  env : List EnvVar
  deriving DecidableEq, Inhabited

instance : Wire TemplateCacheSpec where
  read? j := do
    let m ← j.fields? ["templateName", "templateScope", "storageClassName", "env"]
    return {
      templateName := ← m.required "templateName"
      templateScope := ← m.orElse "templateScope" .namespaced
      storageClassName := ← m.optional "storageClassName"
      env := ← m.orElse "env" [] }
  write s := .record [
    listField "env" s.env,
    optionalField "storageClassName" s.storageClassName,
    field "templateName" s.templateName,
    field "templateScope" s.templateScope]

structure ModelCacheStatus where
  status : LifecycleStatus
  /-- The claim that holds the weights. -/
  persistentVolumeClaim : Option String
  deriving DecidableEq, Repr, Inhabited

instance : Wire ModelCacheStatus where
  read? j := do
    let m ← j.fields? ["status", "persistentVolumeClaim"]
    return {
      status := ← m.orElse "status" .pending
      persistentVolumeClaim := ← m.optional "persistentVolumeClaim" }
  write s := .record [
    optionalField "persistentVolumeClaim" s.persistentVolumeClaim,
    field "status" s.status]

structure ModelCacheSpec where
  sourceUri : String
  size : String
  storageClassName : Option String
  deriving DecidableEq, Repr, Inhabited

instance : Wire ModelCacheSpec where
  read? j := do
    let m ← j.fields? ["sourceUri", "size", "storageClassName"]
    return {
      sourceUri := ← m.required "sourceUri"
      size := ← m.required "size"
      storageClassName := ← m.optional "storageClassName" }
  write s := .record [
    field "size" s.size,
    field "sourceUri" s.sourceUri,
    optionalField "storageClassName" s.storageClassName]

end InferenceReconciler
