import InferenceReconciler.Condition
import InferenceReconciler.SpecFields

/-!
# Status of a service

What the last pass found out: the phase, a condition for each domain, and references to
the objects in use, each written once the object was ready.
-/

namespace InferenceReconciler

structure ServiceCacheStatus where
  templateCacheRef : Option ResolvedReference
  /-- How often a failed cache was made anew. -/
  retryAttempts : UInt32
  deriving DecidableEq, Inhabited

instance : Wire ServiceCacheStatus where
  read? j := do
    let m ← j.fields? ["templateCacheRef", "retryAttempts"]
    return {
      templateCacheRef := ← m.optional "templateCacheRef"
      retryAttempts := ← m.orElse "retryAttempts" 0 }
  write c := .record [
    field "retryAttempts" c.retryAttempts,
    optionalField "templateCacheRef" c.templateCacheRef]

structure ServiceRoutingStatus where
  /-- The path under which the service answers. -/
  path : Option String
  deriving DecidableEq, Repr, Inhabited

instance : Wire ServiceRoutingStatus where
  read? j := do
    let m ← j.fields? ["path"]
    return { path := ← m.optional "path" }
  write r := .record [optionalField "path" r.path]

structure ServiceStatus where
  status : ServicePhase
  conditions : List Condition
  resolvedRuntimeConfig : Option ResolvedReference
  resolvedModel : Option ResolvedReference
  resolvedTemplate : Option ResolvedReference
  cache : Option ServiceCacheStatus
  routing : Option ServiceRoutingStatus
  observedGeneration : Option Int64
  deriving DecidableEq, Inhabited

namespace ServiceStatus

/-- The status of a service that no pass has seen. -/
def initial : ServiceStatus := ⟨.pending, [], none, none, none, none, none, none⟩

def condition? (s : ServiceStatus) (type : String) : Option Condition :=
  s.conditions.find? fun c => c.type = type

def retryAttempts (s : ServiceStatus) : UInt32 := (s.cache.map (·.retryAttempts)).getD 0

instance : Wire ServiceStatus where
  read? j := do
    let m ← j.fields? ["status", "conditions", "resolvedRuntimeConfig", "resolvedModel",
      "resolvedTemplate", "cache", "routing", "observedGeneration"]
    return {
      status := ← m.orElse "status" .pending
      conditions := ← m.orElse "conditions" []
      resolvedRuntimeConfig := ← m.optional "resolvedRuntimeConfig"
      resolvedModel := ← m.optional "resolvedModel"
      resolvedTemplate := ← m.optional "resolvedTemplate"
      cache := ← m.optional "cache"
      routing := ← m.optional "routing"
      observedGeneration := ← m.optional "observedGeneration" }
  write s := .record [
    optionalField "cache" s.cache,
    listField "conditions" s.conditions,
    optionalField "observedGeneration" s.observedGeneration,
    optionalField "resolvedModel" s.resolvedModel,
    optionalField "resolvedRuntimeConfig" s.resolvedRuntimeConfig,
    optionalField "resolvedTemplate" s.resolvedTemplate,
    optionalField "routing" s.routing,
    field "status" s.status]

end ServiceStatus

end InferenceReconciler
