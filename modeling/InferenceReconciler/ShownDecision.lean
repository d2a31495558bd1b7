import InferenceReconciler.ServiceObservation

/-!
# Decisions as records

Every decision of a pass as a JSON record with all its fields, for a reader who wants to
see why a service is where it is. A field without a value is `null`.
-/

namespace InferenceReconciler

def shownOption {α : Type} [Wire α] (a : Option α) : Json := Json.ofOption Wire.write a

def shownTexts (l : List String) : Json := .arr (l.map .str)

def Dependency.text : Dependency → String
  | provided => "Upstream"
  | managed => "Downstream"
  | validation => "Validation"

def HealthState.text : HealthState → String
  | ready => "Ready"
  | progressing => "Progressing"
  | pending => "Pending"
  | failed => "Failed"
  | notAvailable => "NotAvailable"

def Problem.shown (p : Problem) : Json :=
  .obj [("kind", .str p.kind.text), ("message", .str p.message), ("reason", .str p.reason)]

/-- A decided value, or the problem in its place. -/
def shownOrProblem {α : Type} (toJson : α → Json) : Except Problem α → Json
  | .ok a => toJson a
  | .error p => p.shown

def ComponentHealth.shown (h : ComponentHealth) : Json := .obj [
  ("component", .str h.component.text),
  ("condition", Wire.write h.conditionStatus),
  ("dependency", .str h.dependency.text),
  ("errors", shownTexts h.errors),
  ("message", .str h.message),
  ("reason", .str h.reason),
  ("state", .str h.state.text)]

def StatusUpdate.shown (u : StatusUpdate) : Json := .obj [
  ("cache", shownOption u.cache),
  ("resolvedModel", shownOption u.resolvedModel),
  ("resolvedRuntimeConfig", shownOption u.resolvedRuntimeConfig),
  ("resolvedTemplate", shownOption u.resolvedTemplate),
  ("routing", shownOption u.routing)]

def Projection.shown (p : Projection) : Json := .obj [
  ("blocking", .bool p.blocking),
  ("component", Json.ofOption (fun c => .str c.text) p.report.component?),
  ("health", Json.ofOption ComponentHealth.shown p.report.health?),
  ("update", p.update.shown)]

def ProjectedStatus.shown (p : ProjectedStatus) : Json := .obj [
  ("blockedBy", Json.ofOption (fun c => .str c.text) p.blockedBy),
  ("health", .arr (p.health.map ComponentHealth.shown)),
  ("status", Wire.write p.status)]

def EffectiveConfig.shown (c : EffectiveConfig) : Json := .obj [
  ("gatewayRef", shownOption c.gatewayRef?),
  ("headroomPercent", Wire.write c.headroomPercent),
  ("routingEnabled", .bool c.routingEnabled),
  ("spec", Wire.write c.spec),
  ("storageClass", shownOption c.storageClass?)]

def ConfigObservation.shown (o : ConfigObservation) : Json := .obj [
  ("effective", o.effective.shown),
  ("error", Json.ofOption Problem.shown o.error),
  ("intent", .str o.intent.text),
  ("resolved", shownOption o.resolved)]

def ModelRecord.shown (r : ModelRecord) : Json := .obj [
  ("name", .str r.name),
  ("namespace", shownOption r.namespace),
  ("scope", Wire.write r.scope),
  ("spec", Wire.write r.spec),
  ("status", Wire.write r.status),
  ("uid", shownOption r.uid)]

def ModelObservation.shown (o : ModelObservation) : Json := .obj [
  ("error", Json.ofOption Problem.shown o.error),
  ("needsCreation", .bool o.needsCreation),
  ("ready", .bool o.ready?.isSome),
  ("resolved", Json.ofOption ModelRecord.shown o.resolved),
  ("toCreate", Json.ofOption (CustomObject.write .model) o.toCreate)]

def TemplateRecord.shown (r : TemplateRecord) : Json := .obj [
  ("labels", Wire.write r.labels),
  ("name", .str r.name),
  ("namespace", shownOption r.namespace),
  ("scope", Wire.write r.scope),
  ("spec", Wire.write r.spec),
  ("status", Wire.write r.status),
  ("uid", shownOption r.uid)]

def TemplateOutcome.shown : TemplateOutcome → String × Json
  | .waitingForModel => ("WaitingForModel", .null)
  | .resolved t => ("Resolved", t.shown)
  | .deriving t => ("Deriving", t.write .template)
  | .notReady message => ("NotReady", .str message)
  | .failed p => ("Failed", p.shown)

def TemplateObservation.shown (o : TemplateObservation) : Json := .obj [
  ("outcome", .str o.outcome.shown.1),
  ("ready", .bool o.ready?.isSome),
  ("reused", .bool o.reused),
  ("value", o.outcome.shown.2)]

def SharedCache.shown (c : SharedCache) : Json :=
  .obj [("ref", Wire.write c.reference), ("status", Wire.write c.status)]

def CacheMount.shown (m : CacheMount) : Json :=
  .obj [("claimName", .str m.claimName), ("sourceName", .str m.sourceName)]

def VolumeObservation.shown (v : VolumeObservation) : Json := .obj [
  ("bound", .bool v.bound),
  ("exists", .bool v.exists),
  ("name", .str v.name),
  ("shouldCreate", .bool v.shouldCreate),
  ("sizeGi", shownOrProblem Json.ofNat v.sizeGi)]

def CachingObservation.shown (o : CachingObservation) : Json := .obj [
  ("cache", Json.ofOption SharedCache.shown o.cache),
  ("intent", .str o.intent.text),
  ("mounts", .arr (o.mounts.map CacheMount.shown)),
  ("retryAttempts", Wire.write o.retryAttempts),
  ("retryDeletes", shownTexts o.retryDeletes),
  ("retryExhausted", .bool o.retryExhausted),
  ("shouldCreateCache", .bool o.shouldCreateCache),
  ("storage", Json.ofOption (fun s => .str s.text) o.storage),
  ("storageReady", .bool o.storageReady),
  ("volume", Json.ofOption VolumeObservation.shown o.volume),
  ("volumeInUse", Json.ofOption (fun v => .str v.name) o.volumeInUse?)]

def PullFailure.shown (f : PullFailure) : Json :=
  .obj [("message", .str f.message), ("reason", .str f.reason)]

def RuntimeObservation.shown (o : RuntimeObservation) : Json := .obj [
  ("exists", .bool o.exists),
  ("name", .str o.name),
  ("pullFailure", Json.ofOption PullFailure.shown o.pullFailure),
  ("readyForRuntime", .bool o.isOpen),
  ("waitingOn", shownTexts o.waitingOn)]

def RouteObservation.shown (o : RouteObservation) : Json := .obj [
  ("enabled", .bool o.enabled),
  ("exists", .bool o.existing.isSome),
  ("gateway", shownOption o.gateway),
  ("name", .str o.name),
  ("path", shownOrProblem .str o.path),
  ("plannable", .bool o.plannable?.isSome)]

def Observation.shown (o : Observation) : Json := .obj [
  ("caching", o.caching.shown),
  ("config", o.config.shown),
  ("model", o.model.shown),
  ("routing", o.route.shown),
  ("runtime", o.runtime.shown),
  ("template", o.template.shown)]

end InferenceReconciler
