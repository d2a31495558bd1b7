import InferenceReconciler.RouteResolution
import InferenceReconciler.RuntimeGate
import InferenceReconciler.ServiceSnapshot
import InferenceReconciler.StatusProjection
import InferenceReconciler.StorageProjection

/-!
# Observation of a service

The decisions of all domains in one pass. They are taken in the order of the domains,
and each one sees only what was decided before it.
-/

namespace InferenceReconciler

structure Observation where
  config : ConfigObservation
  model : ModelObservation
  template : TemplateObservation
  caching : CachingObservation
  runtime : RuntimeObservation
  route : RouteObservation

def observe (service : ServiceObject) (snapshot : Snapshot) (policy : Policy) : Observation :=
  let config := observeConfig service snapshot.configs policy
  let model := observeModel service snapshot.models.records
  let template := observeTemplate service model.ready? snapshot.templates.records snapshot.gpus
  let caching := observeCaching service template.ready? model.resolved snapshot.caches
    config.effective config.intent policy
  { config
    model
    template
    caching
    runtime := observeRuntime service model.resolved template.resolved? caching
      snapshot.runtime snapshot.pods
    route := observeRoute service config.effective snapshot.route policy }

namespace Observation

def projections (o : Observation) (prior : ServiceStatus) : List Projection :=
  [o.config.project, o.model.project, o.template.project, o.caching.projectCaching prior.cache,
    o.caching.projectStorage, o.runtime.project, o.route.project]

def project (o : Observation) (now : Timestamp) (service : ServiceObject) : ProjectedStatus :=
  let prior := service.status.getD .initial
  reduceStatus now prior (o.projections prior) o.runtime.exists service.metadata.generation

end Observation

def phaseText (status : Option ServiceStatus) : String :=
  (status.map fun s => s.status.text).getD "Unknown"

@[simp] theorem phaseText_some (s : ServiceStatus) : phaseText (some s) = s.status.text := rfl

end InferenceReconciler
