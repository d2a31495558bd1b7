import InferenceReconciler.Proofs.ByteOrder
import InferenceReconciler.Proofs.LayeredSettings
import InferenceReconciler.Proofs.Ownership

/-!
# The environment of a runtime

The serving container gets the variables of the service, of the template and its profile, of the
model, of the configurations below the service, and those that every runtime has. A variable that
several of them set has the value of the first in this order. The service also stands in the
merged configuration, lower than the model, where it has no say left.
-/

namespace InferenceReconciler

/-- Variables collected from several sources, an earlier source winning, in the order of the bytes
of their names. -/
structure CollectedFrom (env : List EnvVar) (sources : List (List EnvVar)) : Prop where
  increasing : (variableNames env).Pairwise fun a b => utf8Bytes a < utf8Bytes b
  distinct : (variableNames env).Nodup
  names : ∀ name, name ∈ variableNames env ↔ ∃ source ∈ sources, name ∈ variableNames source
  values : ∀ v ∈ env, sources.findSome? (lastValue? v.name) = some v.value

theorem collectedFrom_mergeEnv {layers sources : List (List EnvVar)}
    (h : ∀ name, layers.reverse.findSome? (lastValue? name) =
      sources.findSome? (lastValue? name)) :
    CollectedFrom (mergeEnv layers) sources := by
  have hincreasing := variableNames_mergeEnv layers
  have hdistinct : (variableNames (mergeEnv layers)).Nodup :=
    hincreasing.imp fun hlt => String.ne_of_lt hlt
  constructor
  case increasing => exact hincreasing.imp utf8Bytes_lt_iff.2
  case distinct => exact hdistinct
  case names =>
    intro name
    rw [← isSome_lastValue?_iff, lastValue?_mergeEnv, h, List.findSome?_isSome_iff]
    simp only [isSome_lastValue?_iff]
  case values =>
    intro v hv
    rw [← h, ← lastValue?_mergeEnv]
    exact lastValue?_of_mem hdistinct hv

/-- Where the variables of a runtime come from besides those that every runtime has, the highest
first. -/
def envSources (service : ServiceSpec) (model : ModelRecord) (template : TemplateRecord)
    (cluster ofNamespace : Option RuntimeConfigSpec) : List (List EnvVar) :=
  [service.env, profileEnv template, template.spec.env, model.spec.env, layerEnv ofNamespace,
    layerEnv cluster]

section

variable (service : ServiceSpec) (model : ModelRecord) (template : TemplateRecord)
  (cluster ofNamespace : Option RuntimeConfigSpec) (headroom : UInt32)

/-- The merged configuration has the variables of the service once more, but below it. -/
theorem findSome?_runtimeLayers (name : String) :
    [systemEnv model template,
        (mergeConfig cluster ofNamespace (some service.configLayer)).env, model.spec.env,
        template.spec.env, profileEnv template, service.env].reverse.findSome?
          (lastValue? name) =
      (envSources service model template cluster ofNamespace ++
        [systemEnv model template]).findSome? (lastValue? name) := by
  let upper := [service.env, profileEnv template, template.spec.env, model.spec.env]
  let lower := [layerEnv ofNamespace, layerEnv cluster]
  have hmerged :
      lastValue? name (mergeConfig cluster ofNamespace (some service.configLayer)).env =
        (lastValue? name service.env).or (lower.findSome? (lastValue? name)) := by
    have hlayer : layerEnv (some service.configLayer) = service.env := rfl
    rw [lastValue?_mergeConfig, hlayer, List.findSome?_cons, List.findSome?_singleton]
    cases lastValue? name service.env <;> cases lastValue? name (layerEnv ofNamespace) <;> rfl
  change (upper ++ [(mergeConfig cluster ofNamespace (some service.configLayer)).env] ++
      [systemEnv model template]).findSome? (lastValue? name) =
    (upper ++ lower ++ [systemEnv model template]).findSome? (lastValue? name)
  rw [List.findSome?_append, List.findSome?_append, List.findSome?_append, List.findSome?_append,
    List.findSome?_singleton, hmerged]
  cases hservice : lastValue? name service.env with
  | some value =>
    have hupper : upper.findSome? (lastValue? name) = some value := by
      rw [List.findSome?_cons, hservice]
    rw [hupper]
    rfl
  | none => rfl

theorem collectedFrom_runtimeEnv :
    CollectedFrom
      (runtimeEnv service model template
        ⟨mergeConfig cluster ofNamespace (some service.configLayer), headroom⟩)
      (envSources service model template cluster ofNamespace ++ [systemEnv model template]) :=
  collectedFrom_mergeEnv (findSome?_runtimeLayers service model template cluster ofNamespace)

theorem systemEnv_eq :
    systemEnv model template = ⟨"VLLM_ENABLE_METRICS", "true"⟩ ::
      ((templateSources template (some model)).head?.map fun s =>
        ⟨"AIM_MODEL_ID", s.sourceUri⟩).toList := by
  unfold systemEnv templateSources
  cases template.status.modelSources <;> cases template.spec.modelSources <;> rfl

theorem lastValue?_modelId_systemEnv :
    lastValue? "AIM_MODEL_ID" (systemEnv model template) =
      (templateSources template (some model)).head?.map (·.sourceUri) := by
  rw [systemEnv_eq]
  cases (templateSources template (some model)).head? <;> rfl

end

/-- The serving container has every variable once, in the order of the bytes of the names, with
the value of the highest source that sets it. Unless a source names the model, the first weights
do. -/
theorem serving_env_collected {service : ServiceObject} {name : String} {model : ModelRecord}
    {template : TemplateRecord} {caching : CachingObservation}
    {cluster ofNamespace : Option RuntimeConfigSpec} {headroom : UInt32} {policy : Policy}
    {runtime : InferenceService}
    (h : runtimeFor service name model template caching
      ⟨mergeConfig cluster ofNamespace (some service.spec.configLayer), headroom⟩ policy =
        .ok runtime) :
    let sources := envSources service.spec model template cluster ofNamespace
    ∃ container env, runtime.spec.predictor.containers = [container] ∧
      container.name = servingContainer ∧
      container.env = some (env.map fun v => { name := v.name, value := some v.value }) ∧
      CollectedFrom env (sources ++ [systemEnv model template]) ∧
      lastValue? "AIM_MODEL_ID" env =
        (sources.findSome? (lastValue? "AIM_MODEL_ID") <|>
          (templateSources template (some model)).head?.map (·.sourceUri)) := by
  intro sources
  obtain ⟨container, hcontainers, hserving, henv⟩ := env_of_runtimeFor h
  refine ⟨container, _, hcontainers, hserving, henv,
    collectedFrom_runtimeEnv service.spec model template cluster ofNamespace headroom, ?_⟩
  unfold runtimeEnv
  rw [lastValue?_mergeEnv, findSome?_runtimeLayers, List.findSome?_append,
    List.findSome?_singleton, lastValue?_modelId_systemEnv]
  cases (envSources service.spec model template cluster ofNamespace).findSome?
    (lastValue? "AIM_MODEL_ID") <;> rfl

def loggingService : ServiceObject :=
  { cachedService with
    spec := { cachedService.spec with env := [⟨"LOG", "info"⟩, ⟨"LOG", "warn"⟩] } }

def weighedTemplate : TemplateObject :=
  { cachedTemplate with
    spec := { cachedTemplate.spec with modelSources := [⟨"weights", "hf://llama", none⟩] } }

theorem serving_env_of_service_and_weights :
    ∃ runtime container env,
      runtimeFor loggingService "chat" (.ofObject .cluster cachedModel)
          (.ofObject .cluster weighedTemplate)
          (observe loggingService cachedSnapshot Policy.standard).caching
          ⟨mergeConfig (some ⟨none, none, [⟨"LOG", "debug"⟩]⟩) none
            (some loggingService.spec.configLayer), 10⟩ Policy.standard = .ok runtime ∧
        runtime.spec.predictor.containers = [container] ∧
        container.env = some (env.map fun v => { name := v.name, value := some v.value }) ∧
        ⟨"LOG", "warn"⟩ ∈ env ∧ lastValue? "AIM_MODEL_ID" env = some "hf://llama" := by
  have hscales : (runtimeResources loggingService.spec (.ofObject .cluster weighedTemplate)
      Policy.standard).isOk = true := by decide +kernel
  obtain ⟨runtime, hbuilt⟩ := Observation.exists_runtimeFor hscales "chat"
    (.ofObject .cluster cachedModel)
    (observe loggingService cachedSnapshot Policy.standard).caching
    ⟨mergeConfig (some ⟨none, none, [⟨"LOG", "debug"⟩]⟩) none
      (some loggingService.spec.configLayer), 10⟩
  obtain ⟨container, env, hcontainers, -, henv, hcollected, hmodel⟩ :=
    serving_env_collected hbuilt
  refine ⟨runtime, container, env, hbuilt, hcontainers, henv, ?_, ?_⟩
  · obtain ⟨⟨name, value⟩, hv, rfl⟩ :=
      List.mem_map.1 ((hcollected.names "LOG").2 (by decide +kernel))
    have hvalue : some "warn" = some value :=
      (by decide +kernel : some "warn" = List.findSome? (lastValue? "LOG") _).trans
        (hcollected.values _ hv)
    cases hvalue
    exact hv
  · rw [hmodel]
    decide +kernel

end InferenceReconciler
