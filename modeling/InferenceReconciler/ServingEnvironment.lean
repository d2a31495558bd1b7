import InferenceReconciler.ConfigResolution
import InferenceReconciler.ModelResolution
import InferenceReconciler.TemplateRecord

/-!
# Environment of a runtime

The variables of all layers in one list, each name once and in increasing order. A later
layer wins over the ones before it, and so does a later variable of one layer.
-/

namespace InferenceReconciler

def mergeEnv (layers : List (List EnvVar)) : List EnvVar :=
  (Dict.ofList ((layers.flatMap id).map fun v => (v.name, v.value))).entries.map fun e =>
    ⟨e.1, e.2⟩

/-- The variables every runtime has; the first weight source names the model. -/
def systemEnv (model : ModelRecord) (template : TemplateRecord) : List EnvVar :=
  let source := template.status.modelSources.head? <|> template.spec.modelSources.head? <|>
    model.spec.modelSources.head?
  ⟨"VLLM_ENABLE_METRICS", "true"⟩ ::
    (source.map fun s => (⟨"AIM_MODEL_ID", s.sourceUri⟩ : EnvVar)).toList

def profileEnv (template : TemplateRecord) : List EnvVar :=
  match template.status.profile with
  | some p => p.envVars.entries.map fun e => ⟨e.1, e.2⟩
  | none => []

def runtimeEnv (service : ServiceSpec) (model : ModelRecord) (template : TemplateRecord)
    (config : EffectiveConfig) : List EnvVar :=
  mergeEnv [systemEnv model template, config.spec.env, model.spec.env, template.spec.env,
    profileEnv template, service.env]

@[simp] theorem mergeEnv_nil : mergeEnv [] = [] := rfl

end InferenceReconciler
