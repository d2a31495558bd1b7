import InferenceReconciler.InferenceServiceObject
import InferenceReconciler.RouteObject
import InferenceReconciler.WeightStorage

/-!
# Snapshots

Everything a pass knows of the cluster. A snapshot is made of the answers to thirteen
reads. Ten of them are needed to decide anything, and the first of these that failed
fails the snapshot. Pods, nodes and the route only serve to say more, so a failed read
of them counts as an empty one.
-/

namespace InferenceReconciler

structure Snapshot where
  configs : ConfigFetch
  models : ModelFetch
  templates : TemplateFetch
  caches : CacheFetch
  runtime : Option InferenceService
  pods : List Pod
  route : Option RouteObject
  /-- The GPU models on the nodes, in increasing order. -/
  gpus : List String
  deriving Inhabited

/-- The reads of a pass. -/
inductive Read where
  | runtimeConfig
  | clusterRuntimeConfig
  | models
  | clusterModels
  | templates
  | clusterTemplates
  | templateCaches
  | modelCaches
  | volumeClaim
  | runtime
  | pods
  | nodes
  | route
  deriving DecidableEq, Repr, Inhabited

namespace Read

/-- All reads, in the order in which a failed one counts. -/
def all : List Read :=
  [runtimeConfig, clusterRuntimeConfig, models, clusterModels, templates, clusterTemplates,
    templateCaches, modelCaches, volumeClaim, runtime, pods, nodes, route]

/-- Whether nothing can be decided without the answer. -/
def isCore : Read → Bool
  | pods | nodes | route => false
  | _ => true

def kind : Read → ResourceKind
  | runtimeConfig => .runtimeConfig
  | clusterRuntimeConfig => .clusterRuntimeConfig
  | models => .model
  | clusterModels => .clusterModel
  | templates => .template
  | clusterTemplates => .clusterTemplate
  | templateCaches => .templateCache
  | modelCaches => .modelCache
  | volumeClaim => .volumeClaim
  | runtime => .inferenceService
  | pods => .pod
  | nodes => .node
  | route => .httpRoute

end Read

/-- The answers to the reads. -/
structure Answers where
  runtimeConfig : Except Fault (Option RuntimeConfigObject)
  clusterRuntimeConfig : Except Fault (Option RuntimeConfigObject)
  models : Except Fault (List ModelObject)
  clusterModels : Except Fault (List ModelObject)
  templates : Except Fault (List TemplateObject)
  clusterTemplates : Except Fault (List TemplateObject)
  templateCaches : Except Fault (List TemplateCacheObject)
  modelCaches : Except Fault (List ModelCacheObject)
  volumeClaim : Except Fault (Option VolumeClaim)
  runtime : Except Fault (Option InferenceService)
  pods : Except Fault (List Pod)
  nodes : Except Fault (List Node)
  route : Except Fault (Option RouteObject)

def orIfFailed {α : Type} (default : α) : Except Fault α → α
  | .ok a => a
  | .error _ => default

@[simp] theorem orIfFailed_ok {α : Type} (default a : α) : orIfFailed default (.ok a) = a := rfl

@[simp] theorem orIfFailed_error {α : Type} (default : α) (f : Fault) :
    orIfFailed default (.error f) = default := rfl

def Snapshot.ofAnswers (a : Answers) : Except Fault Snapshot := do
  return {
    configs := { ofNamespace := ← a.runtimeConfig, ofCluster := ← a.clusterRuntimeConfig }
    models := { ofNamespace := ← a.models, ofCluster := ← a.clusterModels }
    templates := { ofNamespace := ← a.templates, ofCluster := ← a.clusterTemplates }
    caches := {
      templateCaches := ← a.templateCaches
      modelCaches := ← a.modelCaches
      claim := ← a.volumeClaim }
    runtime := ← a.runtime
    pods := orIfFailed [] a.pods
    route := orIfFailed none a.route
    gpus := GpuModel.onNodes ((orIfFailed [] a.nodes).map fun n => n.metadata.labels.getD {}) }

end InferenceReconciler
