import InferenceReconciler.InferenceServiceObject
import InferenceReconciler.RuntimeResources
import InferenceReconciler.RuntimeVolumes
import InferenceReconciler.ServingEnvironment
import InferenceReconciler.TemplateResolution

/-!
# The runtime of a service

The inference service built for a service whose model, template and weights are in
place, and the patch that keeps an existing one up to date when they are not.
-/

namespace InferenceReconciler

def runtimeName (service : ServiceObject) : String :=
  let ofNamespace := service.metadata.namespace.getD ""
  let uid := service.metadata.uid.getD ""
  derivedNameWith (.withHashLength 4) [service.displayName] [.str s!"{ofNamespace}-{uid}"]

def servingContainer : String := "kserve-container"

/-- The secrets of model, template and service, each name once. -/
def pullSecrets (service : ServiceSpec) (model : ModelRecord) (template : TemplateRecord) :
    List PodFields.PullSecret :=
  let names := (model.spec.imagePullSecrets ++ template.spec.imagePullSecrets ++
    service.imagePullSecrets).map (·.name)
  (names.foldl (fun seen n => if n.isEmpty || seen.contains n then seen else seen ++ [n])
    []).map fun n => ⟨n⟩

def systemLabels (service : ServiceObject) (model : ModelRecord) (template : TemplateRecord) :
    List (String × String) :=
  let profile := template.profile?
  let metric := template.spec.metric <|> profile.bind (·.metric)
  let precision := template.spec.precision <|> profile.bind (·.precision)
  [(Labels.component, some "inference"), (Labels.template, some template.name),
    (Labels.model, some model.name), (Labels.service, some service.displayName),
    (Labels.metric, metric), (Labels.precision, precision)].flatMap fun (key, value) =>
      value.toList.flatMap (labelIfLegal key)

/-- The standard labels, then those of the service, then those that say what is served;
a later one wins. -/
def runtimeLabels (service : ServiceObject) (model : ModelRecord) (template : TemplateRecord) :
    Dict String :=
  (PlainMetadata.standardLabels.overlay (service.metadata.labels.getD {})).overlay
    (.ofList (systemLabels service model template))

def servingPort (policy : Policy) : PodFields.ContainerPort :=
  { containerPort := policy.containerPort, name := some "http", protocol := some "TCP" }

def ServiceSpec.replicaCount (s : ServiceSpec) : Int32 := s.replicas.getD 1

def runtimeFor (service : ServiceObject) (name : String) (model : ModelRecord)
    (template : TemplateRecord) (caching : CachingObservation) (config : EffectiveConfig)
    (policy : Policy) : Except Fault InferenceService := do
  let resources ← runtimeResources service.spec template policy
  let volumes := runtimeVolumes (caching.volumeInUse?.map (·.name)) caching.mounts policy
  let env := runtimeEnv service.spec model template config
  let container : PodFields.Container := {
    env := some (env.map fun v => { name := v.name, value := some v.value })
    image := some model.spec.image
    name := servingContainer
    ports := some [servingPort policy]
    resources := some resources.inContainer
    volumeMounts := some volumes.mounts }
  let metadata := { PlainMetadata.standard name (service.metadata.namespace.getD "") with
    labels := runtimeLabels service model template }
  return .ofSpec metadata {
    predictor := {
      minReplicas := some service.spec.replicaCount
      maxReplicas := some service.spec.replicaCount
      containers := [container]
      volumes := volumes.volumes
      affinity := (runtimeGpuModel? template).map gpuAffinity
      imagePullSecrets := pullSecrets service.spec model template
      serviceAccountName :=
        service.spec.serviceAccountName <|> model.spec.serviceAccountName } }

def withServingResources (resources : PodFields.Resources) (l : List PodFields.Container) :
    List PodFields.Container :=
  l.map fun c => if c.name = servingContainer then { c with resources := some resources } else c

/-- A patch replaces lists, so the containers are sent whole. -/
def patchedContainers (service : ServiceObject) (existing : InferenceService)
    (template : Option TemplateRecord) (policy : Policy) :
    Except Fault (Option (List PodFields.Container)) :=
  let containers := existing.spec.predictor.containers
  match template with
  | none => .ok none
  | some t =>
    if containers.any fun c => c.name = servingContainer then
      (runtimeResources service.spec t policy).map fun r =>
        some (withServingResources r.inContainer containers)
    else .ok none

/-- The replicas and, with a ready template, the resources. -/
def mutableFieldsPatch (service : ServiceObject) (existing : InferenceService)
    (template : Option TemplateRecord) (policy : Policy) : Except Fault Json := do
  let containers ← patchedContainers service existing template policy
  let predictor := Json.record [
    optionalField "containers" containers,
    field "maxReplicas" service.spec.replicaCount,
    field "minReplicas" service.spec.replicaCount]
  return .record [some ("spec", .record [some ("predictor", predictor)])]

end InferenceReconciler
