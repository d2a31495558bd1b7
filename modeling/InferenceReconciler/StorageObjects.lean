import InferenceReconciler.Labels
import InferenceReconciler.ServingEnvironment
import InferenceReconciler.WeightStorage

/-!
# Caches and volumes to create

The shared cache of a template, which belongs to nobody so that other services can use
it, and the temporary volume of one service.
-/

namespace InferenceReconciler

/-- The cache of a template; its downloads see the template's variables for caching with
those of the service on top. -/
def templateCacheFor (service : ServiceObject) (template : TemplateRecord)
    (config : EffectiveConfig) : TemplateCacheObject where
  metadata := { Metadata.empty with
    name := some template.name
    «namespace» := service.metadata.namespace
    labels := some (.ofList ([
      (Labels.cacheType, "shared"),
      (Labels.managedBy, Labels.manager)] ++ labelIfLegal Labels.template template.name)) }
  spec := {
    templateName := template.name
    templateScope := template.scope
    storageClassName := config.storageClass?
    env := mergeEnv [(template.spec.caching.map (·.env)).getD [], service.spec.env] }
  status := none

def temporaryVolumeFor (service : ServiceObject) (volume : VolumeObservation) (sizeGi : Nat)
    (config : EffectiveConfig) : VolumeClaim where
  metadata := { Metadata.empty with
    name := some volume.name
    «namespace» := service.metadata.namespace
    labels := some (.ofList ([
      (Labels.appName, "aim-service"),
      (Labels.managedBy, Labels.manager)] ++ labelIfLegal Labels.service service.displayName)) }
  spec := some {
    accessModes := some ["ReadWriteMany"]
    resources := some ⟨none, some (.ofList [("storage", giText sizeGi)])⟩
    storageClassName := config.storageClass? }
  status := none

end InferenceReconciler
