import InferenceReconciler.ByteQuantity
import InferenceReconciler.ConfigResolution
import InferenceReconciler.CoreObjects
import InferenceReconciler.TemplateResolution

/-!
# Storage of weights

A service mounts the shared cache of its template or downloads to a temporary volume of
its own. Which of the two follows from the intent and from the cache there is. A failed
cache is made anew as often as the budget allows.
-/

namespace InferenceReconciler

/-- The sources that were discovered, else those of the specification, else those of the
model. -/
def templateSources (template : TemplateRecord) (model : Option ModelRecord) : List ModelSource :=
  if !template.status.modelSources.isEmpty then template.status.modelSources
  else if !template.spec.modelSources.isEmpty then template.spec.modelSources
  else (model.map (·.spec.modelSources)).getD []

/-- The size of a source in bytes, zero where it is not known. -/
def ModelSource.sized (s : ModelSource) : Except Fault SizedSource :=
  match trimmed? s.size with
  | some size => (parseBytes size).map fun bytes => ⟨s.name, bytes⟩
  | none => .ok ⟨s.name, 0⟩

def storageSizeGi (sources : List ModelSource) (headroom : UInt32) : Except Problem Nat :=
  match (sources.mapM ModelSource.sized).bind fun l => requiredStorageGi l headroom.toNat with
  | .ok gi => .ok gi
  | .error f => .error (.validation Reason.storageSizeUnknown (f.message?.getD ""))

def temporaryVolumeName (service : ServiceObject) : String :=
  derivedName ["aimsvc-temp", service.displayName] [.str (service.metadata.uid.getD "")]

inductive WeightStorage where
  | sharedCache
  | temporaryVolume
  deriving DecidableEq, Repr, Inhabited

def WeightStorage.text : WeightStorage → String
  | sharedCache => "SharedCache"
  | temporaryVolume => "TemporaryVolume"

/-- A volume of cached weights to mount; the source names the directory. -/
structure CacheMount where
  sourceName : String
  claimName : String
  deriving DecidableEq, Repr, Inhabited

structure VolumeObservation where
  name : String
  «exists» : Bool
  bound : Bool
  sizeGi : Except Problem Nat

def VolumeObservation.shouldCreate (v : VolumeObservation) : Bool :=
  !v.exists && v.sizeGi.isOk

/-- The shared cache of a template. -/
structure SharedCache where
  reference : ResolvedReference
  status : LifecycleStatus
  deriving DecidableEq, Repr, Inhabited

structure CacheFetch where
  templateCaches : List TemplateCacheObject
  modelCaches : List ModelCacheObject
  /-- The temporary volume of the service. -/
  claim : Option VolumeClaim
  deriving DecidableEq, Inhabited

structure CachingObservation where
  intent : CachingIntent
  /-- Where the weights are, once a ready template is resolved. -/
  storage : Option WeightStorage
  cache : Option SharedCache
  shouldCreateCache : Bool
  /-- Failed model caches that are deleted to be made anew. -/
  retryDeletes : List String
  retryAttempts : UInt32
  /-- Whether the cache has failed and the budget is spent. -/
  retryExhausted : Bool
  mounts : List CacheMount
  volume : Option VolumeObservation

namespace CachingObservation

/-- Nothing is decided before a ready template is resolved. -/
def waiting (intent : CachingIntent) : CachingObservation :=
  ⟨intent, none, none, false, [], 0, false, [], none⟩

def cacheIsReady (o : CachingObservation) : Bool := o.cache.any fun c => c.status.isReady

/-- Whether the weights are where the runtime will look for them. -/
def storageReady (o : CachingObservation) : Bool :=
  match o.storage with
  | some .sharedCache => o.cacheIsReady
  | some .temporaryVolume => o.volume.any (·.exists)
  | none => false

def volumeInUse? (o : CachingObservation) : Option VolumeObservation :=
  match o.storage with
  | some .temporaryVolume => o.volume.filter (·.exists)
  | _ => none

@[simp] theorem storageReady_waiting (intent : CachingIntent) :
    (waiting intent).storageReady = false := rfl

@[simp] theorem volumeInUse?_waiting (intent : CachingIntent) :
    (waiting intent).volumeInUse? = none := rfl

end CachingObservation

/-- The shared cache of the template in the namespace, known by its name. -/
def sharedCacheOf? (template : TemplateRecord) («namespace» : String)
    (caches : List TemplateCacheObject) : Option SharedCache :=
  (caches.find? fun c =>
    c.displayName = template.name && c.spec.templateName = template.name).map fun c =>
      ⟨⟨c.displayName, some «namespace», .namespaced, c.metadata.uid⟩,
        (c.status.map (·.status)).getD .pending⟩

def failedModelCaches (sources : List ModelSource) (caches : List ModelCacheObject) :
    List String :=
  (caches.filter fun c =>
    (sources.any fun s => s.sourceUri = c.spec.sourceUri) &&
      c.status.any fun s => s.status = .failed).map (·.displayName)

/-- The claim with the weights of a source: that of its first ready cache. -/
def cachedClaim? (s : ModelSource) (caches : List ModelCacheObject) : Option String :=
  (((caches.filter fun c => c.spec.sourceUri = s.sourceUri).filterMap (·.status)).find?
    fun status => status.status.isReady).bind (·.persistentVolumeClaim)

def cacheMounts (sources : List ModelSource) (caches : List ModelCacheObject) :
    List CacheMount :=
  sources.filterMap fun s => (cachedClaim? s caches).map fun claim => ⟨s.name, claim⟩

/-- Shared is preferred as long as there is a cache, or the template wants one, and it
has not failed for good. -/
def chooseStorage (intent : CachingIntent) (cachePlanned exhausted : Bool) : WeightStorage :=
  match intent with
  | .requireDedicated => .temporaryVolume
  | .requireShared => .sharedCache
  | .preferShared => if cachePlanned && !exhausted then .sharedCache else .temporaryVolume

def observeVolume (service : ServiceObject) (claim : Option VolumeClaim)
    (sources : List ModelSource) (headroom : UInt32) : VolumeObservation where
  name := temporaryVolumeName service
  «exists» := claim.isSome
  bound := claim.any VolumeClaim.isBound
  sizeGi := storageSizeGi sources headroom

def observeCaching (service : ServiceObject) (template : Option TemplateRecord)
    (model : Option ModelRecord) (fetched : CacheFetch) (config : EffectiveConfig)
    (intent : CachingIntent) (policy : Policy) : CachingObservation :=
  match template.filter TemplateRecord.isReady with
  | none => .waiting intent
  | some template =>
    let sources := templateSources template model
    let cache := sharedCacheOf? template (service.metadata.namespace.getD "")
      fetched.templateCaches
    let failed := cache.any fun c => c.status = .failed
    let attempts := (service.status.map (·.retryAttempts)).getD 0
    let exhausted := failed && policy.cacheRetryBudget ≤ attempts
    let wanted := template.spec.caching.any (·.enabled)
    match chooseStorage intent (cache.isSome || wanted) exhausted with
    | .sharedCache => {
        intent
        storage := some .sharedCache
        cache
        shouldCreateCache := cache.isNone
        retryDeletes :=
          if failed && !exhausted then failedModelCaches sources fetched.modelCaches else []
        retryAttempts := attempts
        retryExhausted := exhausted
        mounts :=
          if cache.any fun c => c.status.isReady then cacheMounts sources fetched.modelCaches
          else []
        volume := none }
    | .temporaryVolume => {
        intent
        storage := some .temporaryVolume
        cache
        shouldCreateCache := false
        retryDeletes := []
        retryAttempts := attempts
        retryExhausted := exhausted
        mounts := []
        volume := some (observeVolume service fetched.claim sources config.headroomPercent) }

end InferenceReconciler
