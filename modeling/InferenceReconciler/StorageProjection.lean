import InferenceReconciler.WeightStorage

/-!
# Projection of caching and storage

The shared cache and the temporary volume each report in a condition of their own; the
one that is not chosen does not apply.
-/

namespace InferenceReconciler

namespace CachingObservation

/-- The bookkeeping of caches; a reference is set once the cache is ready and then kept. -/
def cacheUpdate (o : CachingObservation) (prior : Option ServiceCacheStatus)
    (attempts : UInt32) : StatusUpdate :=
  let ready := (o.cache.filter fun c => c.status.isReady).map (·.reference)
  { StatusUpdate.none with
    cache := some ⟨ready <|> prior.bind (·.templateCacheRef), attempts⟩ }

def projectShared (o : CachingObservation) (c : SharedCache) (prior : Option ServiceCacheStatus) :
    Projection :=
  let name := c.reference.name
  let waiting := Projection.of (.progressing .caching Reason.cacheNotReady
    s!"waiting for shared cache {name} ({c.status.text})") true
  match c.status with
  | .ready =>
    (Projection.of (.ready .caching Reason.cacheReady s!"shared cache {name} is ready")
      false).withUpdate (o.cacheUpdate prior o.retryAttempts)
  | .failed =>
    if o.retryExhausted then
      (Projection.of (.ofProblem .caching (.provided Reason.cacheFailed
        s!"shared cache {name} failed after {o.retryAttempts.toNat} recreation attempts"))
        true).withUpdate (o.cacheUpdate prior o.retryAttempts)
    else if !o.retryDeletes.isEmpty then
      (Projection.of (.progressing .caching Reason.cacheRetrying
        s!"recreating {o.retryDeletes.length} failed model caches of {name}")
        false).withUpdate (o.cacheUpdate prior (o.retryAttempts + 1))
    else waiting
  | _ => waiting

def projectCaching (o : CachingObservation) (prior : Option ServiceCacheStatus) : Projection :=
  match o.storage with
  | none => .of (.pending .caching Reason.cacheNotReady "waiting for template") true
  | some .temporaryVolume =>
    if o.retryExhausted then
      .of (.ofProblem .caching (.managed Reason.cacheFailed
        "shared cache failed; falling back to a temporary volume")) false
    else .notApplicable .caching
  | some .sharedCache =>
    match o.cache with
    | none => .of (.progressing .caching Reason.cacheCreating
        s!"creating shared cache ({o.intent.text})") true
    | some c => o.projectShared c prior

/-- Only the temporary volume reports here. -/
def projectStorage (o : CachingObservation) : Projection :=
  match o.volume.filter fun _ => o.storage = some .temporaryVolume with
  | none => .notApplicable .storage
  | some v =>
    match v.sizeGi with
    | .error p => .of (.ofProblem .storage p) true
    | .ok _ =>
      if !v.exists then
        .of (.progressing .storage Reason.creatingClaim
          s!"creating temporary volume {v.name}") false
      else if !v.bound then
        .of (.progressing .storage Reason.claimNotBound
          s!"temporary volume {v.name} is not bound yet") false
      else
        .of (.ready .storage Reason.storageReady s!"temporary volume {v.name} is bound") false

end CachingObservation

end InferenceReconciler
