import InferenceReconciler.Proofs.ResolvedRecords

/-!
# Bookkeeping of caches

What a pass notes about the shared cache: a reference, set once the cache is ready and kept
from then on, and the number of times that failed caches were made anew. The number is
raised by one exactly where a failed cache is retried, which the budget has to allow.
-/

namespace InferenceReconciler

/-- The reference by which a service of the namespace knows a cache. -/
def TemplateCacheObject.referenceIn (c : TemplateCacheObject) (ofNamespace : String) :
    ResolvedReference := ⟨c.displayName, some ofNamespace, .namespaced, c.metadata.uid⟩

section

variable (service : ServiceObject) {template : TemplateRecord} (model : Option ModelRecord)
  (fetched : CacheFetch) (config : EffectiveConfig) (intent : CachingIntent) (policy : Policy)

theorem observeCaching_of_not_ready {template : Option TemplateRecord}
    (h : template.filter TemplateRecord.isReady = none) :
    observeCaching service template model fetched config intent policy = .waiting intent := by
  simp only [observeCaching, h]

theorem cache_observeCaching (h : template.isReady = true) :
    (observeCaching service (some template) model fetched config intent policy).cache =
      sharedCacheOf? template (service.metadata.namespace.getD "") fetched.templateCaches := by
  simp only [observeCaching, Option.filter_some, h, if_true]
  split <;> rfl

theorem retryAttempts_observeCaching (h : template.isReady = true) :
    (observeCaching service (some template) model fetched config intent policy).retryAttempts =
      service.lastStatus.retryAttempts := by
  simp only [observeCaching, Option.filter_some, h, if_true, service.retryAttempts_lastStatus]
  split <;> rfl

theorem retryExhausted_observeCaching (h : template.isReady = true) :
    let o := observeCaching service (some template) model fetched config intent policy
    o.retryExhausted =
      ((o.cache.any fun c => c.status = .failed) &&
        decide (policy.cacheRetryBudget ≤ o.retryAttempts)) := by
  simp only [observeCaching, Option.filter_some, h, if_true]
  split <;> rfl

theorem exists_of_cache_observeCaching {template : Option TemplateRecord} {c : SharedCache}
    (h : (observeCaching service template model fetched config intent policy).cache = some c) :
    ∃ object ∈ fetched.templateCaches,
      c.reference = object.referenceIn (service.metadata.namespace.getD "") ∧
      c.status = (object.status.map (·.status)).getD .pending := by
  cases ht : template.filter TemplateRecord.isReady with
  | none =>
    rw [observeCaching_of_not_ready service model fetched config intent policy ht] at h
    cases h
  | some t =>
    obtain ⟨rfl, hready⟩ := Option.filter_eq_some_iff.1 ht
    rw [cache_observeCaching service model fetched config intent policy hready] at h
    obtain ⟨object, hfind, rfl⟩ := Option.map_eq_some_iff.1 h
    exact ⟨object, List.mem_of_find?_eq_some hfind, rfl, rfl⟩

theorem mem_retryDeletes_observeCaching {template : Option TemplateRecord} {name : String}
    (h : name ∈
      (observeCaching service template model fetched config intent policy).retryDeletes) :
    ∃ t, template = some t ∧ t.isReady = true ∧
      name ∈ failedModelCaches (templateSources t model) fetched.modelCaches := by
  cases ht : template.filter TemplateRecord.isReady with
  | none =>
    rw [observeCaching_of_not_ready service model fetched config intent policy ht] at h
    cases h
  | some t =>
    obtain ⟨rfl, hready⟩ := Option.filter_eq_some_iff.1 ht
    refine ⟨t, rfl, hready, ?_⟩
    simp only [observeCaching, Option.filter_some, hready, if_true] at h
    split at h
    · dsimp only at h
      split at h
      · exact h
      · cases h
    · cases h

end

theorem mem_failedModelCaches {sources : List ModelSource} {caches : List ModelCacheObject}
    {name : String} :
    name ∈ failedModelCaches sources caches ↔
      ∃ c ∈ caches, (∃ source ∈ sources, source.sourceUri = c.spec.sourceUri) ∧
        c.status.map (·.status) = some .failed ∧ c.displayName = name := by
  simp [failedModelCaches, and_assoc, Option.any_eq_true]

namespace CachingObservation

def readyReference? (o : CachingObservation) : Option ResolvedReference :=
  (o.cache.filter fun c => c.status.isReady).map (·.reference)

/-- A failed cache is made anew in this pass. -/
structure Retrying (o : CachingObservation) : Prop where
  shared : o.storage = some .sharedCache
  failed : (o.cache.any fun c => c.status = .failed) = true
  allowed : o.retryExhausted = false
  deletes : o.retryDeletes ≠ []

theorem readyReference?_eq_some_iff {o : CachingObservation} {ref : ResolvedReference} :
    o.readyReference? = some ref ↔
      ∃ c, o.cache = some c ∧ c.status = .ready ∧ c.reference = ref := by
  simp [readyReference?, Option.filter_eq_some_iff, LifecycleStatus.isReady, and_assoc]

theorem cache_update_of_ready {o : CachingObservation} {ref : ResolvedReference}
    (hs : o.storage = some .sharedCache) (hr : o.readyReference? = some ref)
    (prior : Option ServiceCacheStatus) :
    (o.projectCaching prior).update.cache = some ⟨some ref, o.retryAttempts⟩ := by
  obtain ⟨c, hc, hready, hcref⟩ := readyReference?_eq_some_iff.1 hr
  unfold readyReference? at hr
  simp only [projectCaching, hs, hc, projectShared, hready, Projection.withUpdate, cacheUpdate]
  rw [← hc, hr]
  rfl

theorem update_projectCaching (o : CachingObservation) (prior : Option ServiceCacheStatus) :
    (o.projectCaching prior).update = .none ∨
      (o.projectCaching prior).update = o.cacheUpdate prior o.retryAttempts ∨
      (o.projectCaching prior).update = o.cacheUpdate prior (o.retryAttempts + 1) ∧
        o.Retrying := by
  unfold projectCaching
  split
  · exact Or.inl rfl
  · split <;> exact Or.inl rfl
  · rename_i hstorage
    split
    · exact Or.inl rfl
    · rename_i c hc
      unfold projectShared
      dsimp only
      split
      · exact Or.inr (Or.inl rfl)
      · rename_i hs
        split
        · exact Or.inr (Or.inl rfl)
        · rename_i hx
          split
          · rename_i hd
            refine Or.inr (Or.inr ⟨rfl, hstorage, ?_, by simpa using hx, by simpa using hd⟩)
            simp [hc, hs]
          · exact Or.inl rfl
      · exact Or.inl rfl

theorem cache_update_projectCaching {o : CachingObservation} {prior : Option ServiceCacheStatus}
    {noted : ServiceCacheStatus} (h : (o.projectCaching prior).update.cache = some noted) :
    noted.templateCacheRef = (o.readyReference? <|> prior.bind (·.templateCacheRef)) ∧
      (noted.retryAttempts = o.retryAttempts ∨
        noted.retryAttempts = o.retryAttempts + 1 ∧ o.Retrying) := by
  rcases o.update_projectCaching prior with hu | hu | ⟨hu, hr⟩
  · rw [hu] at h
    cases h
  · rw [hu] at h
    cases h
    exact ⟨rfl, Or.inl rfl⟩
  · rw [hu] at h
    cases h
    exact ⟨rfl, Or.inr ⟨rfl, hr⟩⟩

end CachingObservation

end InferenceReconciler
