import InferenceReconciler.Proofs.FailedCache
import InferenceReconciler.Proofs.RunningPhase

/-!
# Dedicated volumes

A service with a volume of its own is planned as if there were no caches, and its status is what
it would be without them, apart from one condition. Whether the shared cache is given up is found
out without a look at the intent, and what is reported of a volume depends on that alone. So the
service reports on caching after all once the cache that it does not use has failed and its own
count of retries has reached the budget. It never resets the count, for it notes nothing about
caches.
-/

namespace InferenceReconciler

/-- The shared cache of the template has failed, and the service has no retries left. -/
def CacheFetch.GivenUpBy (f : CacheFetch) (service : ServiceObject) (policy : Policy)
    (t : TemplateRecord) : Prop :=
  f.sharedStatus? t = some .failed ∧ policy.cacheRetryBudget ≤ service.lastStatus.retryAttempts

/-- Nothing but the volume of the service. -/
def CacheFetch.withoutCaches (f : CacheFetch) : CacheFetch := ⟨[], [], f.claim⟩

def Snapshot.withoutCaches (s : Snapshot) : Snapshot := { s with caches := s.caches.withoutCaches }

def fallbackHealth : ComponentHealth :=
  .ofProblem .caching (.managed Reason.cacheFailed
    "shared cache failed; falling back to a temporary volume")

def fallbackProjection : Projection := .of fallbackHealth false

theorem fallbackProjection_ne_notApplicable :
    fallbackProjection ≠ .notApplicable .caching := by
  intro h
  have hreport : fallbackProjection.report = .notApplicable .caching := congrArg (·.report) h
  cases hreport

namespace CachingObservation

/-- The observation with the shared cache out of sight. -/
def withoutCache (o : CachingObservation) : CachingObservation :=
  { o with cache := none, retryExhausted := false }

variable {o : CachingObservation}

theorem storage_of_not_shared (h : o.storage ≠ some .sharedCache) :
    o.storage = none ∨ o.storage = some .temporaryVolume := by
  cases hs : o.storage with
  | none => exact Or.inl rfl
  | some storage =>
    cases storage with
    | sharedCache => exact absurd hs h
    | temporaryVolume => exact Or.inr rfl

theorem projectCaching_of_undecided (h : o.storage = none) (prior : Option ServiceCacheStatus) :
    o.projectCaching prior =
      .of (.pending .caching Reason.cacheNotReady "waiting for template") true := by
  unfold projectCaching
  rw [h]

theorem projectCaching_of_volume (h : o.storage = some .temporaryVolume)
    (prior : Option ServiceCacheStatus) :
    o.projectCaching prior =
      if o.retryExhausted then fallbackProjection else .notApplicable .caching := by
  unfold projectCaching
  rw [h]
  rfl

theorem storageReady_withoutCache (h : o.storage ≠ some .sharedCache) :
    o.withoutCache.storageReady = o.storageReady := by
  rcases storage_of_not_shared h with hs | hs <;> simp only [storageReady, withoutCache, hs]

section

variable (h : o.storage ≠ some .sharedCache) (prior : Option ServiceCacheStatus)

include h

theorem blocking_projectCaching_withoutCache :
    (o.withoutCache.projectCaching prior).blocking = (o.projectCaching prior).blocking := by
  rcases storage_of_not_shared h with hs | hs
  · rw [projectCaching_of_undecided hs, projectCaching_of_undecided (o := o.withoutCache) hs]
  · rw [projectCaching_of_volume hs, projectCaching_of_volume (o := o.withoutCache) hs]
    by_cases hx : o.retryExhausted = true
    · rw [if_pos hx]
      rfl
    · rw [if_neg hx]
      rfl

theorem harmless_of_projectCaching {g : ComponentHealth}
    (hg : (o.projectCaching prior).report = .health g) : ¬ (g.Impairs ∨ g.IsServing) := by
  have hkind : g.component = .caching ∧ g.dependency = .managed := by
    rcases storage_of_not_shared h with hs | hs
    · rw [projectCaching_of_undecided hs] at hg
      cases hg
      exact ⟨rfl, rfl⟩
    · rw [projectCaching_of_volume hs] at hg
      split at hg
      · cases hg
        exact ⟨rfl, rfl⟩
      · cases hg
  obtain ⟨hcomponent, hmanaged⟩ := hkind
  rintro (⟨-, hother | hruntime⟩ | ⟨hruntime, -⟩)
  · exact hother hmanaged
  · rw [hcomponent] at hruntime
    cases hruntime
  · rw [hcomponent] at hruntime
    cases hruntime

theorem update_projectCaching_of_storage : (o.projectCaching prior).update = .none := by
  rcases storage_of_not_shared h with hs | hs
  · rw [projectCaching_of_undecided hs]
    rfl
  · rw [projectCaching_of_volume hs]
    split <;> rfl

end

end CachingObservation

section

variable (service : ServiceObject) (model : Option ModelRecord) (fetched : CacheFetch)
  (config : EffectiveConfig) (policy : Policy)

theorem storage_dedicated {t : TemplateRecord} (ht : t.isReady = true) :
    (observeCaching service (some t) model fetched config .requireDedicated policy).storage =
      some .temporaryVolume := by
  simp only [observeCaching, Option.filter_some, ht, if_true, chooseStorage]

theorem withoutCache_dedicated (template : Option TemplateRecord) :
    (observeCaching service template model fetched config .requireDedicated
        policy).withoutCache =
      observeCaching service template model fetched.withoutCaches config .requireDedicated
        policy := by
  cases ht : template.filter TemplateRecord.isReady with
  | none =>
    rw [observeCaching_of_not_ready _ _ _ _ _ _ ht, observeCaching_of_not_ready _ _ _ _ _ _ ht]
    rfl
  | some t =>
    simp only [observeCaching, ht, chooseStorage]
    rfl

theorem storage_dedicated_ne (template : Option TemplateRecord) :
    (observeCaching service template model fetched config .requireDedicated policy).storage ≠
      some .sharedCache := by
  cases ht : template.filter TemplateRecord.isReady with
  | none =>
    rw [observeCaching_of_not_ready _ _ _ _ _ _ ht]
    intro h
    cases h
  | some t =>
    obtain ⟨rfl, hready⟩ := Option.filter_eq_some_iff.1 ht
    rw [storage_dedicated service model fetched config policy hready]
    intro h
    cases h

theorem retryExhausted_iff_givenUpBy {t : TemplateRecord} (ht : t.isReady = true)
    (intent : CachingIntent) :
    (observeCaching service (some t) model fetched config intent policy).retryExhausted = true ↔
      fetched.GivenUpBy service policy t := by
  have hstatus := sharedCacheOf?_map_status (t := t) (service.metadata.namespace.getD "") fetched
  have hexhausted := retryExhausted_observeCaching service model fetched config intent policy ht
  dsimp only at hexhausted
  rw [hexhausted, cache_observeCaching service model fetched config intent policy ht,
    retryAttempts_observeCaching service model fetched config intent policy ht,
    Bool.and_eq_true, decide_eq_true_iff, CacheFetch.GivenUpBy, ← hstatus]
  apply and_congr_left'
  cases sharedCacheOf? t (service.metadata.namespace.getD "") fetched.templateCaches with
  | none => simp
  | some c => simp

end

def Observation.withoutCache (o : Observation) : Observation :=
  { o with caching := o.caching.withoutCache }

theorem observeRuntime_congr {caching caching' : CachingObservation}
    (h : caching.storageReady = caching'.storageReady) (service : ServiceObject)
    (model : Option ModelRecord) (template : Option TemplateRecord)
    (existing : Option InferenceService) (pods : List Pod) :
    observeRuntime service model template caching existing pods =
      observeRuntime service model template caching' existing pods := by
  unfold observeRuntime
  rw [h]

section

variable {service : ServiceObject} (snapshot : Snapshot) (policy : Policy)
  (hd : CachingIntent.ofService service.spec = .ok .requireDedicated)

include hd

theorem intent_observe_dedicated :
    (observe service snapshot policy).config.intent = .requireDedicated := by
  simp only [observe, observeConfig, hd]

theorem caching_observe_dedicated :
    (observe service snapshot policy).caching =
      observeCaching service (observe service snapshot policy).template.ready?
        (observe service snapshot policy).model.resolved snapshot.caches
        (observe service snapshot policy).config.effective .requireDedicated policy := by
  rw [← intent_observe_dedicated snapshot policy hd]
  rfl

theorem storage_observe_dedicated :
    (observe service snapshot policy).caching.storage ≠ some .sharedCache := by
  rw [caching_observe_dedicated snapshot policy hd]
  exact storage_dedicated_ne _ _ _ _ _ _

/-- With the caches gone, all that changes in a pass is what is seen of the shared cache. -/
theorem observe_withoutCaches :
    observe service snapshot.withoutCaches policy =
      (observe service snapshot policy).withoutCache := by
  have hcaching : (observe service snapshot.withoutCaches policy).caching =
      (observe service snapshot policy).caching.withoutCache := by
    rw [caching_observe_dedicated snapshot policy hd,
      caching_observe_dedicated snapshot.withoutCaches policy hd, withoutCache_dedicated]
    rfl
  have hready : (observe service snapshot.withoutCaches policy).caching.storageReady =
      (observe service snapshot policy).caching.storageReady := by
    rw [hcaching]
    exact CachingObservation.storageReady_withoutCache
      (storage_observe_dedicated snapshot policy hd)
  have hruntime : (observe service snapshot.withoutCaches policy).runtime =
      (observe service snapshot policy).runtime := observeRuntime_congr hready _ _ _ _ _
  change Observation.mk _ _ _ (observe service snapshot.withoutCaches policy).caching
    (observe service snapshot.withoutCaches policy).runtime _ = _
  rw [hcaching, hruntime]
  rfl

theorem plan_withoutCaches :
    (observe service snapshot.withoutCaches policy).plan service policy =
      (observe service snapshot policy).plan service policy := by
  rw [observe_withoutCaches snapshot policy hd]
  rfl

end

namespace Observation

variable (o : Observation) (prior : ServiceStatus)

theorem projectionOf_withoutCache {c : Component} (hc : c ≠ .caching) :
    o.withoutCache.projectionOf prior c = o.projectionOf prior c := by
  cases c with
  | caching => exact absurd rfl hc
  | config => rfl
  | model => rfl
  | template => rfl
  | storage => rfl
  | runtime => rfl
  | routing => rfl

variable {o} (h : o.caching.storage ≠ some .sharedCache) (now : Timestamp)
  (service : ServiceObject)

include h

theorem blocking_withoutCache (c : Component) :
    (o.withoutCache.projectionOf prior c).blocking = (o.projectionOf prior c).blocking := by
  by_cases hc : c = .caching
  · rw [hc]
    exact CachingObservation.blocking_projectCaching_withoutCache h prior.cache
  · rw [o.projectionOf_withoutCache prior hc]

theorem blockedBy_withoutCache :
    (o.withoutCache.project now service).blockedBy = (o.project now service).blockedBy := by
  apply Option.ext
  intro b
  simp only [blockedBy_eq_some_iff, reached_blockedBy_iff, blocking_withoutCache _ h]

theorem phase_withoutCache :
    (o.withoutCache.project now service).status.status =
      (o.project now service).status.status := by
  have hs : o.withoutCache.caching.storage ≠ some .sharedCache := h
  rw [phase_project, phase_project]
  apply phaseFor_congr
  intro g hg
  rw [mem_health_project_iff, mem_health_project_iff]
  apply exists_congr
  intro c
  rw [blockedBy_withoutCache h]
  apply and_congr_right'
  by_cases hc : c = .caching
  · rw [hc]
    exact iff_of_false
      (fun hr => CachingObservation.harmless_of_projectCaching hs service.lastStatus.cache hr hg)
      (fun hr => CachingObservation.harmless_of_projectCaching h service.lastStatus.cache hr hg)
  · rw [o.projectionOf_withoutCache _ hc]

theorem fields_withoutCache :
    { (o.withoutCache.project now service).status with
      conditions := (o.project now service).status.conditions } =
      (o.project now service).status := by
  have hs : o.withoutCache.caching.storage ≠ some .sharedCache := h
  apply ServiceStatus.ext
  case status => exact phase_withoutCache h now service
  case conditions => rfl
  case resolvedRuntimeConfig =>
    change (o.withoutCache.project now service).status.resolvedRuntimeConfig = _
    rw [resolvedRuntimeConfig_project, resolvedRuntimeConfig_project, blockedBy_withoutCache h]
    rfl
  case resolvedModel =>
    change (o.withoutCache.project now service).status.resolvedModel = _
    rw [resolvedModel_project, resolvedModel_project, blockedBy_withoutCache h]
    rfl
  case resolvedTemplate =>
    change (o.withoutCache.project now service).status.resolvedTemplate = _
    rw [resolvedTemplate_project, resolvedTemplate_project, blockedBy_withoutCache h]
    rfl
  case cache =>
    change (o.withoutCache.project now service).status.cache = _
    rw [cache_project, cache_project, blockedBy_withoutCache h,
      CachingObservation.update_projectCaching_of_storage h,
      CachingObservation.update_projectCaching_of_storage hs]
  case routing =>
    change (o.withoutCache.project now service).status.routing = _
    rw [routing_project, routing_project, blockedBy_withoutCache h]
    rfl
  case observedGeneration => rfl

theorem conditions_withoutCache {c : Component} (hc : c ≠ .caching) :
    conditionsOfType c.conditionType (o.withoutCache.project now service).status.conditions =
      conditionsOfType c.conditionType (o.project now service).status.conditions := by
  by_cases hreached : c.Reached (o.project now service).blockedBy
  · have hbare := hreached
    rw [← blockedBy_withoutCache h] at hbare
    rw [conditionsOfType_project_of_reached _ now service hreached,
      conditionsOfType_project_of_reached _ now service hbare, o.projectionOf_withoutCache _ hc]
  · have hbare := hreached
    rw [← blockedBy_withoutCache h] at hbare
    rw [conditionsOfType_project_of_not_reached _ now service hreached,
      conditionsOfType_project_of_not_reached _ now service hbare]

end Observation

/-- Caches leave no trace in the status of a dedicated service but in their own condition. -/
theorem status_withoutCaches {service : ServiceObject} (snapshot : Snapshot) (policy : Policy)
    (now : Timestamp) (hd : CachingIntent.ofService service.spec = .ok .requireDedicated) :
    let next := ((observe service snapshot policy).project now service).status
    let bare := ((observe service snapshot.withoutCaches policy).project now service).status
    { bare with conditions := next.conditions } = next ∧
      ∀ c : Component, c ≠ .caching → conditionsOfType c.conditionType bare.conditions =
        conditionsOfType c.conditionType next.conditions := by
  intro next bare
  have hstorage := storage_observe_dedicated snapshot policy hd
  have hbare : bare = ((observe service snapshot policy).withoutCache.project now service).status :=
    congrArg (fun o => (Observation.project o now service).status)
      (observe_withoutCaches snapshot policy hd)
  rw [hbare]
  exact ⟨Observation.fields_withoutCache hstorage now service, fun c hc =>
    Observation.conditions_withoutCache hstorage now service hc⟩

namespace PassInput

variable {i : PassInput} {s : ServiceStatus}
  (hd : CachingIntent.ofService i.service.spec = .ok .requireDedicated)

include hd

theorem cache_next_of_dedicated : (i.next s).cache = s.cache := by
  have hstorage : (i.observation s).caching.storage ≠ some .sharedCache :=
    storage_observe_dedicated i.snapshot i.policy hd
  have hnone : ((i.observation s).caching.projectCaching s.cache).update.cache = none :=
    congrArg (·.cache) (CachingObservation.update_projectCaching_of_storage hstorage s.cache)
  rw [cache_next, hnone]
  simp

variable {t : TemplateRecord}

theorem projectCaching_of_dedicated (ht : (i.observation s).template.ready? = some t)
    (prior : Option ServiceCacheStatus) :
    (i.observation s).caching.projectCaching prior =
      if (i.observation s).caching.retryExhausted then fallbackProjection
      else .notApplicable .caching := by
  apply CachingObservation.projectCaching_of_volume
  have hintent : (i.observation s).config.intent = .requireDedicated :=
    intent_observe_dedicated i.snapshot i.policy hd
  rw [caching_observation ht, hintent]
  exact storage_dedicated _ _ _ _ _ (TemplateObservation.ready?_eq_some_iff.1 ht).2

theorem caching_conditions_eq_nil_iff (he : (i.observation s).config.error = none)
    (ht : (i.observation s).template.ready? = some t) :
    conditionsOfType Component.caching.conditionType (i.next s).conditions = [] ↔
      ¬ i.snapshot.caches.GivenUpBy (i.service.withStatus s) i.policy t := by
  have hreached : Component.caching.Reached (i.blocker? s) :=
    (reached_caching_iff i.now (i.service.withStatus s)).2 ⟨he, t, ht⟩
  have hconditions : conditionsOfType Component.caching.conditionType (i.next s).conditions =
      ((i.observation s).caching.projectCaching s.cache).report.applyConditions i.now
        (conditionsOfType Component.caching.conditionType s.conditions) :=
    (i.observation s).conditionsOfType_project_of_reached i.now (i.service.withStatus s) hreached
  have hexhausted : (i.observation s).caching.retryExhausted = true ↔
      i.snapshot.caches.GivenUpBy (i.service.withStatus s) i.policy t := by
    rw [caching_observation ht]
    exact retryExhausted_iff_givenUpBy _ _ _ _ _
      (TemplateObservation.ready?_eq_some_iff.1 ht).2 _
  rw [hconditions, projectCaching_of_dedicated hd ht, ← hexhausted]
  by_cases hx : (i.observation s).caching.retryExhausted = true
  · rw [if_pos hx]
    obtain ⟨d, hmem, -⟩ := exists_mem_setCondition (fallbackHealth.condition i.now)
      (conditionsOfType Component.caching.conditionType s.conditions)
    exact ⟨fun hnil => absurd hnil (List.ne_nil_of_mem hmem), fun hn => absurd hx hn⟩
  · rw [if_neg hx]
    refine ⟨fun _ => hx, fun _ => ?_⟩
    exact List.filter_eq_nil_iff.2 fun d hdmem => by simp [type_of_mem_conditionsOfType hdmem]

end PassInput

section

variable (inputs : Nat → PassInput) (start : ServiceStatus)
  (hd : ∀ k, CachingIntent.ofService (inputs k).service.spec = .ok .requireDedicated)

include hd

theorem cache_statusAfter_of_dedicated (k : Nat) :
    (statusAfter inputs start k).cache = start.cache := by
  induction k with
  | zero => rfl
  | succ k ih =>
    rw [statusAfter_succ, PassInput.cache_next_of_dedicated (hd k)]
    exact ih

/-- The retries that a service had spent when it came to have a volume of its own decide ever
after whether a failed cache is reported. -/
theorem caching_conditions_of_dedicated_run {k : Nat} {t : TemplateRecord}
    (he : ((inputs k).observation (statusAfter inputs start k)).config.error = none)
    (ht : ((inputs k).observation (statusAfter inputs start k)).template.ready? = some t) :
    conditionsOfType Component.caching.conditionType
        (statusAfter inputs start (k + 1)).conditions = [] ↔
      ¬ ((inputs k).snapshot.caches.sharedStatus? t = some .failed ∧
        (inputs k).policy.cacheRetryBudget ≤ start.retryAttempts) := by
  have hattempts : (statusAfter inputs start k).retryAttempts = start.retryAttempts :=
    congrArg (fun cache => (cache.map ServiceCacheStatus.retryAttempts).getD 0)
      (cache_statusAfter_of_dedicated inputs start hd k)
  rw [statusAfter_succ, PassInput.caching_conditions_eq_nil_iff (hd k) he ht,
    CacheFetch.GivenUpBy, ServiceObject.lastStatus_withStatus, hattempts]

end

/-- Whatever the caches, a dedicated service decides as if there were none, and it reports
nothing on them unless the shared cache has failed with the retries of the service spent. In
that case it reports that it falls back to the volume that it was to have anyway. -/
theorem dedicated_silent_unless_given_up (service : ServiceObject) {t : TemplateRecord}
    (model : Option ModelRecord) (fetched : CacheFetch) (config : EffectiveConfig)
    (policy : Policy) (prior : Option ServiceCacheStatus) (ht : t.isReady = true) :
    let observed (caches : CacheFetch) :=
      observeCaching service (some t) model caches config .requireDedicated policy
    ((observed fetched).projectCaching prior = .notApplicable .caching ↔
      ¬ fetched.GivenUpBy service policy t) ∧
    ((observed fetched).projectCaching prior = fallbackProjection ↔
      fetched.GivenUpBy service policy t) ∧
    (observed fetched).withoutCache = observed fetched.withoutCaches := by
  intro observed
  have hexhausted := retryExhausted_iff_givenUpBy service model fetched config policy ht
    .requireDedicated
  have hproject : (observed fetched).projectCaching prior =
      if (observed fetched).retryExhausted then fallbackProjection
      else .notApplicable .caching :=
    CachingObservation.projectCaching_of_volume
      (storage_dedicated service model fetched config policy ht) prior
  have hcache := withoutCache_dedicated service model fetched config policy (some t)
  rw [hproject, ← hexhausted]
  by_cases hx : (observed fetched).retryExhausted = true
  · rw [if_pos hx]
    exact ⟨iff_of_false fallbackProjection_ne_notApplicable (not_not.2 hx),
      iff_of_true rfl hx, hcache⟩
  · rw [if_neg hx]
    exact ⟨iff_of_true rfl hx,
      iff_of_false fallbackProjection_ne_notApplicable.symm hx, hcache⟩

/-- A service that retried its shared cache and came to have a volume of its own. -/
def withdrawnService (retried : UInt32) : ServiceObject :=
  { failedCachePass.service with
    spec := { failedCachePass.service.spec with cacheModel := some false }
    status := some { ServiceStatus.initial with cache := some ⟨none, retried⟩ } }

def dedicatedReport (retried : UInt32) : Projection :=
  (observeCaching (withdrawnService retried) (some failedCacheTemplate) none
    failedCachePass.snapshot.caches default .requireDedicated
    failedCachePass.policy).projectCaching (withdrawnService retried).lastStatus.cache

/-- With one of two retries left, the failed cache is passed over in silence. -/
theorem failed_cache_passed_over :
    failedCacheTemplate.isReady = true ∧
      failedCachePass.snapshot.caches.sharedStatus? failedCacheTemplate = some .failed ∧
      dedicatedReport 1 = .notApplicable .caching := by
  refine ⟨rfl, by decide +kernel, ?_⟩
  apply (dedicated_silent_unless_given_up (withdrawnService 1) none
    failedCachePass.snapshot.caches default failedCachePass.policy
    (withdrawnService 1).lastStatus.cache (t := failedCacheTemplate) rfl).1.2
  rintro ⟨-, hspent⟩
  exact absurd hspent (by decide)

/-- With both retries spent, the same service reports the failure of a cache it never uses. -/
theorem failed_cache_reported_to_dedicated :
    CachingIntent.ofService (withdrawnService 2).spec = .ok .requireDedicated ∧
      failedCacheTemplate.isReady = true ∧ dedicatedReport 2 ≠ .notApplicable .caching := by
  refine ⟨rfl, rfl, fun h => ?_⟩
  have hsilent : (dedicatedReport 2).report = .notApplicable .caching := congrArg (·.report) h
  revert hsilent
  decide +kernel

end InferenceReconciler
