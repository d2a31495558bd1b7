import InferenceReconciler.Proofs.PlannedRuntime
import InferenceReconciler.Proofs.SentRuntime
import InferenceReconciler.Proofs.VolumeNames

/-!
# Mounted weights

What a runtime over a shared cache finds in its directories. The gate asks for the cache of the
template; the directories come from the caches of the single sources. A source has its directory
where its ready caches name their claims, and whatever is mounted belongs to a ready cache of a
source. The gate does not look at the sources, so a source without a cache is missed by nobody.
-/

namespace InferenceReconciler

def ModelCacheObject.ReadyFor (c : ModelCacheObject) (s : ModelSource) : Prop :=
  c.spec.sourceUri = s.sourceUri ∧ c.status.map (·.status) = some .ready

def ModelCacheObject.claim? (c : ModelCacheObject) : Option String :=
  c.status.bind (·.persistentVolumeClaim)

section

variable {s : ModelSource} {caches : List ModelCacheObject}

theorem exists_cache_of_ready_status {status : ModelCacheStatus}
    (h : ((caches.filter fun c => c.spec.sourceUri = s.sourceUri).filterMap (·.status)).find?
      (fun status => status.status.isReady) = some status) :
    ∃ c ∈ caches, c.ReadyFor s ∧ c.status = some status := by
  obtain ⟨c, hc, hstatus⟩ := List.mem_filterMap.1 (List.mem_of_find?_eq_some h)
  obtain ⟨hmem, huri⟩ := List.mem_filter.1 hc
  have hisReady := List.find?_some h
  have hready : status.status = .ready := of_decide_eq_true hisReady
  refine ⟨c, hmem, ⟨of_decide_eq_true huri, ?_⟩, hstatus⟩
  rw [hstatus, Option.map_some, hready]

theorem exists_cache_of_cachedClaim? {claim : String} (h : cachedClaim? s caches = some claim) :
    ∃ c ∈ caches, c.ReadyFor s ∧ c.claim? = some claim := by
  obtain ⟨status, hfind, hclaim⟩ := Option.bind_eq_some_iff.1 h
  obtain ⟨c, hc, hready, hstatus⟩ := exists_cache_of_ready_status hfind
  refine ⟨c, hc, hready, ?_⟩
  unfold ModelCacheObject.claim?
  rw [hstatus, Option.bind_some, hclaim]

theorem exists_cachedClaim? (hcached : ∃ c ∈ caches, c.ReadyFor s)
    (hclaims : ∀ c ∈ caches, c.ReadyFor s → c.claim?.isSome = true) :
    ∃ claim, cachedClaim? s caches = some claim := by
  obtain ⟨c, hc, huri, hready⟩ := hcached
  obtain ⟨status, hstatus, hs⟩ := Option.map_eq_some_iff.1 hready
  have hfound : (((caches.filter fun c => c.spec.sourceUri = s.sourceUri).filterMap
      (·.status)).find? fun status => status.status.isReady).isSome = true := by
    rw [List.find?_isSome]
    exact ⟨status, List.mem_filterMap.2 ⟨c, List.mem_filter.2 ⟨hc, decide_eq_true huri⟩, hstatus⟩,
      decide_eq_true hs⟩
  obtain ⟨first, hfirst⟩ := Option.isSome_iff_exists.1 hfound
  obtain ⟨c', hc', hready', hstatus'⟩ := exists_cache_of_ready_status hfirst
  have hclaim := hclaims c' hc' hready'
  unfold ModelCacheObject.claim? at hclaim
  rw [hstatus', Option.bind_some] at hclaim
  obtain ⟨claim, hclaim⟩ := Option.isSome_iff_exists.1 hclaim
  refine ⟨claim, ?_⟩
  unfold cachedClaim?
  rw [hfirst, Option.bind_some, hclaim]

theorem mem_cacheMounts {sources : List ModelSource} {m : CacheMount} :
    m ∈ cacheMounts sources caches ↔
      ∃ s ∈ sources, cachedClaim? s caches = some m.claimName ∧ s.name = m.sourceName := by
  obtain ⟨name, claim⟩ := m
  unfold cacheMounts
  rw [List.mem_filterMap]
  simp only [Option.map_eq_some_iff, CacheMount.mk.injEq]
  constructor
  · rintro ⟨s, hs, found, hfound, rfl, rfl⟩
    exact ⟨s, hs, hfound, rfl⟩
  · rintro ⟨s, hs, hfound, rfl⟩
    exact ⟨s, hs, claim, hfound, rfl, rfl⟩

end

/-- A service that goes for the shared cache mounts what is cached of the sources, once the
cache of the template is ready, and has no volume of its own. -/
theorem mounts_observeCaching {service : ServiceObject} {t : TemplateRecord}
    {model : Option ModelRecord} {fetched : CacheFetch} {config : EffectiveConfig}
    {intent : CachingIntent} {policy : Policy} (ht : t.isReady = true)
    (h : (observeCaching service (some t) model fetched config intent policy).storage =
      some .sharedCache) :
    (observeCaching service (some t) model fetched config intent policy).mounts =
        (if (observeCaching service (some t) model fetched config intent policy).cacheIsReady then
          cacheMounts (templateSources t model) fetched.modelCaches
        else []) ∧
      (observeCaching service (some t) model fetched config intent policy).volumeInUse? =
        none := by
  simp only [observeCaching, Option.filter_some, ht, if_true] at h ⊢
  split
  · exact ⟨rfl, rfl⟩
  · rename_i hchoice
    rw [hchoice] at h
    cases h

/-- The serving container mounts the claim at the path, and the volume that it mounts there is
the only one of its name. -/
def InferenceService.MountsClaim (runtime : InferenceService) (path claim : String) : Prop :=
  ∃ container ∈ runtime.spec.predictor.containers, container.name = servingContainer ∧
    ∃ mounts, container.volumeMounts = some mounts ∧
      ∃ mount ∈ mounts, mount.mountPath = path ∧
        ∃ v ∈ runtime.spec.predictor.volumes, v.name = mount.name ∧
          v.persistentVolumeClaim = some ⟨claim, none⟩ ∧
          ∀ w ∈ runtime.spec.predictor.volumes, w.name = mount.name → w = v

/-- A runtime without a volume of its own mounts its cached sources and nothing else that is
claimed. -/
theorem mountsClaim_iff_of_runtimeFor {service : ServiceObject} {name path claim : String}
    {m : ModelRecord} {t : TemplateRecord} {caching : CachingObservation} {config : EffectiveConfig}
    {policy : Policy} {runtime : InferenceService}
    (h : runtimeFor service name m t caching config policy = .ok runtime)
    (hnone : caching.volumeInUse? = none) :
    runtime.MountsClaim path claim ↔
      ∃ mount ∈ caching.mounts, mount.claimName = claim ∧
        path = cacheMountPath policy.cacheMountRoot mount.sourceName := by
  obtain ⟨container, hcontainers, hserving, hmounts, hvolumes⟩ := container_of_runtimeFor h
  rw [hnone, Option.map_none] at hmounts hvolumes
  constructor
  · rintro ⟨c, hc, -, mounts, hcmounts, mount, hmount, rfl, v, hv, hvname, hclaim, -⟩
    rw [hcontainers] at hc
    rw [List.mem_singleton.1 hc, hmounts] at hcmounts
    cases hcmounts
    rw [hvolumes] at hv
    exact exists_mount_of_claim hmount hv hvname hclaim
  · rintro ⟨mount, hmount, rfl, rfl⟩
    obtain ⟨volumeName, hv, hm⟩ := exists_volume_of_mem none policy hmount
    refine ⟨container, by rw [hcontainers]; exact List.mem_singleton_self _, hserving, _, hmounts,
      _, hm, rfl, claimVolume volumeName mount.claimName, hvolumes ▸ hv, rfl, rfl, ?_⟩
    intro w hw hwname
    rw [hvolumes] at hw
    exact List.inj_on_of_nodup_map (nodup_names_runtimeVolumes none caching.mounts policy) hw hv
      hwname

section

variable {service : ServiceObject} {snapshot : Snapshot} {policy : Policy}

theorem Observation.Sends.mountsClaim_iff {plan : Plan} {d : PlannedObject} {m : ModelRecord}
    {t : TemplateRecord} {runtime : InferenceService}
    (h : (observe service snapshot policy).plan service policy = .ok plan)
    (hd : d ∈ plan.objects) (hkind : d.kind = .inferenceService) (hmode : d.mode = .wholeObject)
    (hs : (observe service snapshot policy).Sends service policy d m t runtime)
    (hshared : (observe service snapshot policy).caching.storage = some .sharedCache)
    (path claim : String) :
    runtime.MountsClaim path claim ↔
      ∃ source ∈ templateSources t (some m),
        cachedClaim? source snapshot.caches.modelCaches = some claim ∧
          path = cacheMountPath policy.cacheMountRoot source.name := by
  obtain ⟨_, _, hgate⟩ := GateOpen.of_planned_runtime h ⟨d, hd, hkind, hmode⟩
  have hcaching := caching_of_ready hs.template
  rw [hs.model] at hcaching
  have hready : (observe service snapshot policy).caching.cacheIsReady = true := by
    have hstorage := hgate.storageReady
    unfold CachingObservation.storageReady at hstorage
    rwa [hshared] at hstorage
  have htready := (TemplateObservation.ready?_eq_some_iff.1 hs.template).2
  have hmounts := mounts_observeCaching htready (hcaching ▸ hshared)
  rw [← hcaching, hready, if_pos rfl] at hmounts
  rw [mountsClaim_iff_of_runtimeFor hs.built hmounts.2, hmounts.1]
  constructor
  · rintro ⟨mount, hmount, rfl, rfl⟩
    obtain ⟨source, hsource, hclaim, hname⟩ := mem_cacheMounts.1 hmount
    exact ⟨source, hsource, hclaim, by rw [hname]⟩
  · rintro ⟨source, hsource, hclaim, rfl⟩
    exact ⟨⟨source.name, claim⟩, mem_cacheMounts.2 ⟨source, hsource, hclaim, rfl⟩, rfl, rfl⟩

/-- A runtime that is sent over the shared cache mounts every source whose ready caches name
their claims, in the directory of the source and by the claim of such a cache. Whatever claim
it mounts is that of a ready cache of a source, in the directory of that source. -/
theorem weights_mounted {plan : Plan} {d : PlannedObject}
    (h : (observe service snapshot policy).plan service policy = .ok plan)
    (hd : d ∈ plan.objects) (hkind : d.kind = .inferenceService) (hmode : d.mode = .wholeObject)
    (hshared : (observe service snapshot policy).caching.storage = some .sharedCache) :
    ∃ m t runtime, (observe service snapshot policy).Sends service policy d m t runtime ∧
      (∀ source ∈ templateSources t (some m),
        (∃ c ∈ snapshot.caches.modelCaches, c.ReadyFor source) →
        (∀ c ∈ snapshot.caches.modelCaches, c.ReadyFor source → c.claim?.isSome = true) →
        ∃ c ∈ snapshot.caches.modelCaches, c.ReadyFor source ∧ ∃ claim, c.claim? = some claim ∧
          runtime.MountsClaim (cacheMountPath policy.cacheMountRoot source.name) claim) ∧
      ∀ path claim, runtime.MountsClaim path claim →
        ∃ source ∈ templateSources t (some m),
          path = cacheMountPath policy.cacheMountRoot source.name ∧
          ∃ c ∈ snapshot.caches.modelCaches, c.ReadyFor source ∧ c.claim? = some claim := by
  obtain ⟨m, t, runtime, hs⟩ := Observation.exists_sends_of_plan h hd hkind hmode
  have hmounts := hs.mountsClaim_iff h hd hkind hmode hshared
  refine ⟨m, t, runtime, hs, ?_, ?_⟩
  · intro source hsource hcached hclaims
    obtain ⟨claim, hclaim⟩ := exists_cachedClaim? hcached hclaims
    obtain ⟨c, hc, hready, hnamed⟩ := exists_cache_of_cachedClaim? hclaim
    exact ⟨c, hc, hready, claim, hnamed, (hmounts _ _).2 ⟨source, hsource, hclaim, rfl⟩⟩
  · intro path claim hmount
    obtain ⟨source, hsource, hclaim, hpath⟩ := (hmounts path claim).1 hmount
    exact ⟨source, hsource, hpath, exists_cache_of_cachedClaim? hclaim⟩

end

def sourcedTemplate : TemplateObject :=
  { cachedTemplate with
    spec := { cachedTemplate.spec with modelSources := [⟨"weights", "hf://llama", none⟩] } }

/-- The cache of the template is ready, and the sources are cached as given. -/
def sourcedSnapshot (modelCaches : List ModelCacheObject) : Snapshot :=
  { cachedSnapshot with
    templates := ⟨[], [sourcedTemplate]⟩
    caches := { cachedSnapshot.caches with modelCaches := modelCaches } }

def weightsCache : ModelCacheObject :=
  ⟨{ Metadata.empty with name := some "llama-weights" }, ⟨"hf://llama", "16Gi", none⟩,
    some ⟨.ready, some "llama-claim"⟩⟩

theorem cached_weights_mounted :
    ∃ plan d, (observe cachedService (sourcedSnapshot [weightsCache]) Policy.standard).plan
        cachedService Policy.standard = .ok plan ∧
      d ∈ plan.objects ∧ d.kind = .inferenceService ∧ d.mode = .wholeObject ∧
      (observe cachedService (sourcedSnapshot [weightsCache]) Policy.standard).caching.storage =
        some .sharedCache ∧
      ∃ m t runtime, (observe cachedService (sourcedSnapshot [weightsCache])
          Policy.standard).Sends cachedService Policy.standard d m t runtime ∧
        runtime.MountsClaim "/workspace/model-cache/weights" "llama-claim" := by
  have hplanned : plansRuntime ((observe cachedService (sourcedSnapshot [weightsCache])
      Policy.standard).plan cachedService Policy.standard) = true := by decide +kernel
  obtain ⟨plan, hplan, d, hd, hkind, hmode⟩ := exists_of_plansRuntime hplanned
  have hshared : (observe cachedService (sourcedSnapshot [weightsCache])
      Policy.standard).caching.storage = some .sharedCache := by decide +kernel
  refine ⟨plan, d, hplan, hd, hkind, hmode, hshared, ?_⟩
  obtain ⟨m, t, runtime, hs, hmounted, -⟩ := weights_mounted hplan hd hkind hmode hshared
  have ht : (observe cachedService (sourcedSnapshot [weightsCache])
      Policy.standard).template.ready? = some (.ofObject .cluster sourcedTemplate) := by
    decide +kernel
  cases hs.template.symm.trans ht
  have hready : weightsCache.ReadyFor ⟨"weights", "hf://llama", none⟩ := ⟨rfl, rfl⟩
  obtain ⟨c, hc, -, claim, hclaim, hmount⟩ := hmounted ⟨"weights", "hf://llama", none⟩
    (List.mem_singleton_self _) ⟨weightsCache, List.mem_singleton_self _, hready⟩
    (fun c hc _ => by rw [List.mem_singleton.1 hc]; rfl)
  rw [List.mem_singleton.1 hc] at hclaim
  cases hclaim
  exact ⟨m, _, runtime, hs, hmount⟩

/-- Without a cache of its source the runtime is sent as well, and nothing that is claimed
stands where the weights should be. -/
theorem uncached_weights_not_mounted :
    ∃ plan d, (observe cachedService (sourcedSnapshot []) Policy.standard).plan
        cachedService Policy.standard = .ok plan ∧
      d ∈ plan.objects ∧ d.kind = .inferenceService ∧ d.mode = .wholeObject ∧
      (observe cachedService (sourcedSnapshot []) Policy.standard).caching.storage =
        some .sharedCache ∧
      ∃ m t runtime, (observe cachedService (sourcedSnapshot []) Policy.standard).Sends
          cachedService Policy.standard d m t runtime ∧
        ∃ source ∈ templateSources t (some m), ∀ claim,
          ¬ runtime.MountsClaim (cacheMountPath Policy.standard.cacheMountRoot source.name)
            claim := by
  have hplanned : plansRuntime ((observe cachedService (sourcedSnapshot [])
      Policy.standard).plan cachedService Policy.standard) = true := by decide +kernel
  obtain ⟨plan, hplan, d, hd, hkind, hmode⟩ := exists_of_plansRuntime hplanned
  have hshared : (observe cachedService (sourcedSnapshot []) Policy.standard).caching.storage =
      some .sharedCache := by decide +kernel
  obtain ⟨m, t, runtime, hs⟩ := Observation.exists_sends_of_plan hplan hd hkind hmode
  have ht : (observe cachedService (sourcedSnapshot []) Policy.standard).template.ready? =
      some (.ofObject .cluster sourcedTemplate) := by decide +kernel
  refine ⟨plan, d, hplan, hd, hkind, hmode, hshared, m, t, runtime, hs,
    ⟨"weights", "hf://llama", none⟩, ?_, ?_⟩
  · cases hs.template.symm.trans ht
    exact List.mem_singleton_self _
  · intro claim hmount
    obtain ⟨source, -, hclaim, -⟩ :=
      (hs.mountsClaim_iff hplan hd hkind hmode hshared _ claim).1 hmount
    cases hclaim

end InferenceReconciler
