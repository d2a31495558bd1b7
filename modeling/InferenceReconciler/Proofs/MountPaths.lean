import InferenceReconciler.Proofs.FirstReadyCache
import InferenceReconciler.Proofs.Ownership

/-!
# Mount paths

Where the serving container mounts its volumes. The directory of a source is named after the
source as it is, so two sources share a directory exactly if they share a name, and nothing tells
them apart there as the names of their volumes are told apart. Besides that a source may be called
in such a way that its directory is that of the shared memory.
-/

namespace InferenceReconciler

theorem cacheMountPath_injective (root : String) : Function.Injective (cacheMountPath root) := by
  intro a b h
  exact (String.append_right_inj _).1 h

section

variable (temporaryClaim : Option String) (mounts : List CacheMount) (policy : Policy)

theorem paths_runtimeVolumes :
    (runtimeVolumes temporaryClaim mounts policy).mounts.map (·.mountPath) =
      "/dev/shm" :: (temporaryClaim.toList.map fun _ => policy.cacheMountRoot) ++
        mounts.map fun m => cacheMountPath policy.cacheMountRoot m.sourceName := by
  unfold runtimeVolumes
  simp only [List.map_cons, List.map_append, List.map_map]
  conv_rhs =>
    rw [← map_snd_zip_cacheVolumeNames mounts (fixedVolumeNames temporaryClaim)]
  rw [List.map_map]
  rfl

/-- Without a volume of its own, a runtime mounts at different places exactly if its sources have
different names and none of them is mounted over the shared memory. -/
theorem nodup_paths_runtimeVolumes :
    ((runtimeVolumes none mounts policy).mounts.map (·.mountPath)).Nodup ↔
      (mounts.map (·.sourceName)).Nodup ∧
        ∀ name ∈ mounts.map (·.sourceName),
          cacheMountPath policy.cacheMountRoot name ≠ "/dev/shm" := by
  have hpaths : (mounts.map fun m => cacheMountPath policy.cacheMountRoot m.sourceName) =
      (mounts.map (·.sourceName)).map (cacheMountPath policy.cacheMountRoot) := by
    rw [List.map_map]
    rfl
  rw [paths_runtimeVolumes, hpaths]
  change ("/dev/shm" :: (mounts.map (·.sourceName)).map
    (cacheMountPath policy.cacheMountRoot)).Nodup ↔ _
  rw [List.nodup_cons, List.nodup_map_iff (cacheMountPath_injective policy.cacheMountRoot),
    and_comm, List.mem_map]
  refine and_congr_right fun _ => ?_
  constructor
  · intro hfree name hname hpath
    exact hfree ⟨name, hname, hpath⟩
  · rintro hfree ⟨name, hname, hpath⟩
    exact hfree name hname hpath

end

def cachedSources (sources : List ModelSource) (caches : List ModelCacheObject) :
    List ModelSource :=
  sources.filter fun s => (cachedClaim? s caches).isSome

theorem sourceNames_cacheMounts (sources : List ModelSource) (caches : List ModelCacheObject) :
    (cacheMounts sources caches).map (·.sourceName) =
      (cachedSources sources caches).map (·.name) := by
  have hnames : List.Forall₂ (fun s mount => s.name = mount.sourceName)
      (cachedSources sources caches) (cacheMounts sources caches) :=
    (forall₂_cacheMounts sources caches).imp fun s mount h => h.1.symm
  have hequal := List.forall₂_map_left_iff.2 (List.forall₂_map_right_iff.2 hnames)
  rw [List.forall₂_eq_eq_eq] at hequal
  exact hequal.symm

section

variable {service : ServiceObject} {name : String} {m : ModelRecord} {t : TemplateRecord}
  {fetched : CacheFetch} {config effective : EffectiveConfig} {intent : CachingIntent}
  {policy : Policy} {runtime : InferenceService}

/-- A runtime over the ready shared cache mounts at different places exactly if no two of its cached
sources share a name and no directory of theirs is that of the shared memory. -/
theorem mounted_apart_iff (ht : t.isReady = true)
    (hshared : (observeCaching service (some t) (some m) fetched config intent policy).storage =
      some .sharedCache)
    (hready : (observeCaching service (some t) (some m) fetched config intent
      policy).cacheIsReady = true)
    (h : runtimeFor service name m t
      (observeCaching service (some t) (some m) fetched config intent policy) effective policy =
        .ok runtime) :
    let cached := cachedSources (templateSources t (some m)) fetched.modelCaches
    ∃ container mounts, runtime.spec.predictor.containers = [container] ∧
      container.name = servingContainer ∧ container.volumeMounts = some mounts ∧
      ((mounts.map (·.mountPath)).Nodup ↔
        (cached.map (·.name)).Nodup ∧
          ∀ s ∈ cached, cacheMountPath policy.cacheMountRoot s.name ≠ "/dev/shm") := by
  intro cached
  obtain ⟨container, hcontainers, hserving, hmounts, -⟩ := container_of_runtimeFor h
  obtain ⟨hcached, hnone⟩ := mounts_observeCaching ht hshared
  rw [hnone, hcached, if_pos hready, Option.map_none] at hmounts
  refine ⟨container, _, hcontainers, hserving, hmounts, ?_⟩
  rw [nodup_paths_runtimeVolumes, sourceNames_cacheMounts]
  simp only [List.forall_mem_map, cached]

end

/-- A template whose weights and adapter go by these names. -/
def adaptedTemplate (weights adapter : String) : TemplateRecord :=
  { ownFastTemplate with
    spec := { ownFastTemplate.spec with
      modelSources := [⟨weights, "hf://llama", none⟩, ⟨adapter, "hf://adapter", none⟩] } }

def adapterCache : ModelCacheObject :=
  ⟨{ Metadata.empty with name := some "llama-adapter" }, ⟨"hf://adapter", "1Gi", none⟩,
    some ⟨.ready, some "adapter-claim"⟩⟩

def adaptedCaching (weights adapter : String) : CachingObservation :=
  observeCaching cachedService (some (adaptedTemplate weights adapter))
    (some (.ofObject .cluster cachedModel))
    ⟨[readyCacheFor ownFastTemplate], [weightsCache, adapterCache], none⟩ default .requireShared
    Policy.standard

theorem exists_adaptedRuntime (weights adapter : String) :
    ∃ runtime, runtimeFor cachedService "chat" (.ofObject .cluster cachedModel)
      (adaptedTemplate weights adapter) (adaptedCaching weights adapter) default
      Policy.standard = .ok runtime := by
  have hscales : (runtimeResources cachedService.spec ownFastTemplate Policy.standard).isOk =
      true := by decide +kernel
  exact Observation.exists_runtimeFor (t := adaptedTemplate weights adapter) hscales _ _ _ _

theorem adapter_mounted_apart :
    (adaptedCaching "weights" "adapter").storage = some .sharedCache ∧
      (adaptedCaching "weights" "adapter").cacheIsReady = true ∧
      ∃ runtime container mounts,
        runtimeFor cachedService "chat" (.ofObject .cluster cachedModel)
          (adaptedTemplate "weights" "adapter") (adaptedCaching "weights" "adapter") default
          Policy.standard = .ok runtime ∧
        runtime.spec.predictor.containers = [container] ∧
        container.volumeMounts = some mounts ∧ (mounts.map (·.mountPath)).Nodup := by
  have hshared : (adaptedCaching "weights" "adapter").storage = some .sharedCache := by
    decide +kernel
  have hready : (adaptedCaching "weights" "adapter").cacheIsReady = true := by decide +kernel
  obtain ⟨runtime, hbuilt⟩ := exists_adaptedRuntime "weights" "adapter"
  obtain ⟨container, mounts, hcontainers, -, hmounts, hapart⟩ :=
    mounted_apart_iff (t := adaptedTemplate "weights" "adapter") rfl hshared hready hbuilt
  refine ⟨hshared, hready, runtime, container, mounts, hbuilt, hcontainers, hmounts, ?_⟩
  exact hapart.2 (by decide +kernel)

/-- Weights and an adapter of one name are mounted in one directory, both of them cached. -/
theorem namesakes_mounted_together :
    (adaptedTemplate "weights" "weights").isReady = true ∧
      (adaptedCaching "weights" "weights").storage = some .sharedCache ∧
      (adaptedCaching "weights" "weights").cacheIsReady = true ∧
      ∃ runtime container mounts,
        runtimeFor cachedService "chat" (.ofObject .cluster cachedModel)
          (adaptedTemplate "weights" "weights") (adaptedCaching "weights" "weights") default
          Policy.standard = .ok runtime ∧
        runtime.spec.predictor.containers = [container] ∧
        container.volumeMounts = some mounts ∧ ¬ (mounts.map (·.mountPath)).Nodup := by
  have hmounts : (adaptedCaching "weights" "weights").mounts =
      [⟨"weights", "llama-claim"⟩, ⟨"weights", "adapter-claim"⟩] := by decide +kernel
  have hnone : (adaptedCaching "weights" "weights").volumeInUse? = none := by decide +kernel
  obtain ⟨runtime, hbuilt⟩ := exists_adaptedRuntime "weights" "weights"
  obtain ⟨container, hcontainers, -, hvolumeMounts, -⟩ := container_of_runtimeFor hbuilt
  rw [hnone, hmounts] at hvolumeMounts
  refine ⟨rfl, by decide +kernel, by decide +kernel, runtime, container, _, hbuilt, hcontainers,
    hvolumeMounts, ?_⟩
  intro hnodup
  obtain ⟨hnames, -⟩ := (nodup_paths_runtimeVolumes _ Policy.standard).1 hnodup
  revert hnames
  decide

end InferenceReconciler
