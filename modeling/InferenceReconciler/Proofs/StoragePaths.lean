import InferenceReconciler.Proofs.PlannedRuntime
import InferenceReconciler.Proofs.SentRuntime
import InferenceReconciler.Proofs.StatusSettles

/-!
# Storage paths

The weights of a service come from the shared cache of its template or from a volume of its own.
The choice is made once, in the observation, and five places act on it: the cache and the volume
to create, the caches to delete, the volumes of the runtime and its gate. What goes along with
each choice is said by `CachingObservation.StoragePath`, and that no place mixes the two follows
from it.
-/

namespace InferenceReconciler

namespace CachingObservation

/-- What goes along with the way in which the weights are stored. -/
inductive StoragePath (intent : CachingIntent) (o : CachingObservation) : Prop where
  /-- There is no template whose weights could be stored. -/
  | undecided (creates : o.shouldCreateCache = false) (deletes : o.retryDeletes = [])
      (mounts : o.mounts = []) (volume : o.volume = none) : StoragePath intent o
  /-- No volume is looked at, and caches are deleted only while theirs is not ready. -/
  | shared (intended : intent ≠ .requireDedicated) (storage : o.storage = some .sharedCache)
      (deletes : o.retryDeletes ≠ [] → o.cacheIsReady = false) (volume : o.volume = none) :
      StoragePath intent o
  /-- No cache is created, deleted or mounted. -/
  | dedicated (intended : intent ≠ .requireShared) (creates : o.shouldCreateCache = false)
      (deletes : o.retryDeletes = []) (mounts : o.mounts = []) : StoragePath intent o

variable {intent : CachingIntent} {o : CachingObservation}

theorem volumeInUse?_eq_none_of_volume (h : o.volume = none) : o.volumeInUse? = none := by
  unfold volumeInUse?
  rw [h]
  split <;> rfl

namespace StoragePath

theorem volume_of_requireShared (h : o.StoragePath .requireShared) : o.volume = none := by
  cases h with
  | undecided creates deletes mounts volume => exact volume
  | shared intended storage deletes volume => exact volume
  | dedicated intended creates deletes mounts => exact absurd rfl intended

theorem caches_of_requireDedicated (h : o.StoragePath .requireDedicated) :
    o.shouldCreateCache = false ∧ o.retryDeletes = [] ∧ o.mounts = [] := by
  cases h with
  | undecided creates deletes mounts volume => exact ⟨creates, deletes, mounts⟩
  | shared intended storage deletes volume => exact absurd rfl intended
  | dedicated intended creates deletes mounts => exact ⟨creates, deletes, mounts⟩

theorem volume_or_caches (h : o.StoragePath intent) :
    o.volume = none ∨ o.shouldCreateCache = false ∧ o.retryDeletes = [] ∧ o.mounts = [] := by
  cases h with
  | undecided creates deletes mounts volume => exact Or.inl volume
  | shared intended storage deletes volume => exact Or.inl volume
  | dedicated intended creates deletes mounts => exact Or.inr ⟨creates, deletes, mounts⟩

/-- While caches are deleted the weights are not in place. -/
theorem storageReady_of_deletes (h : o.StoragePath intent) (hd : o.retryDeletes ≠ []) :
    o.storageReady = false := by
  cases h with
  | undecided creates deletes mounts volume => exact absurd deletes hd
  | shared intended storage deletes volume =>
    unfold storageReady
    rw [storage]
    exact deletes hd
  | dedicated intended creates deletes mounts => exact absurd deletes hd

end StoragePath

end CachingObservation

theorem any_isReady_of_failed {cache : Option SharedCache}
    (h : (cache.any fun c => c.status = .failed) = true) :
    (cache.any fun c => c.status.isReady) = false := by
  obtain ⟨c, rfl, hfailed⟩ := (Option.any_eq_true _ _).1 h
  have hs : c.status = .failed := of_decide_eq_true hfailed
  rw [Option.any_some, hs]
  rfl

theorem storagePath_observeCaching (service : ServiceObject) (template : Option TemplateRecord)
    (model : Option ModelRecord) (fetched : CacheFetch) (config : EffectiveConfig)
    (intent : CachingIntent) (policy : Policy) :
    (observeCaching service template model fetched config intent policy).StoragePath intent := by
  cases ht : template.filter TemplateRecord.isReady with
  | none =>
    rw [observeCaching_of_not_ready service model fetched config intent policy ht]
    exact .undecided rfl rfl rfl rfl
  | some t =>
    simp only [observeCaching, ht]
    split
    · rename_i hchoice
      refine .shared ?_ rfl ?_ rfl
      · rintro rfl
        cases hchoice
      · intro hdeletes
        apply any_isReady_of_failed
        by_contra hfailed
        exact hdeletes (if_neg fun hretry => hfailed (Bool.and_eq_true_iff.1 hretry).1)
    · rename_i hchoice
      refine .dedicated ?_ rfl rfl rfl
      rintro rfl
      cases hchoice

namespace Observation

variable {o : Observation} {service : ServiceObject} {policy : Policy} {plan : Plan}

theorem plannedVolume_of_volume (h : o.caching.volume = none) :
    o.plannedVolume service = .ok [] := by
  have hnone : o.volumeToCreate? = none := by
    unfold volumeToCreate?
    rw [h]
    split
    · rename_i hsome
      cases hsome
    · rfl
  unfold plannedVolume
  rw [hnone]

theorem ofKind_volumeClaim_of_volume (h : o.plan service policy = .ok plan)
    (hv : o.caching.volume = none) : plan.ofKind .volumeClaim = [] := by
  by_cases he : o.config.error = none
  · have hplanned := (plannedByKind_of_plan he h).volume
    rw [plannedVolume_of_volume hv] at hplanned
    exact (Except.ok.inj hplanned).symm
  · rw [plan_of_config_error he] at h
    cases h
    rfl

theorem ofKind_templateCache_of_not_creates (h : o.plan service policy = .ok plan)
    (hc : o.caching.shouldCreateCache = false) : plan.ofKind .templateCache = [] := by
  by_cases he : o.config.error = none
  · rw [(plannedByKind_of_plan he h).templateCache]
    unfold cacheToCreate?
    rw [Option.filter_eq_none_iff.2 fun _ _ => Bool.not_eq_true _ ▸ hc]
    rfl
  · rw [plan_of_config_error he] at h
    cases h
    rfl

theorem deletes_of_not_deletes (h : o.plan service policy = .ok plan)
    (hd : o.caching.retryDeletes = []) : plan.deletes = [] := by
  apply List.eq_nil_iff_forall_not_mem.2
  intro d hmem
  obtain ⟨-, hname⟩ := deletes_of_plan h d hmem
  rw [hd] at hname
  cases hname

end Observation

section

variable {service : ServiceObject} {snapshot : Snapshot} {policy : Policy}

theorem storagePath_observe (snapshot : Snapshot) (policy : Policy) {intent : CachingIntent}
    (h : CachingIntent.ofService service.spec = .ok intent) :
    (observe service snapshot policy).caching.StoragePath intent := by
  have hintent : (observe service snapshot policy).config.intent = intent := by
    simp only [observe, observeConfig, h]
  rw [← hintent]
  exact storagePath_observeCaching _ _ _ _ _ _ _

/-- A plan and its runtime keep to one way of storing the weights. One that has to be shared has
no volume and one that has to be dedicated touches no cache. Whatever the intent, a cache and a
volume are never created together and never mounted together, and a plan that deletes failed
caches neither creates a volume nor sends a whole runtime. -/
theorem storage_paths_exclusive {plan : Plan}
    (h : (observe service snapshot policy).plan service policy = .ok plan) :
    let o := observe service snapshot policy
    (CachingIntent.ofService service.spec = .ok .requireShared →
      plan.ofKind .volumeClaim = [] ∧ o.caching.volume = none ∧ o.caching.volumeInUse? = none) ∧
    (CachingIntent.ofService service.spec = .ok .requireDedicated →
      plan.ofKind .templateCache = [] ∧ plan.deletes = [] ∧ o.caching.mounts = []) ∧
    (plan.ofKind .templateCache = [] ∨ plan.ofKind .volumeClaim = []) ∧
    (o.caching.volumeInUse? = none ∨ o.caching.mounts = []) ∧
    (∀ d ∈ plan.ofKind .inferenceService, d.mode = .wholeObject →
      ∃ m t runtime, o.Sends service policy d m t runtime ∧
        (runtime.spec.predictor.volumes =
            (runtimeVolumes none o.caching.mounts policy).volumes ∨
          runtime.spec.predictor.volumes =
            (runtimeVolumes (o.caching.volumeInUse?.map (·.name)) [] policy).volumes)) ∧
    (plan.deletes ≠ [] → plan.ofKind .volumeClaim = [] ∧
      ∀ d ∈ plan.ofKind .inferenceService, d.mode ≠ .wholeObject) := by
  intro o
  have hpath : o.caching.StoragePath o.config.intent := storagePath_observeCaching _ _ _ _ _ _ _
  have hone : o.caching.volumeInUse? = none ∨ o.caching.mounts = [] :=
    hpath.volume_or_caches.imp CachingObservation.volumeInUse?_eq_none_of_volume fun hc => hc.2.2
  refine ⟨?_, ?_, ?_, hone, ?_, ?_⟩
  · intro hshared
    have hvolume := (storagePath_observe snapshot policy hshared).volume_of_requireShared
    exact ⟨Observation.ofKind_volumeClaim_of_volume h hvolume, hvolume,
      CachingObservation.volumeInUse?_eq_none_of_volume hvolume⟩
  · intro hdedicated
    obtain ⟨hcreates, hdeletes, hmounts⟩ :=
      (storagePath_observe snapshot policy hdedicated).caches_of_requireDedicated
    exact ⟨Observation.ofKind_templateCache_of_not_creates h hcreates,
      Observation.deletes_of_not_deletes h hdeletes, hmounts⟩
  · rcases hpath.volume_or_caches with hvolume | ⟨hcreates, -, -⟩
    · exact Or.inr (Observation.ofKind_volumeClaim_of_volume h hvolume)
    · exact Or.inl (Observation.ofKind_templateCache_of_not_creates h hcreates)
  · intro d hd hmode
    obtain ⟨hmem, hkind⟩ := List.mem_filter.1 hd
    obtain ⟨m, t, runtime, hs⟩ :=
      Observation.exists_sends_of_plan h hmem (of_decide_eq_true hkind) hmode
    obtain ⟨container, -, -, -, hvolumes⟩ := container_of_runtimeFor hs.built
    refine ⟨m, t, runtime, hs, ?_⟩
    rcases hone with hnone | hnil
    · rw [hnone, Option.map_none] at hvolumes
      exact Or.inl hvolumes
    · rw [hnil] at hvolumes
      exact Or.inr hvolumes
  · intro hdeletes
    have hretries : o.caching.retryDeletes ≠ [] :=
      fun hnil => hdeletes (Observation.deletes_of_not_deletes h hnil)
    refine ⟨?_, ?_⟩
    · rcases hpath.volume_or_caches with hvolume | ⟨-, hnil, -⟩
      · exact Observation.ofKind_volumeClaim_of_volume h hvolume
      · exact absurd hnil hretries
    · intro d hd hmode
      obtain ⟨hmem, hkind⟩ := List.mem_filter.1 hd
      obtain ⟨m, t, hgate⟩ :=
        GateOpen.of_planned_runtime h ⟨d, hmem, of_decide_eq_true hkind, hmode⟩
      have hready := hgate.storageReady
      rw [hpath.storageReady_of_deletes hretries] at hready
      cases hready

end

/-- The shared cache has failed under a runtime that is there. -/
def failedUnderRuntime : Snapshot := { failedCachePass.snapshot with runtime := some default }

/-- The failed cache is deleted to be made anew, and the runtime is not sent as a whole. -/
theorem retrying_plan_patches_runtime :
    ∃ plan, (observe failedCachePass.service failedUnderRuntime failedCachePass.policy).plan
        failedCachePass.service failedCachePass.policy = .ok plan ∧
      plan.deletes ≠ [] ∧ plan.ofKind .volumeClaim = [] ∧
      plan.ofKind .inferenceService ≠ [] ∧
      ∀ d ∈ plan.ofKind .inferenceService, d.mode ≠ .wholeObject := by
  have hplanned : ((observe failedCachePass.service failedUnderRuntime
      failedCachePass.policy).plan failedCachePass.service
        failedCachePass.policy).toOption.any (fun p =>
          !p.deletes.isEmpty && !(p.ofKind .inferenceService).isEmpty) = true := by
    decide +kernel
  obtain ⟨plan, hplan, hparts⟩ := exists_of_any_toOption hplanned
  obtain ⟨hdeletes, hruntime⟩ := Bool.and_eq_true_iff.1 hparts
  have hretries : plan.deletes ≠ [] := by simpa using hdeletes
  obtain ⟨hvolume, hpatched⟩ := (storage_paths_exclusive hplan).2.2.2.2.2 hretries
  exact ⟨plan, hplan, hretries, hvolume, by simpa using hruntime, hpatched⟩

end InferenceReconciler
