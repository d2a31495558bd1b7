import InferenceReconciler.Proofs.BlockedProjection
import InferenceReconciler.Proofs.ReachedCaching

/-!
# Planned runtimes in the status

The planner and the projection read the same observation apart from one another. A runtime
that is planned as a whole has passed the gate, and what opens the gate lets the projection
pass the configuration, the model, the template and the caches. The two disagree about the
temporary volume alone: the gate asks whether it is there, the projection asks first whether
its size is known.
-/

namespace InferenceReconciler

namespace CachingObservation

variable {o : CachingObservation}

theorem blocking_projectCaching_of_storageReady (h : o.storageReady = true)
    (prior : Option ServiceCacheStatus) : (o.projectCaching prior).blocking = false := by
  unfold storageReady at h
  unfold projectCaching
  split at h
  · rename_i hstorage
    obtain ⟨c, hc, hready⟩ := (Option.any_eq_true _ _).1 h
    have hs : c.status = .ready := of_decide_eq_true hready
    simp only [hstorage, hc, projectShared, hs]
    rfl
  · rename_i hstorage
    simp only [hstorage]
    split <;> rfl
  · cases h

theorem blocking_projectStorage_iff :
    o.projectStorage.blocking = true ↔
      o.storage = some .temporaryVolume ∧
        ∃ v problem, o.volume = some v ∧ v.sizeGi = .error problem := by
  unfold projectStorage
  by_cases hstorage : o.storage = some .temporaryVolume
  · cases hv : o.volume with
    | none =>
      constructor
      · intro hblocking
        cases hblocking
      · rintro ⟨-, v, problem, hnone, -⟩
        cases hnone
    | some v =>
      rw [Option.filter_some, if_pos (decide_eq_true hstorage)]
      dsimp only
      cases hsize : v.sizeGi with
      | error problem => exact ⟨fun _ => ⟨hstorage, v, problem, rfl, hsize⟩, fun _ => rfl⟩
      | ok gi =>
        constructor
        · intro hblocking
          dsimp only at hblocking
          split at hblocking
          · cases hblocking
          · split at hblocking <;> cases hblocking
        · rintro ⟨-, v', problem, hv', herror⟩
          cases hv'
          rw [hsize] at herror
          cases herror
  · rw [Option.filter_eq_none_iff.2 fun _ _ => by simpa using hstorage]
    constructor
    · intro hblocking
      cases hblocking
    · rintro ⟨hchosen, -⟩
      exact absurd hchosen hstorage

/-- Storage that is ready blocks if and only if a volume of unknown size is in use. -/
theorem blocking_projectStorage_iff_of_storageReady (h : o.storageReady = true)
    {size : Except Problem Nat}
    (hsize : o.storage = some .temporaryVolume → o.volume.map (·.sizeGi) = some size) :
    o.projectStorage.blocking = true ↔
      o.volumeInUse?.isSome = true ∧ ∃ problem, size = .error problem := by
  rw [blocking_projectStorage_iff]
  constructor
  · rintro ⟨hstorage, v, problem, hv, hunknown⟩
    unfold storageReady at h
    simp only [hstorage, hv, Option.any_some] at h
    refine ⟨by simp [volumeInUse?, hstorage, hv, h], problem, ?_⟩
    have hmap := hsize hstorage
    rw [hv, Option.map_some, hunknown] at hmap
    exact (Option.some.inj hmap).symm
  · rintro ⟨hinUse, problem, rfl⟩
    unfold volumeInUse? at hinUse
    split at hinUse
    · rename_i hstorage
      obtain ⟨v, hv, hunknown⟩ := Option.map_eq_some_iff.1 (hsize hstorage)
      exact ⟨hstorage, v, problem, hv, hunknown⟩
    · cases hinUse

end CachingObservation

theorem sizeGi_observeCaching {service : ServiceObject} {t : TemplateRecord}
    {model : Option ModelRecord} {fetched : CacheFetch} {config : EffectiveConfig}
    {intent : CachingIntent} {policy : Policy} (ht : t.isReady = true)
    (h : (observeCaching service (some t) model fetched config intent policy).storage =
      some .temporaryVolume) :
    (observeCaching service (some t) model fetched config intent policy).volume.map (·.sizeGi) =
      some (storageSizeGi (templateSources t model) config.headroomPercent) := by
  simp only [observeCaching, Option.filter_some, ht, if_true] at h ⊢
  split
  · rename_i hchoice
    rw [hchoice] at h
    cases h
  · rfl

section

variable {service : ServiceObject} {snapshot : Snapshot} {policy : Policy} {m : ModelRecord}
  {t : TemplateRecord}

/-- A runtime is planned as a whole behind an open gate only. -/
theorem GateOpen.of_planned_runtime {plan : Plan}
    (h : (observe service snapshot policy).plan service policy = .ok plan)
    (hruntime : ∃ d ∈ plan.objects, d.kind = .inferenceService ∧ d.mode = .wholeObject) :
    ∃ m t, GateOpen service snapshot policy m t := by
  obtain ⟨d, hd, hkind, hmode⟩ := hruntime
  by_cases he : (observe service snapshot policy).config.error = none
  · have hentries := Observation.runtimeEntries_of_plan he h
    have hmem : d ∈ plan.ofKind .inferenceService :=
      List.mem_filter.2 ⟨hd, decide_eq_true hkind⟩
    exact (runtimeParts?_isSome_iff he).1 (hentries.exists_whole_iff.1 ⟨d, hmem, hmode⟩)
  · rw [Observation.plan_of_config_error he] at h
    cases h
    cases hd

theorem GateOpen.storageReady (h : GateOpen service snapshot policy m t) :
    (observe service snapshot policy).caching.storageReady = true :=
  (isOpen_runtime_iff.1 ((gateOpen_iff h.config).1 h).2.2).2.2

theorem GateOpen.reached_storage (h : GateOpen service snapshot policy m t) (now : Timestamp) :
    Component.storage.Reached
      ((observe service snapshot policy).project now service).blockedBy := by
  have htemplate := ((gateOpen_iff h.config).1 h).2.1
  have hcaching := (reached_caching_iff now service).2 ⟨h.config, t, htemplate⟩
  refine hcaching.next ?_ (by decide)
  intro hblocked
  have hblocking := ((Observation.blockedBy_eq_some_iff _ now service .caching).1 hblocked).2
  have hready := CachingObservation.blocking_projectCaching_of_storageReady h.storageReady
    service.lastStatus.cache
  exact Bool.false_ne_true (hready.symm.trans hblocking)

theorem GateOpen.blockedBy_storage_iff (h : GateOpen service snapshot policy m t)
    (now : Timestamp) :
    ((observe service snapshot policy).project now service).blockedBy = some .storage ↔
      (observe service snapshot policy).caching.volumeInUse?.isSome = true ∧
        ∃ problem, storageSizeGi (templateSources t (some m))
          (observe service snapshot policy).config.effective.headroomPercent =
            .error problem := by
  obtain ⟨hmodel, htemplate, -⟩ := (gateOpen_iff h.config).1 h
  have htready := (TemplateObservation.ready?_eq_some_iff.1 htemplate).2
  rw [Observation.blockedBy_eq_some_iff, and_iff_right (h.reached_storage now)]
  refine CachingObservation.blocking_projectStorage_iff_of_storageReady h.storageReady ?_
  rw [caching_of_ready htemplate, hmodel]
  exact sizeGi_observeCaching htready

/-- A pass that plans a runtime as a whole is not blocked before the storage. It is blocked
there if and only if the runtime uses a volume for sources of unknown size, and otherwise the
health of the runtime is written in the same pass. -/
theorem project_of_planned_runtime {plan : Plan}
    (h : (observe service snapshot policy).plan service policy = .ok plan)
    (hruntime : ∃ d ∈ plan.objects, d.kind = .inferenceService ∧ d.mode = .wholeObject)
    (now : Timestamp) :
    let o := observe service snapshot policy
    let pass := o.project now service
    (∀ c ∈ [Component.config, .model, .template, .caching], pass.blockedBy ≠ some c) ∧
    (∃ m t, GateOpen service snapshot policy m t ∧
      (pass.blockedBy = some .storage ↔ o.caching.volumeInUse?.isSome = true ∧
        ∃ problem, storageSizeGi (templateSources t (some m))
          o.config.effective.headroomPercent = .error problem)) ∧
    (pass.blockedBy ≠ some .storage → pass.status.Shows o.runtime.health) := by
  intro o pass
  obtain ⟨m, t, hgate⟩ := GateOpen.of_planned_runtime h hruntime
  have hreached : Component.storage.Reached pass.blockedBy := hgate.reached_storage now
  refine ⟨?_, ⟨m, t, hgate, hgate.blockedBy_storage_iff now⟩, ?_⟩
  · have hbefore : ∀ c ∈ [Component.config, .model, .template, .caching],
        c.position < Component.storage.position := by decide
    intro c hc hblocked
    exact absurd (hreached c hblocked) (Nat.not_le_of_lt (hbefore c hc))
  · intro hstorage
    have hnext : Component.runtime.Reached pass.blockedBy :=
      hreached.next hstorage (by decide)
    exact o.shows_of_reached now service hnext rfl

end

/-- A plan that is made and has an entry for a whole runtime. -/
def plansRuntime (plan : Except Fault Plan) : Bool :=
  plan.toOption.any fun p =>
    p.objects.any fun d => d.kind = .inferenceService && d.mode = .wholeObject

theorem exists_of_plansRuntime {plan : Except Fault Plan} (h : plansRuntime plan = true) :
    ∃ p, plan = .ok p ∧
      ∃ d ∈ p.objects, d.kind = .inferenceService ∧ d.mode = .wholeObject := by
  obtain ⟨p, rfl, hany⟩ := exists_of_any_toOption h
  obtain ⟨d, hd, hwhole⟩ := List.any_eq_true.1 hany
  rw [Bool.and_eq_true, decide_eq_true_eq, decide_eq_true_eq] at hwhole
  exact ⟨p, rfl, d, hd, hwhole⟩

theorem project_of_cached_runtime :
    ∃ plan, (observe cachedService cachedSnapshot Policy.standard).plan cachedService
        Policy.standard = .ok plan ∧
      (∃ d ∈ plan.objects, d.kind = .inferenceService ∧ d.mode = .wholeObject) ∧
      ∀ now, ((observe cachedService cachedSnapshot Policy.standard).project now
        cachedService).status.Shows
          (observe cachedService cachedSnapshot Policy.standard).runtime.health := by
  have hplanned : plansRuntime ((observe cachedService cachedSnapshot Policy.standard).plan
      cachedService Policy.standard) = true := by decide +kernel
  obtain ⟨plan, hplan, hruntime⟩ := exists_of_plansRuntime hplanned
  refine ⟨plan, hplan, hruntime, fun now => ?_⟩
  obtain ⟨-, -, hshown⟩ := project_of_planned_runtime hplan hruntime now
  apply hshown
  rw [Observation.blockedBy_project]
  decide +kernel

def dedicatedService : ServiceObject :=
  { cachedService with spec := { cachedService.spec with cacheModel := some false } }

/-- The volume is there and bound, and the template does not say how large its sources are. -/
def unsizedSnapshot : Snapshot :=
  { cachedSnapshot with
    caches := ⟨[], [], some ⟨Metadata.empty, none, some ⟨some "Bound"⟩⟩⟩ }

/-- A runtime is planned over a volume whose size is not known, and the projection of the same
observation is blocked by the storage. -/
theorem planned_runtime_behind_blocked_storage :
    ∃ plan, (observe dedicatedService unsizedSnapshot Policy.standard).plan dedicatedService
        Policy.standard = .ok plan ∧
      (∃ d ∈ plan.objects, d.kind = .inferenceService ∧ d.mode = .wholeObject) ∧
      ∀ now, ((observe dedicatedService unsizedSnapshot Policy.standard).project now
        dedicatedService).blockedBy = some .storage := by
  have hplanned : plansRuntime ((observe dedicatedService unsizedSnapshot Policy.standard).plan
      dedicatedService Policy.standard) = true := by decide +kernel
  obtain ⟨plan, hplan, hruntime⟩ := exists_of_plansRuntime hplanned
  refine ⟨plan, hplan, hruntime, fun now => ?_⟩
  rw [Observation.blockedBy_project]
  decide +kernel

end InferenceReconciler
