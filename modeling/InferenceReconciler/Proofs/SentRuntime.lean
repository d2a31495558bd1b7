import InferenceReconciler.Proofs.OpenGate

/-!
# Runtimes that are sent

A whole runtime in a plan is the one built of the resolved model and the ready template. It has
one container, with the volumes and the variables that were made for it.
-/

namespace InferenceReconciler

/-- The entry of a plan sends the runtime that is built of the model and the template. -/
structure Observation.Sends (o : Observation) (service : ServiceObject) (policy : Policy)
    (d : PlannedObject) (m : ModelRecord) (t : TemplateRecord) (runtime : InferenceService) :
    Prop where
  model : o.model.resolved = some m
  template : o.template.ready? = some t
  built : runtimeFor service o.runtime.name m t o.caching o.config.effective policy = .ok runtime
  body : ∃ r, ownerReference service = .ok r ∧
    d.body = withOwner r (applyBody .inferenceService (Wire.write runtime))

namespace Observation

variable {o : Observation} {service : ServiceObject} {policy : Policy} {d : PlannedObject}

theorem runtimeParts?_eq_some {m : ModelRecord} {t : TemplateRecord}
    (h : o.runtimeParts? = some (m, t)) :
    o.model.resolved = some m ∧ o.template.ready? = some t := by
  unfold runtimeParts? at h
  split at h
  · rename_i hm ht
    split at h
    · cases h
      exact ⟨hm, ht⟩
    · cases h
  · cases h

theorem exists_sends_of_plannedRuntime {l : List PlannedObject}
    (h : o.plannedRuntime service policy = .ok l) (hd : d ∈ l) (hmode : d.mode = .wholeObject) :
    ∃ m t runtime, o.Sends service policy d m t runtime := by
  unfold plannedRuntime at h
  split at h
  · rename_i m t hparts
    obtain ⟨hm, ht⟩ := runtimeParts?_eq_some hparts
    obtain ⟨runtime, hbuilt, h⟩ := exists_of_bind_eq_ok h
    obtain ⟨entry, hentry, h⟩ := exists_of_bind_eq_ok h
    cases h
    obtain ⟨r, hr, rfl⟩ := exists_of_map_eq_ok hentry
    refine ⟨m, t, runtime, hm, ht, hbuilt, r, hr, ?_⟩
    rw [List.mem_singleton.1 hd]
  · obtain ⟨patch, -, h⟩ := exists_of_bind_eq_ok h
    cases h
    rw [List.mem_singleton.1 hd] at hmode
    cases hmode
  · cases h
    cases hd

theorem exists_sends_of_plan {plan : Plan} (h : o.plan service policy = .ok plan)
    (hd : d ∈ plan.objects) (hkind : d.kind = .inferenceService) (hmode : d.mode = .wholeObject) :
    ∃ m t runtime, o.Sends service policy d m t runtime := by
  have hmem : d ∈ plan.ofKind .inferenceService := hkind ▸ Plan.mem_ofKind hd
  have hruntime := (plannedByKind_of_plan (error_of_mem_objects h hd) h).runtime
  exact exists_sends_of_plannedRuntime hruntime hmem hmode

end Observation

theorem container_of_runtimeFor {service : ServiceObject} {name : String} {m : ModelRecord}
    {t : TemplateRecord} {caching : CachingObservation} {config : EffectiveConfig}
    {policy : Policy} {runtime : InferenceService}
    (h : runtimeFor service name m t caching config policy = .ok runtime) :
    ∃ container, runtime.spec.predictor.containers = [container] ∧
      container.name = servingContainer ∧
      container.volumeMounts = some (runtimeVolumes (caching.volumeInUse?.map (·.name))
        caching.mounts policy).mounts ∧
      runtime.spec.predictor.volumes =
        (runtimeVolumes (caching.volumeInUse?.map (·.name)) caching.mounts policy).volumes := by
  obtain ⟨resources, -, h⟩ := exists_of_bind_eq_ok h
  cases h
  exact ⟨_, rfl, rfl, rfl, rfl⟩

theorem resources_of_runtimeFor {service : ServiceObject} {name : String} {m : ModelRecord}
    {t : TemplateRecord} {caching : CachingObservation} {config : EffectiveConfig}
    {policy : Policy} {runtime : InferenceService}
    (h : runtimeFor service name m t caching config policy = .ok runtime) :
    ∃ resources container, runtimeResources service.spec t policy = .ok resources ∧
      runtime.spec.predictor.containers = [container] ∧ container.name = servingContainer ∧
      container.resources = some resources.inContainer := by
  obtain ⟨resources, hresources, h⟩ := exists_of_bind_eq_ok h
  cases h
  exact ⟨resources, _, hresources, rfl, rfl, rfl⟩

theorem env_of_runtimeFor {service : ServiceObject} {name : String} {m : ModelRecord}
    {t : TemplateRecord} {caching : CachingObservation} {config : EffectiveConfig}
    {policy : Policy} {runtime : InferenceService}
    (h : runtimeFor service name m t caching config policy = .ok runtime) :
    ∃ container, runtime.spec.predictor.containers = [container] ∧
      container.name = servingContainer ∧
      container.env = some ((runtimeEnv service.spec m t config).map fun v =>
        { name := v.name, value := some v.value }) := by
  obtain ⟨resources, -, h⟩ := exists_of_bind_eq_ok h
  cases h
  exact ⟨_, rfl, rfl, rfl⟩

end InferenceReconciler
