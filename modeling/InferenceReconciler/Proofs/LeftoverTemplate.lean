import InferenceReconciler.Proofs.OverriddenRuntime
import InferenceReconciler.Proofs.StatusRun

/-!
# Derived templates that are left over

A service without overrides chooses among templates that were not derived. A derived template
that is recorded from the time it had overrides is kept all the same, for as long as it is ready
and serves the model: the test of a recorded template asks for overrides that are satisfied, and
without any there is nothing to ask.
-/

namespace InferenceReconciler

section

variable {service : ServiceObject} {model : ModelRecord} {templates : List TemplateRecord}
  {gpus : List String} {t : TemplateRecord}

theorem mem_candidatesFor_of_resolveBest {ofNamespace : String}
    (h : resolveBest model none templates gpus ofNamespace = .resolved t) :
    t ∈ candidatesFor model templates := by
  obtain ⟨base, hbase, hleads⟩ := resolveBest_eq_resolved h
  cases hleads with
  | itself fits => exact hbase
  | derived o t asked found => cases asked

theorem stillFits_none_none_iff :
    stillFits t model none none = true ↔ t.isReady = true ∧ t.spec.modelName = model.name := by
  simp [stillFits]

/-- A derived template is what a service without a named template and without overrides is
resolved to exactly if it is recorded, ready and of the model, and then it is kept without a
search. -/
theorem derived_resolved_iff_recorded (hm : model.status.isReady = true)
    (hunnamed : trimmed? service.spec.templateName = none)
    (hplain : service.spec.effectiveOverrides = none) (hderived : isDerived t = true) :
    ((observeTemplate service (some model) templates gpus).outcome = .resolved t ↔
      (∃ ref, service.status.bind (·.resolvedTemplate) = some ref ∧
        templates.find? (fun r => r.isReferredBy ref) = some t) ∧
        t.isReady = true ∧ t.spec.modelName = model.name) ∧
      ((observeTemplate service (some model) templates gpus).outcome = .resolved t →
        (observeTemplate service (some model) templates gpus).reused = true) := by
  rw [observeTemplate_of_ready service hm, hunnamed, hplain, ← stillFits_none_none_iff,
    ← recorded?_eq_some_iff]
  cases hrecorded : recorded? (service.status.bind (·.resolvedTemplate)) model none none
      templates with
  | some r => simp
  | none =>
    have hsearched : searchedTemplate service model templates gpus ≠ .resolved t := by
      intro h
      unfold searchedTemplate at h
      rw [hunnamed, hplain] at h
      have hcandidate := (mem_candidatesFor_iff.1 (mem_candidatesFor_of_resolveBest h)).2.2
      rw [hderived] at hcandidate
      cases hcandidate
    simp [hsearched]

end

def fourGpuTemplate : TemplateRecord :=
  .ofObject .namespaced ((derivedTemplate (.ofObject .cluster cachedTemplate) fourGpus
    "default").arrived (some "d1") (some ⟨.ready, [], none⟩))

/-- The service without overrides, with the status of the time when it had them. -/
def formerlyOverridden : ServiceObject :=
  cachedService.withStatus
    { ServiceStatus.initial with resolvedTemplate := some fourGpuTemplate.reference }

/-- The recorded template is kept, also where it comes behind the one that it was derived from. -/
theorem recorded_four_gpus_kept :
    observeTemplate formerlyOverridden (some (.ofObject .cluster cachedModel))
      [.ofObject .cluster cachedTemplate, fourGpuTemplate] ["MI300X"] =
        ⟨.resolved fourGpuTemplate, true⟩ := by
  have hfound : [.ofObject .cluster cachedTemplate, fourGpuTemplate].find?
      (fun r => r.isReferredBy fourGpuTemplate.reference) = some fourGpuTemplate := by
    decide +kernel
  obtain ⟨hiff, hreused⟩ := @derived_resolved_iff_recorded formerlyOverridden
    (.ofObject .cluster cachedModel) [.ofObject .cluster cachedTemplate, fourGpuTemplate]
    ["MI300X"] fourGpuTemplate rfl rfl rfl (by decide +kernel)
  have houtcome := hiff.2 ⟨⟨_, rfl, hfound⟩, rfl, rfl⟩
  exact congrArg₂ TemplateObservation.mk houtcome (hreused houtcome)

/-- The service is resolved to the derived template because of its overrides. Once they are gone it
is still resolved to it, where without the status it would get the template of one GPU. -/
theorem derived_template_outlives_overrides :
    (observe overriddenService derivedSnapshot Policy.standard).template.outcome =
        .resolved fourGpuTemplate ∧
      isDerived fourGpuTemplate = true ∧
      formerlyOverridden.spec = { overriddenService.spec with overrides := none } ∧
      (observe formerlyOverridden derivedSnapshot Policy.standard).template =
        ⟨.resolved fourGpuTemplate, true⟩ ∧
      (observe cachedService derivedSnapshot Policy.standard).template =
        ⟨.resolved (.ofObject .cluster cachedTemplate), false⟩ :=
  ⟨by decide +kernel, by decide +kernel, rfl, by decide +kernel, by decide +kernel⟩

end InferenceReconciler
