import InferenceReconciler.Proofs.DerivableOverrides
import InferenceReconciler.Proofs.NodePlacement
import InferenceReconciler.Proofs.Ownership

/-!
# Placement of what is selected

A template is selected for the GPUs of the cluster by the GPU in its specification, while a runtime
is placed by that GPU or, where there is none, by the one of the discovered profile. So a selected
template is placed on a GPU of the cluster unless it leaves the GPU to a profile that was made on
another, which overrides for a GPU rule out.
-/

namespace InferenceReconciler

/-- The specification leaves the GPU to the profile, and no node has the one of the profile. -/
structure TemplateRecord.ProfiledElsewhere (t : TemplateRecord) (gpus : List String) : Prop where
  unbound : t.spec.gpuModel? = none
  profiled : ∃ model, t.profile?.bind (·.gpu) = some model ∧ GpuModel.canonical model ∉ gpus

section

variable {candidates : List TemplateRecord} {overrides : Option TemplateOverrides}
  {gpus : List String} {t : TemplateRecord}

theorem available_of_selectTemplate (h : selectTemplate candidates overrides gpus = .selected t) :
    Available candidates overrides gpus t := by
  have hfits := List.mem_filter.1 (mem_filter_of_selectTemplate h)
  rw [selectTemplate_of_fits hfits.1 (fitsOverrides_iff.2 hfits.2)] at h
  split at h
  · cases h
  · exact mem_availableAmong_iff.1 (mem_of_selectByHealth h)

theorem runtimeGpuModel?_eq_some {model : String} (h : runtimeGpuModel? t = some model) :
    t.spec.gpuModel? = some model ∨
      t.spec.gpuModel? = none ∧ t.profile?.bind (·.gpu) = some model := by
  have hchosen := (Option.filter_eq_some_iff.1 h).1
  rw [Option.orElse_eq_orElse, Option.orElse_eq_or, Option.or_eq_some_iff] at hchosen
  exact hchosen

theorem runtimeGpuModel?_of_unbound (h : t.spec.gpuModel? = none) :
    runtimeGpuModel? t = filledIn? (t.profile?.bind (·.gpu)) := by
  unfold runtimeGpuModel?
  rw [h, Option.orElse_eq_orElse, Option.orElse_none]

theorem not_profiledElsewhere_of_satisfies {o : TemplateOverrides} {g : GpuSelector}
    {wanted : String} (hfits : satisfies t.spec o = true) (hg : o.gpuSelector = some g)
    (hw : g.model = some wanted) : ¬ t.ProfiledElsewhere gpus := by
  obtain ⟨model, hmodel, -⟩ := gpuModel?_of_gpuFits (gpuFits_of_satisfies hfits hg) hw
  intro h
  cases hmodel.symm.trans h.unbound

variable {service : ServiceObject} {name : String} {m : ModelRecord} {caching : CachingObservation}
  {config : EffectiveConfig} {policy : Policy} {runtime : InferenceService}

/-- The runtime over a selected template is placed on a GPU that no node has exactly if the
template leaves its GPU to a profile that was made on such a one. This is not so where the
overrides name a GPU. -/
theorem placed_on_absent_gpu_iff (hgpus : gpus ≠ [])
    (h : selectTemplate candidates overrides gpus = .selected t)
    (hbuilt : runtimeFor service name m t caching config policy = .ok runtime) {placed : String}
    (hplaced : runtime.spec.predictor.affinity = some (gpuAffinity placed)) :
    (GpuModel.canonical placed ∉ gpus ↔ t.ProfiledElsewhere gpus) ∧
      ∀ o g wanted, overrides = some o → o.gpuSelector = some g → g.model = some wanted →
        GpuModel.canonical placed ∈ gpus := by
  have havailable := available_of_selectTemplate h
  rw [affinity_of_runtimeFor hbuilt] at hplaced
  obtain ⟨model, hmodel, haffinity⟩ := Option.map_eq_some_iff.1 hplaced
  have hsame : GpuModel.canonical placed = GpuModel.canonical model :=
    (gpuAffinity_eq_iff.1 haffinity).symm
  have hiff : GpuModel.canonical placed ∉ gpus ↔ t.ProfiledElsewhere gpus := by
    rw [hsame]
    constructor
    · intro habsent
      rcases runtimeGpuModel?_eq_some hmodel with hspec | ⟨hunbound, hprofile⟩
      · exact absurd (havailable.runs hgpus model hspec) habsent
      · exact ⟨hunbound, model, hprofile, habsent⟩
    · rintro ⟨hunbound, profiled, hprofile, habsent⟩
      rw [runtimeGpuModel?_of_unbound hunbound, hprofile] at hmodel
      have hchosen : profiled = model := Option.some.inj (Option.filter_eq_some_iff.1 hmodel).1
      rw [← hchosen]
      exact habsent
  refine ⟨hiff, fun o g wanted ho hg hw => ?_⟩
  by_contra habsent
  exact not_profiledElsewhere_of_satisfies (havailable.fits o ho) hg hw (hiff.1 habsent)

end

theorem bound_template_placed :
    ∃ runtime, runtimeFor cachedService "chat" (.ofObject .cluster cachedModel) boundTemplate
        (observe cachedService cachedSnapshot Policy.standard).caching
        (observe cachedService cachedSnapshot Policy.standard).config.effective
        Policy.standard = .ok runtime ∧
      selectTemplate [boundTemplate] none ["MI250X"] = .selected boundTemplate ∧
      runtime.spec.predictor.affinity = some (gpuAffinity "mi-250") ∧
      GpuModel.canonical "mi-250" ∈ ["MI250X"] := by
  have hscales :
      (runtimeResources cachedService.spec boundTemplate Policy.standard).isOk = true := by
    decide +kernel
  obtain ⟨runtime, hbuilt⟩ := Observation.exists_runtimeFor hscales "chat"
    (.ofObject .cluster cachedModel)
    (observe cachedService cachedSnapshot Policy.standard).caching
    (observe cachedService cachedSnapshot Policy.standard).config.effective
  have hselected : selectTemplate [boundTemplate] none ["MI250X"] = .selected boundTemplate := by
    decide +kernel
  have hplaced : runtime.spec.predictor.affinity = some (gpuAffinity "mi-250") := by
    have hsame : GpuModel.canonical "MI250X" = GpuModel.canonical "mi-250" := by decide +kernel
    have hmodel : runtimeGpuModel? boundTemplate = some "MI250X" := by decide +kernel
    rw [affinity_of_runtimeFor hbuilt, hmodel, ← gpuAffinity_congr hsame, Option.map_some]
  obtain ⟨hiff, -⟩ := placed_on_absent_gpu_iff (List.cons_ne_nil _ _) hselected hbuilt hplaced
  refine ⟨runtime, hbuilt, hselected, hplaced, ?_⟩
  by_contra habsent
  cases (hiff.1 habsent).unbound

/-- A template that is bound to no GPU, with a profile that was made on another than that of the
cluster. -/
def profiledElsewhere : TemplateObject :=
  { cachedTemplate with
    status := some ⟨.ready, [], some { (default : TemplateProfile) with
      metadata := { (default : ProfileMetadata) with gpu := some "MI250X" } }⟩ }

def elsewhereSnapshot : Snapshot :=
  { cachedSnapshot with templates := ⟨[], [profiledElsewhere]⟩, gpus := ["MI300X"] }

/-- The template is selected for the cluster, and the runtime that is sent waits for devices that
no node has. -/
theorem selected_template_placed_elsewhere :
    selectTemplate [.ofObject .cluster profiledElsewhere] none elsewhereSnapshot.gpus =
        .selected (.ofObject .cluster profiledElsewhere) ∧
      GpuModel.canonical "MI250X" ∉ elsewhereSnapshot.gpus ∧
      ∃ plan d, (observe cachedService elsewhereSnapshot Policy.standard).plan cachedService
          Policy.standard = .ok plan ∧
        d ∈ plan.objects ∧ d.kind = .inferenceService ∧ d.mode = .wholeObject ∧
        ∃ m runtime, (observe cachedService elsewhereSnapshot Policy.standard).Sends cachedService
            Policy.standard d m (.ofObject .cluster profiledElsewhere) runtime ∧
          runtime.spec.predictor.affinity = some (gpuAffinity "MI250X") := by
  have hplanned : plansRuntime ((observe cachedService elsewhereSnapshot Policy.standard).plan
      cachedService Policy.standard) = true := by decide +kernel
  obtain ⟨plan, hplan, d, hd, hkind, hmode⟩ := exists_of_plansRuntime hplanned
  obtain ⟨m, t, runtime, hsends⟩ := Observation.exists_sends_of_plan hplan hd hkind hmode
  have hready : (observe cachedService elsewhereSnapshot Policy.standard).template.ready? =
      some (.ofObject .cluster profiledElsewhere) := by decide +kernel
  cases Option.some.inj (hsends.template.symm.trans hready)
  have hmodel : runtimeGpuModel? (.ofObject .cluster profiledElsewhere) = some "MI250X" := by
    decide +kernel
  have hplaced : runtime.spec.predictor.affinity = some (gpuAffinity "MI250X") := by
    rw [affinity_of_runtimeFor hsends.built, hmodel, Option.map_some]
  exact ⟨by decide +kernel, by decide +kernel, plan, d, hplan, hd, hkind, hmode, m, runtime, hsends,
    hplaced⟩

end InferenceReconciler
